import Plugboard.Distribution.Basic
import Plugboard.Proofs.Json.Reading
import Plugboard.Proofs.Json.Record

/-!
# Distributions in serialized form

A JSON value spells a distribution if it stands for a record of its fields, and those that are
records themselves are spelled as freely: each of them may be an object or an array, whatever the
others are. What spells a distribution decodes to it (`Distribution.Spells.ofJson_eq`). Its
serialized form is one of the spellings, and what is read from the text of that form is another
(`Distribution.spells_canonical`).
-/

namespace Plugboard

open Json

/-! ## Headers -/

namespace Headers

/-- Headers as an array of pairs. -/
def pairs (h : Headers) : Json :=
  .arr (h.entries.map fun (name, value) => .arr [.str name, .str value])

/-- A value spells headers. -/
def Spells (h : Headers) : Json → Prop := Record [("entries", h.pairs)]

/-- The pairs of headers are read back. -/
theorem asList_pairs (h : Headers) : asList asPair h.pairs = .ok h.entries :=
  asList_map asPair (fun _ => rfl) h.entries

/-- Headers are decoded from every spelling of them. -/
theorem Spells.ofJson_eq {h : Headers} {v : Json} (hv : h.Spells v) : ofJson v = .ok h := by
  cases hv with
  | @object fields hfields =>
    have hentries : field? fields "entries" (asList asPair) = .ok (some h.entries) :=
      hfields.field?_eq (by simp) (by simp) h.asList_pairs
    rw [ofJson, hentries]
    rfl
  | array =>
    simp only [List.map_cons, List.map_nil, ofJson, itemAt, List.getElem?_cons_zero, asList_pairs]
    rfl

/-- The canonical form of headers spells them. -/
theorem spells_canonical (h : Headers) : h.Spells (canonical h.toJson) := by
  have hpairs : canonical h.pairs = h.pairs :=
    canonical_arr (List.forall_mem_map.2 fun _ _ => rfl)
  have hcanonical : canonical h.toJson = object [("entries", canonical h.pairs)] := rfl
  rw [hcanonical, hpairs]
  exact record_object (by simp)

/-- Headers in serialized form are three levels deep. -/
theorem plain_toJson (room : Nat) (h : Headers) : Plain (room + 3) h.toJson :=
  .obj (List.forall_mem_singleton.2 (.arr (List.forall_mem_map.2 fun _ _ =>
    .arr (by simp [Plain.str]))))

end Headers

/-! ## Entry points -/

namespace EntryPoint

/-- A value spells an entry point. -/
def Spells (e : EntryPoint) : Json → Prop :=
  Record [("name", .str e.name), ("group", .str e.group), ("value", .str e.value)]

/-- An entry point is decoded from every spelling of it. -/
theorem Spells.ofJson_eq {e : EntryPoint} {v : Json} (hv : e.Spells v) : ofJson v = .ok e := by
  cases hv with
  | @object fields hfields =>
    have hname : field? fields "name" asText = .ok (some e.name) :=
      hfields.field?_asText (by simp) (by simp)
    have hgroup : field? fields "group" asText = .ok (some e.group) :=
      hfields.field?_asText (by simp) (by simp)
    have hvalue : field? fields "value" asText = .ok (some e.value) :=
      hfields.field?_asText (by simp) (by simp)
    rw [ofJson, hgroup, hname, hvalue]
    rfl
  | array => rfl

/-- The canonical form of an entry point spells it. -/
theorem spells_canonical (e : EntryPoint) : e.Spells (canonical e.toJson) :=
  record_object (by simp)

/-- An entry point in serialized form is one level deep. -/
theorem plain_toJson (room : Nat) (e : EntryPoint) : Plain (room + 1) e.toJson :=
  .obj (by simp [Plain.str])

end EntryPoint

/-! ## Distributions -/

namespace Distribution

/-- A value spells a distribution, whose headers and entry points are spelled in any way. -/
inductive Spells (d : Distribution) (v : Json) : Prop where
  | intro {headers : Json} {entryPoints : List Json} (hheaders : d.headers.Spells headers)
    (hentryPoints : List.Forall₂ EntryPoint.Spells d.entryPoints entryPoints)
    (hrecord : Record [("name", .str d.name), ("version", .str d.version), ("metadata", headers),
      ("entry_points", .arr entryPoints)] v)

/-- A distribution in serialized form spells itself, all of its records being objects. -/
theorem spells_toJson (d : Distribution) : d.Spells d.toJson :=
  ⟨record_self _, List.forall₂_map_right_iff.2 (List.forall₂_same.2 fun _ _ => record_self _),
    record_self _⟩

/-- A distribution is decoded from every spelling, whichever of its records are arrays. -/
theorem Spells.ofJson_eq {d : Distribution} {v : Json} (hv : d.Spells v) : ofJson v = .ok d := by
  -- what is spelled inside is decoded first: it does not matter where the record puts it
  obtain ⟨hheaders, hentryPoints, hrecord⟩ := hv
  have hheaders := hheaders.ofJson_eq
  have hentryPoints := asList_eq_ok (hentryPoints.imp fun _ _ => EntryPoint.Spells.ofJson_eq)
  cases hrecord with
  | @object fields hfields =>
    have hname : field? fields "name" asText = .ok (some d.name) :=
      hfields.field?_asText (by simp) (by simp)
    have hversion : field? fields "version" asText = .ok (some d.version) :=
      hfields.field?_asText (by simp) (by simp)
    rw [ofJson, hfields.field?_eq (by simp) (by simp) hentryPoints,
      hfields.field?_eq (by simp) (by simp) hheaders, hname, hversion]
    rfl
  | array =>
    simp only [List.map_cons, List.map_nil, ofJson, itemAt, List.getElem?_cons_succ,
      List.getElem?_cons_zero, hheaders, hentryPoints]
    rfl

/-- The canonical form of a distribution spells it. -/
theorem spells_canonical (d : Distribution) : d.Spells (canonical d.toJson) := by
  have hcanonical : canonical d.toJson = object [("name", .str d.name), ("version", .str d.version),
      ("metadata", canonical d.headers.toJson),
      ("entry_points", .arr (canonicalItems (d.entryPoints.map EntryPoint.toJson)))] := rfl
  rw [hcanonical, canonicalItems_eq_map, List.map_map]
  refine ⟨d.headers.spells_canonical, ?_, record_object (by simp)⟩
  exact List.forall₂_map_right_iff.2 (List.forall₂_same.2 fun e _ => e.spells_canonical)

/-- A distribution in serialized form is four levels deep. -/
theorem plain_toJson (room : Nat) (d : Distribution) : Plain (room + 4) d.toJson := by
  refine .obj ?_
  simp only [List.forall_mem_cons, List.not_mem_nil, false_imp_iff, implies_true, and_true]
  exact ⟨.str _ _, .str _ _, d.headers.plain_toJson room,
    .arr (List.forall_mem_map.2 fun e _ => e.plain_toJson _)⟩

/-- A distribution that is written as text is read again. -/
theorem read?_compact_toJson (d : Distribution) :
    (read? (compact d.toJson)).map ofJson = some (.ok d) := by
  rw [read?_compact (d.plain_toJson 123), Option.map_some, d.spells_canonical.ofJson_eq]

end Distribution

end Plugboard
