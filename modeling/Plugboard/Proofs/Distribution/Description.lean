import Mathlib.Data.List.Forall2
import Plugboard.Distribution.Meta
import Plugboard.Proofs.Text.Order

/-!
# What a description depends on

A description is drawn from the values of eight headers. Seven of them count in their order: a first
value that is not blank, or the names in all values one after another. The addresses of the project
are sorted before one is picked, so for these the order does not count (`urlOf_congr`).

Two distributions of one name and version whose headers have the same values in this sense (`Alike`)
are described alike. How names are spelled in upper and lower case, how the headers of different
names are mixed and which other headers there are does not change the values.
-/

namespace Plugboard

namespace Headers

/-- The values that stand under a name, whatever the case of its ASCII letters, in order. -/
def valuesUnder (h : Headers) (name : String) : List String :=
  h.entries.filterMap fun header =>
    if Text.asciiLowercase header.1 = Text.asciiLowercase name then some header.2 else none

/-- The values of a header are those under its name in any case. -/
theorem getAll_eq_valuesUnder (h : Headers) (name : String) :
    h.getAll name = h.valuesUnder name := by
  unfold getAll valuesUnder
  rw [← List.filterMap_eq_map, List.filterMap_filter]
  refine List.filterMap_congr fun header _ => ?_
  simp [named]

/-- The value of a header is the first of them. -/
theorem get?_eq_head?_valuesUnder (h : Headers) (name : String) :
    h.get? name = (h.valuesUnder name).head? := by
  rw [get?_eq_head?_getAll, getAll_eq_valuesUnder]

end Headers

namespace DistMeta

/-- The names of the headers whose values count in their order. -/
def orderedNames : List String :=
  ["Summary", "Maintainer", "Maintainer-Email", "Author", "Author-Email", "License-Expression",
    "License-File"]

/-- Two lists of headers have the same values where it matters. -/
structure Alike (h h' : Headers) : Prop where
  /-- Most values count in their order. -/
  ordered : ∀ name ∈ orderedNames, h.valuesUnder name = h'.valuesUnder name
  /-- The addresses of the project do not. -/
  urls : (h.valuesUnder "Project-Url").Perm (h'.valuesUnder "Project-Url")

namespace Alike

variable {h h' : Headers} (halike : Alike h h')
include halike

/-- Headers that are alike have the same first value. -/
theorem get?_eq {name : String} (hname : name ∈ orderedNames) : h.get? name = h'.get? name := by
  rw [h.get?_eq_head?_valuesUnder, h'.get?_eq_head?_valuesUnder, halike.ordered name hname]

/-- They have the same values. -/
theorem getAll_eq {name : String} (hname : name ∈ orderedNames) :
    h.getAll name = h'.getAll name := by
  rw [h.getAll_eq_valuesUnder, h'.getAll_eq_valuesUnder, halike.ordered name hname]

/-- They name the same author. -/
theorem authorOf_eq : authorOf h = authorOf h' := by
  unfold authorOf
  rw [halike.get?_eq (by simp [orderedNames]), halike.getAll_eq (by simp [orderedNames]),
    halike.get?_eq (by simp [orderedNames]), halike.getAll_eq (by simp [orderedNames])]

/-- They name the same license. -/
theorem licenseOf_eq : licenseOf h = licenseOf h' := by
  unfold licenseOf
  rw [halike.get?_eq (by simp [orderedNames]), halike.get?_eq (by simp [orderedNames])]

/-- Sorting the addresses makes up for their order. -/
theorem urlOf_eq : urlOf h = urlOf h' := by
  unfold urlOf
  rw [h.getAll_eq_valuesUnder, h'.getAll_eq_valuesUnder, Text.sort_eq_sort_of_perm halike.urls]

end Alike

/-- Distributions with headers that are alike are described alike. -/
theorem ofDistribution_congr {d d' : Distribution} (hname : d.name = d'.name)
    (hversion : d.version = d'.version) (halike : Alike d.headers d'.headers) (name : String) :
    ofDistribution name d = ofDistribution name d' := by
  unfold ofDistribution
  rw [hname, hversion, halike.get?_eq (by simp [orderedNames]), halike.authorOf_eq,
    halike.licenseOf_eq, halike.urlOf_eq]

/-! ## Headers with the same values -/

/-- Lists of headers that have the same values under every name that is read are alike. -/
theorem alike_of_valuesUnder {h h' : Headers}
    (hvalues : ∀ name ∈ "Project-Url" :: orderedNames, h.valuesUnder name = h'.valuesUnder name) :
    Alike h h' where
  ordered name hname := hvalues name (List.mem_cons_of_mem _ hname)
  urls := hvalues _ List.mem_cons_self ▸ List.Perm.refl _

/-- Whether two headers differ at most in the case of ASCII letters in their names. -/
def Recased (header header' : String × String) : Prop :=
  Text.asciiLowercase header.1 = Text.asciiLowercase header'.1 ∧ header.2 = header'.2

/-- Names in another case have the same values. -/
theorem valuesUnder_of_recased {entries entries' : List (String × String)}
    (h : List.Forall₂ Recased entries entries') (name : String) :
    Headers.valuesUnder ⟨entries⟩ name = Headers.valuesUnder ⟨entries'⟩ name := by
  unfold Headers.valuesUnder
  induction h with
  | nil => rfl
  | cons hfirst _ ih =>
    obtain ⟨hcase, hvalue⟩ := hfirst
    simp only [List.filterMap_cons, hcase, hvalue]
    rw [ih]

/-- What stands under a name is told by the headers of any choice that has all of the name. -/
theorem valuesUnder_of_filter {entries entries' : List (String × String)}
    {p : String × String → Bool} (h : entries.filter p = entries'.filter p) {name : String}
    (hp : ∀ header : String × String,
      Text.asciiLowercase header.1 = Text.asciiLowercase name → p header = true) :
    Headers.valuesUnder ⟨entries⟩ name = Headers.valuesUnder ⟨entries'⟩ name := by
  -- the choice has all headers of this name, so filtering by it loses none of them
  have hfilter : ∀ all : List (String × String),
      Headers.valuesUnder ⟨all.filter p⟩ name = Headers.valuesUnder ⟨all⟩ name := by
    intro all
    unfold Headers.valuesUnder
    rw [List.filterMap_filter]
    refine List.filterMap_congr fun header _ => ?_
    by_cases hname : Text.asciiLowercase header.1 = Text.asciiLowercase name
    · rw [if_pos (hp header hname)]
    · simp [hname]
  rw [← hfilter entries, ← hfilter entries', h]

/-- Whether a header has one of the names that are read. -/
def isRead (header : String × String) : Bool :=
  ("Project-Url" :: orderedNames).any fun name =>
    Text.asciiLowercase header.1 = Text.asciiLowercase name

/-- Distributions of one name and version are described alike if they have the same values in the
    same order under seven of the names that are read, and the same addresses of the project in any
    order. In particular, a description does not change if names are spelled in another case, if
    headers of different names are mixed in another way, or if other headers come in anywhere. -/
theorem described_by_values :
    (∀ name (d d' : Distribution), d.name = d'.name → d.version = d'.version →
        Alike d.headers d'.headers → ofDistribution name d = ofDistribution name d') ∧
      (∀ name (d : Distribution) entries, List.Forall₂ Recased d.headers.entries entries →
        ofDistribution name { d with headers := ⟨entries⟩ } = ofDistribution name d) ∧
      (∀ name (d : Distribution) entries,
        (∀ key, entries.filter (fun header => Text.asciiLowercase header.1 = key) =
          d.headers.entries.filter fun header => Text.asciiLowercase header.1 = key) →
        ofDistribution name { d with headers := ⟨entries⟩ } = ofDistribution name d) ∧
      ∀ name (d : Distribution) entries, entries.filter isRead = d.headers.entries.filter isRead →
        ofDistribution name { d with headers := ⟨entries⟩ } = ofDistribution name d := by
  -- the other three changes of headers leave all values as they are
  refine ⟨fun name d d' hname hversion halike => ofDistribution_congr hname hversion halike name,
    ?_, ?_, ?_⟩
  · intro name d entries hrecased
    have halike : Alike d.headers ⟨entries⟩ :=
      alike_of_valuesUnder fun key _ => valuesUnder_of_recased hrecased key
    exact (ofDistribution_congr (by rfl) (by rfl) halike name).symm
  · intro name d entries hkeys
    have halike : Alike ⟨entries⟩ d.headers :=
      alike_of_valuesUnder fun key _ => valuesUnder_of_filter (hkeys (Text.asciiLowercase key))
        fun header hkey => by simpa using hkey
    exact ofDistribution_congr (by rfl) (by rfl) halike name
  · intro name d entries hread
    have halike : Alike ⟨entries⟩ d.headers :=
      alike_of_valuesUnder fun key hmem => valuesUnder_of_filter hread fun header hkey =>
        List.any_eq_true.2 ⟨key, hmem, by simpa using hkey⟩
    exact ofDistribution_congr (by rfl) (by rfl) halike name

/-- Names are spelled in two ways, headers stand in another order, the addresses of the project
    among them, and a header that is not read comes in. The maintainer is blank, so that the author
    is drawn from the addresses. -/
theorem described_by_values_mixed :
    let d : Distribution :=
      { name := "portal", version := "1.0", entryPoints := [],
        headers := ⟨[("Summary", " News "), ("Maintainer", " "), ("Author-Email", "Jo <jo@x>"),
          ("Project-Url", "Source, https://b"), ("Project-Url", "Homepage, https://a")]⟩ }
    let d' : Distribution :=
      { d with headers := ⟨[("Project-URL", "Homepage, https://a"), ("maintainer", " "),
          ("Classifier", "x"), ("author-email", "Jo <jo@x>"), ("SUMMARY", " News "),
          ("project-url", "Source, https://b")]⟩ }
    d.name = d'.name ∧ d.version = d'.version ∧ Alike d.headers d'.headers ∧
      ofDistribution "portal" d = ofDistribution "portal" d' := by
  intro d d'
  have halike : Alike d.headers d'.headers :=
    { ordered := by decide +kernel
      urls := by decide +kernel }
  exact ⟨rfl, rfl, halike, described_by_values.1 "portal" d d' rfl rfl halike⟩

end DistMeta

end Plugboard
