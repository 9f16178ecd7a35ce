import Plugboard.Proofs.Config.Serialized
import Plugboard.Proofs.Distribution.Serialized

/-!
# Decoding undoes encoding

`decode_encode` draws together what is proved of distributions and of settings: whatever spells one
of them decodes to it, and what spells only some settings decodes to these, with the defaults of the
others. It does not matter whether what is encoded is written as text in between.
-/

namespace Plugboard

open Config Json

/-- A distribution is decoded from its serialized form, also where that is written as text and read
    again, and from every value that spells it: with records as arrays in the place of objects, and
    among unknown fields.

    So are settings. Where some of them are left out, alone or with their table, what is decoded has
    just these at their defaults. -/
theorem decode_encode :
    (∀ d : Distribution, d.Spells d.toJson ∧ Distribution.ofJson d.toJson = .ok d ∧
      (read? (compact d.toJson)).map Distribution.ofJson = some (.ok d) ∧
      ∀ v, d.Spells v → Distribution.ofJson v = .ok d) ∧
    ∀ c : Settings, Spells c (fun _ => true) (fun _ => true) c.toJson ∧
      Settings.ofJson c.toJson = .ok c ∧
      (read? (compact c.toJson)).map Settings.ofJson = some (.ok c) ∧
      ∀ keptTable kept v, Spells c keptTable kept v → Settings.ofJson v =
        .ok (settingsOf fun n =>
          if keptTable n.setting.table ∧ kept n then n.setting.get c else n.default) := by
  constructor
  · intro d
    exact ⟨d.spells_toJson, d.spells_toJson.ofJson_eq, d.read?_compact_toJson,
      fun v hv => hv.ofJson_eq⟩
  · intro c
    refine ⟨spells_toJson c, (spells_toJson c).ofJson_eq, read?_compact_toJson c,
      fun keptTable kept v hv => ?_⟩
    rw [hv.ofJson_eq]
    -- to be kept is to be kept together with the table
    refine congrArg _ (congrArg settingsOf (funext fun n => ?_))
    simp only [keptOr, Bool.and_eq_true]

/-- A distribution as an object, its headers and one of its entry points as arrays, the other entry
    point in another order and beside an unknown field; and settings without the table of logging
    and without the names of disabled plugins, among unknown fields. -/
theorem decode_encode_mixed :
    let d : Distribution := {
      name := "portal", version := "1.0", headers := ⟨[("Name", "portal"), ("Name", "Portal")]⟩
      entryPoints := [⟨"a", "plugins", "a:A"⟩, ⟨"b", "plugins", "b:B"⟩] }
    let v : Json := .obj [("name", .str "portal"), ("version", .str "1.0"), ("license", .null),
      ("metadata", .arr
        [.arr [.arr [.str "Name", .str "portal"], .arr [.str "Name", .str "Portal"]]]),
      ("entry_points", .arr [.arr [.str "a", .str "plugins", .str "a:A"],
        .obj [("group", .str "plugins"), ("name", .str "b"), ("attr", .int 1),
          ("value", .str "b:B")]])]
    let c : Settings := {
      plugins := { projectName := "board", autoLoad := false, disabled := ["portal"] }
      logging := { level := "debug" } }
    let w : Json := .obj [("theme", .str "dark"),
      ("plugins", .obj [("project_name", .str "board"),
        ("entry_point_group", .str "flaskbb_plugins"), ("directory", .str "./plugins"),
        ("level", .int 3), ("auto_load", .bool false)])]
    (d.Spells v ∧ Distribution.ofJson v = .ok d) ∧
      Spells c (· = "plugins") (· ≠ .disabled) w ∧
      Settings.ofJson w = .ok { plugins := { projectName := "board", autoLoad := false } } := by
  intro d v c w
  have hentry : (⟨"b", "plugins", "b:B"⟩ : EntryPoint).Spells (.obj [("group", .str "plugins"),
      ("name", .str "b"), ("attr", .int 1), ("value", .str "b:B")]) :=
    .object (.swap _ _ _)
  have hv : d.Spells v := ⟨.array, .cons .array (.cons hentry .nil), .object .rfl⟩
  -- the table of logging is left out, and so is one field of the other table
  have hw : Spells c (· = "plugins") (· ≠ .disabled) w := by
    refine @Spells.intro c _ _ (fun table => if table = "plugins" then
      [("project_name", .str "board"), ("entry_point_group", .str "flaskbb_plugins"),
        ("directory", .str "./plugins"), ("level", .int 3), ("auto_load", .bool false)]
      else [("level", .str "debug"), ("format", .str "pretty")]) _ ?_ .rfl
    intro table htable
    obtain rfl | htable := List.mem_cons.1 htable
    · exact .rfl
    · obtain rfl := List.mem_singleton.1 htable
      exact .rfl
  refine ⟨⟨hv, (decode_encode.1 d).2.2.2 v hv⟩, hw, ?_⟩
  exact (decode_encode.2 c).2.2.2 _ _ w hw

end Plugboard
