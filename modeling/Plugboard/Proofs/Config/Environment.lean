import Mathlib.Data.List.Induction
import Plugboard.Config.Environment
import Plugboard.Config.Reading
import Plugboard.Proofs.Decimal.Reading
import Plugboard.Proofs.Text.Lines

/-!
# What variables give settings

A text is taken for a truth value or a number if it spells one (`scalar?`), whatever setting it is
for; only a text that spells none is split for a list of names. So a text setting is given the
printed form of what is spelled (`givenText`), which is the text itself in the cases that `Verbatim`
lists (`givenText_eq_self_iff`).

Among the settings that variables give values, the one of a variable stands in the same place
whatever its text (`exists_layer`).
-/

namespace Plugboard.Config

open Text

/-! ## Texts that are taken for something else -/

/-- The truth value or the number that a text is taken for. -/
def scalar? (text : String) : Option Json :=
  if lowercase text = "true" then some (.bool true)
  else if lowercase text = "false" then some (.bool false)
  else match Decimal.readInt? text.toList with
    | some i => some (.int i)
    | none => (Decimal.readFloat? text.toList).map .float

/-- A text gives a scalar if it spells one, and else itself or the list it is split into. -/
theorem variableValue_eq (path text : String) :
    variableValue path text = (scalar? text).getD
      (if listPaths.contains path then .texts (splitAll ',' text) else .str text) := by
  simp only [variableValue, scalar?]
  split
  · rfl
  split
  · rfl
  cases Decimal.readInt? text.toList with
  | some i => rfl
  | none => cases Decimal.readFloat? text.toList <;> rfl

/-- A character without case stays when a text is put in lower case. -/
theorem mem_lowercase {c : Char} {text : String} (h : c ∈ text.toList) (hc : lowerChar c = [c]) :
    c ∈ (lowercase text).toList := by
  rw [lowercase, String.toList_ofList, List.mem_flatMap]
  exact ⟨c, h, by simp [hc]⟩

/-- A text with a character that is no letter of `true` or `false` is neither word in any case. -/
theorem lowercase_ne_of_mem {c : Char} {text : String} (h : c ∈ text.toList)
    (hlower : lowerChar c = [c]) (hletter : c ∉ "truefalse".toList) :
    lowercase text ≠ "true" ∧ lowercase text ≠ "false" := by
  have hmem := mem_lowercase h hlower
  constructor
  · intro hword
    rw [hword] at hmem
    exact hletter (List.mem_append_left "false".toList hmem)
  · intro hword
    rw [hword] at hmem
    exact hletter (List.mem_append_right "true".toList hmem)

/-- A text with a character that is in no truth value and in no number stands for itself. -/
theorem scalar?_eq_none_of_mem {c : Char} {text : String} (h : c ∈ text.toList)
    (hlower : lowerChar c = [c]) (hletter : c ∉ "truefalse".toList)
    (hnumeric : Decimal.isNumeric c = false) : scalar? text = none := by
  obtain ⟨htrue, hfalse⟩ := lowercase_ne_of_mem h hlower hletter
  rw [scalar?, if_neg htrue, if_neg hfalse, Decimal.readInt?_eq_none_of_mem h hnumeric,
    Decimal.readFloat?_eq_none_of_mem h hnumeric]
  rfl

/-- A digit has no case and occurs in no truth value. -/
theorem lowerChar_of_isDigit {c : Char} (h : c.isDigit = true) :
    lowerChar c = [c] ∧ c ∉ "truefalse".toList := by
  have hrange : 48 ≤ c.toNat ∧ c.toNat ≤ 57 := by
    simpa [Char.isDigit, UInt32.le_iff_toNat_le] using h
  -- there are ten digits to look at
  have hdigits : ∀ n : Fin 10, lowerChar (.ofNat (48 + n)) = [.ofNat (48 + n)] ∧
      .ofNat (48 + n) ∉ "truefalse".toList := by decide +kernel
  have hn : 48 + (c.toNat - 48) = c.toNat := by omega
  simpa [hn] using hdigits ⟨c.toNat - 48, by omega⟩

/-- What spells an integer spells no truth value. -/
theorem scalar?_of_readInt? {text : String} {i : Int}
    (h : Decimal.readInt? text.toList = some i) : scalar? text = some (.int i) := by
  obtain ⟨-, c, hmem, hdigit⟩ := Decimal.readInt?_eq_some h
  obtain ⟨hlower, hletter⟩ := lowerChar_of_isDigit hdigit
  obtain ⟨htrue, hfalse⟩ := lowercase_ne_of_mem hmem hlower hletter
  rw [scalar?, if_neg htrue, if_neg hfalse, h]

/-- A scalar is a truth value, an integer or a number with a point. -/
theorem scalar?_eq_some {text : String} {v : Json} (h : scalar? text = some v) :
    (∃ b : Bool, v = .bool b) ∨ (∃ i, Decimal.readInt? text.toList = some i ∧ v = .int i) ∨
      ∃ x, v = .float x := by
  unfold scalar? at h
  split at h
  · exact .inl ⟨true, (Option.some.inj h).symm⟩
  split at h
  · exact .inl ⟨false, (Option.some.inj h).symm⟩
  split at h
  · rename_i i hi
    exact .inr (.inl ⟨i, hi, (Option.some.inj h).symm⟩)
  · obtain ⟨x, -, hx⟩ := Option.map_eq_some_iff.1 h
    exact .inr (.inr ⟨x, hx.symm⟩)

/-- A scalar can be read as a text, but not as a list, and is no table. -/
theorem read_scalar {text : String} {v : Json} (h : scalar? text = some v) :
    (asText? v).isSome = true ∧ asTexts? v = none ∧ ∀ fields, v ≠ .obj fields := by
  obtain ⟨b, rfl⟩ | ⟨i, -, rfl⟩ | ⟨x, rfl⟩ := scalar?_eq_some h
  all_goals exact ⟨rfl, rfl, nofun⟩

/-- The text that a text setting is given by a text: the printed form of the scalar that it is taken
    for, or else the text. -/
def givenText (text : String) : String := ((scalar? text).bind asText?).getD text

/-- A setting that is no list reads the text that it is given. -/
theorem asText?_variableValue {path : String} (hpath : listPaths.contains path = false)
    (text : String) : asText? (variableValue path text) = some (givenText text) := by
  rw [variableValue_eq, givenText, hpath]
  cases hscalar : scalar? text with
  | none => rfl
  | some v =>
    obtain ⟨s, hs⟩ := Option.isSome_iff_exists.1 (read_scalar hscalar).1
    simp [hs]

/-- A variable never gives a table. -/
theorem variableValue_ne_obj (path text : String) (fields : List (String × Json)) :
    variableValue path text ≠ .obj fields := by
  rw [variableValue_eq]
  cases hscalar : scalar? text with
  | none => split <;> exact nofun
  | some v => exact (read_scalar hscalar).2.2 fields

/-- A list of texts is read as it is. -/
theorem asTexts?_texts (items : List String) : asTexts? (.texts items) = some items := by
  show (items.map Json.str).mapM asText? = some items
  induction items with
  | nil => rfl
  | cons s rest ih => simp [asText?, ih]

/-- A text for a list is split if it is taken for no scalar. -/
theorem asTexts?_variableValue {path : String} (hpath : listPaths.contains path = true)
    (text : String) : asTexts? (variableValue path text) =
      if (scalar? text).isSome then none else some (splitAll ',' text) := by
  rw [variableValue_eq, hpath]
  cases hscalar : scalar? text with
  | none => exact asTexts?_texts _
  | some v => exact (read_scalar hscalar).2.1

/-- Names that are joined by commas are taken for a scalar only if there is a single one that is. -/
theorem scalar?_joinWith {names : List String} (hne : names ≠ [])
    (hsingle : ∀ name, names = [name] → scalar? name = none) :
    scalar? (joinWith "," names) = none := by
  match names, hne with
  | [name], _ => exact hsingle name rfl
  | s :: t :: rest, _ =>
    exact scalar?_eq_none_of_mem (mem_joinWith rfl s t rest) (by decide +kernel) (by decide)
      (by decide)

/-- The texts that text settings are given as they are. -/
inductive Verbatim (text : String) : Prop where
  /-- What is taken for no scalar. -/
  | plain (h : scalar? text = none)
  /-- The truth values in lower case. -/
  | bool (h : text = "true" ∨ text = "false")
  /-- The decimals of the integers of 64 bits. -/
  | int (i : Int) (hrange : -0x8000000000000000 ≤ i ∧ i < 0x8000000000000000)
      (h : toString i = text)
  /-- What a floating-point number prints as, if it is taken for that very number. -/
  | float (x : Float) (hscalar : scalar? text = some (.float x)) (h : Decimal.plain.text x = text)

/-- A text is given as it is in the cases listed, and in no others. -/
theorem givenText_eq_self_iff {text : String} : givenText text = text ↔ Verbatim text := by
  constructor
  · intro h
    unfold givenText at h
    cases hscalar : scalar? text with
    | none => exact .plain hscalar
    | some v =>
      rw [hscalar] at h
      -- a scalar is printed in its own way, and that may be the text it was read from
      obtain ⟨b, rfl⟩ | ⟨i, hi, rfl⟩ | ⟨x, rfl⟩ := scalar?_eq_some hscalar
      · cases b with
        | true => exact .bool (.inl h.symm)
        | false => exact .bool (.inr h.symm)
      · exact .int i (Decimal.readInt?_eq_some hi).1 h
      · exact .float x hscalar h
  · intro h
    cases h with
    | plain h => rw [givenText, h]; rfl
    | bool h =>
      cases h with
      | inl h => subst h; decide +kernel
      | inr h => subst h; decide +kernel
    | int i hrange h =>
      subst h
      rw [givenText, scalar?_of_readInt? (Decimal.readInt?_toString hrange)]
      rfl
    | float x hscalar h =>
      rw [givenText, hscalar]
      exact h

/-! ## Variables among others -/

/-- The last variable is put last, if it is for a setting at all. -/
theorem layerOfVariables_concat (env : List (String × String)) (name text : String) :
    layerOfVariables (env ++ [(name, text)]) =
      match variablePath? name with
      | some path => Keyed.put path (variableValue path text) (layerOfVariables env)
      | none => layerOfVariables env := by
  rw [layerOfVariables, List.foldl_append]
  rfl

/-- Every entry is that of a variable. -/
theorem exists_variable {env : List (String × String)} {path : String} {v : Json}
    (h : (path, v) ∈ layerOfVariables env) : ∃ p ∈ env, variablePath? p.1 = some path := by
  induction env using List.reverseRecOn with
  | nil => simp [layerOfVariables] at h
  | append_singleton env p ih =>
    obtain ⟨name, text⟩ := p
    rw [layerOfVariables_concat] at h
    cases hname : variablePath? name with
    | none =>
      rw [hname] at h
      obtain ⟨p, hp, hpath⟩ := ih h
      exact ⟨p, List.mem_append_left _ hp, hpath⟩
    | some path' =>
      rw [hname] at h
      -- the entry is the one just put, or was there before
      cases Keyed.mem_put h with
      | inl h =>
        rw [(Prod.mk.inj h).1]
        exact ⟨_, List.mem_append_right env List.mem_cons_self, hname⟩
      | inr h =>
        obtain ⟨p, hp, hpath⟩ := ih h
        exact ⟨p, List.mem_append_left _ hp, hpath⟩

/-- With no other variable for its setting, a variable only adds an entry to those of the others. -/
theorem exists_layer {name path : String} (hname : variablePath? name = some path)
    {before after : List (String × String)}
    (hothers : ∀ p ∈ before ++ after, variablePath? p.1 ≠ some path) :
    ∃ first last, layerOfVariables (before ++ after) = first ++ last ∧
      ∀ text, layerOfVariables (before ++ (name, text) :: after) =
        first ++ (path, variableValue path text) :: last := by
  -- on the variables behind, the last of which is read last
  induction after using List.reverseRecOn with
  | nil =>
    refine ⟨layerOfVariables before, [], by simp, fun text => ?_⟩
    -- nothing stands at the path yet, so the variable comes last
    have hnew : Keyed.get? path (layerOfVariables before) = none := by
      rw [Keyed.get?_eq_none_iff]
      intro hmem
      obtain ⟨⟨path', v⟩, hv, rfl⟩ := List.mem_map.1 hmem
      obtain ⟨p, hp, hpath⟩ := exists_variable hv
      exact hothers p (List.mem_append_left _ hp) hpath
    rw [layerOfVariables_concat, hname]
    exact Keyed.put_eq_append hnew _
  | append_singleton after p ih =>
    obtain ⟨name', text'⟩ := p
    rw [← List.append_assoc] at hothers
    obtain ⟨first, last, hwithout, hwith⟩ :=
      ih fun p hp => hothers p (List.mem_append_left _ hp)
    have hlast := hothers (name', text') (List.mem_append_right _ List.mem_cons_self)
    have hwith' : ∀ text, layerOfVariables (before ++ (name, text) :: (after ++ [(name', text')])) =
        layerOfVariables ((before ++ (name, text) :: after) ++ [(name', text')]) := by
      intro text
      simp
    simp only [hwith', ← List.append_assoc before after, layerOfVariables_concat, hwithout, hwith]
    cases hpath : variablePath? name' with
    | none => exact ⟨first, last, rfl, fun _ => rfl⟩
    | some path' =>
      -- the last variable is for another setting, so it is put before or behind this one
      have hne : path ≠ path' := fun h => hlast (h ▸ hpath)
      obtain ⟨first', last', hwithout', hwith'⟩ :=
        Keyed.exists_put_append hne (variableValue path' text') first last
      exact ⟨first', last', hwithout', fun text => hwith' (variableValue path text)⟩

end Plugboard.Config
