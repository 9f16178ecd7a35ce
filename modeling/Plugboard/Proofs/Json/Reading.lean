import Mathlib.Tactic.SplitIfs
import Plugboard.Json.Reader
import Plugboard.Json.Text

/-!
# Reading JSON text back

What is written for a value without numbers is read as this value, with the fields of objects in
order of their names (`read?_compact`). Each step of the reader has a lemma of its own, and a text,
the items of an array and the fields of an object are inductions over these.

The reader takes a bound on the number of its steps. The length of what is written is enough, as
each step takes a character.
-/

namespace Plugboard.Json

/-! ## Texts -/

/-- A character that has a letter of its own behind a backslash. -/
theorem readString?_letter {letter c : Char} (h : (letter, c) ∈ [('"', '"'), ('\\', '\\'),
      ('n', '\n'), ('r', '\r'), ('t', '\t'), ('b', '\x08'), ('f', '\x0c')])
    (fuel : Nat) (out cs : List Char) :
    readString? (fuel + 1) out ('\\' :: letter :: cs) = readString? fuel (c :: out) cs := by
  simp only [List.mem_cons, List.not_mem_nil, or_false, Prod.mk.injEq] at h
  rcases h with ⟨rfl, rfl⟩ | ⟨rfl, rfl⟩ | ⟨rfl, rfl⟩ | ⟨rfl, rfl⟩ | ⟨rfl, rfl⟩ | ⟨rfl, rfl⟩ |
    ⟨rfl, rfl⟩
  all_goals rfl

/-- A control character is read from its code. -/
theorem readString?_code {c : Char} (h : c.toNat < 0x20) (fuel : Nat) (out cs : List Char) :
    readString? (fuel + 1) out ('\\' :: 'u' :: hex4 c.toNat ++ cs) =
      readString? fuel (c :: out) cs := by
  -- the codes are few: two zeros and two digits each
  have hall : ∀ n : Fin 0x20, hex4 n = ['0', '0', Nat.digitChar (n / 16), Nat.digitChar (n % 16)] ∧
      Text.hexNumber? (hex4 n) = some n.val := by
    decide +kernel
  obtain ⟨hdigits, hnumber⟩ := hall ⟨c.toNat, h⟩
  simp only at hdigits hnumber
  rw [hdigits] at hnumber ⊢
  rw [List.cons_append, List.cons_append, List.cons_append, List.cons_append, List.cons_append,
    List.cons_append, List.nil_append, readString?, hnumber, Option.bind_eq_bind, Option.bind_some,
    if_neg (by omega), if_neg (by omega), Char.ofNat_toNat]

/-- Any other character stands for itself. -/
theorem readString?_plain {c : Char} (hquote : c ≠ '"') (hslash : c ≠ '\\') (h : ¬c.toNat < 0x20)
    (fuel : Nat) (out cs : List Char) :
    readString? (fuel + 1) out (c :: cs) = readString? fuel (c :: out) cs := by
  rw [readString?]
  · rw [if_neg h]
  all_goals simp [hquote, hslash]

/-- A character is read from its form between quotes. -/
theorem readString?_escapeChar (c : Char) (fuel : Nat) (out cs : List Char) :
    readString? (fuel + 1) out (escapeChar c ++ cs) = readString? fuel (c :: out) cs := by
  unfold escapeChar
  split_ifs with hquote hslash hn hr ht hb hf hcode
  all_goals first
    | (subst_vars; exact readString?_letter (by decide) fuel out cs)
    | exact readString?_code hcode fuel out cs
    | exact readString?_plain hquote hslash hcode fuel out cs

/-- Every character is written with one character at least. -/
theorem escapeChar_ne_nil (c : Char) : escapeChar c ≠ [] := by
  unfold escapeChar
  split_ifs
  all_goals exact List.cons_ne_nil _ _

/-- A text is read up to its closing quote. -/
theorem readString?_escaped (s : List Char) (out cs : List Char) {fuel : Nat}
    (h : (s.flatMap escapeChar).length < fuel) :
    readString? fuel out (s.flatMap escapeChar ++ '"' :: cs) =
      some (.ofList (out.reverse ++ s), cs) := by
  induction s generalizing out fuel with
  | nil =>
    obtain ⟨fuel, rfl⟩ := Nat.exists_eq_succ_of_ne_zero (Nat.ne_of_gt h)
    simp [readString?]
  | cons c s ih =>
    -- one step of the bound for a character, which takes one place of the text at least
    have hpos := List.length_pos_iff.2 (escapeChar_ne_nil c)
    rw [List.flatMap_cons, List.length_append] at h
    obtain ⟨fuel, rfl⟩ := Nat.exists_eq_succ_of_ne_zero (Nat.ne_of_gt (Nat.zero_lt_of_lt h))
    rw [List.flatMap_cons, List.append_assoc, Nat.succ_eq_add_one, readString?_escapeChar, ih]
    · simp
    · omega

/-- A text in quotes, as characters. -/
theorem toList_quoted (s : String) :
    (quoted s).toList = '"' :: s.toList.flatMap escapeChar ++ ['"'] := by
  rw [quoted, String.toList_ofList]

/-- The quotes are two more characters than what stands between them. -/
theorem length_quoted (s : String) :
    (quoted s).length = (s.toList.flatMap escapeChar).length + 2 := by
  rw [← String.length_toList, toList_quoted, List.length_append, List.length_cons]
  rfl

/-- A text in quotes is read up to its closing quote, if the bound is not below its length. -/
theorem readString?_quoted (s : String) (cs : List Char) (fuel : Nat)
    (h : (quoted s).length ≤ fuel + 1) :
    ∃ tail, (quoted s).toList ++ cs = '"' :: tail ∧ readString? fuel [] tail = some (s, cs) := by
  rw [length_quoted] at h
  refine ⟨s.toList.flatMap escapeChar ++ '"' :: cs, by simp [toList_quoted], ?_⟩
  rw [readString?_escaped s.toList [] cs (by omega), List.reverse_nil, List.nil_append,
    String.ofList_toList]

/-! ## Steps of the reader -/

/-- A quote begins a text. -/
theorem readValue?_quote (fuel room : Nat) (cs : List Char) :
    readValue? (fuel + 1) room ('"' :: cs) =
      (readString? fuel [] cs).map fun (s, rest) => (.str s, rest) := rfl

/-- A bracket begins an array, which has items unless it ends at once. -/
theorem readValue?_bracket (fuel room : Nat) {c : Char} (hspace : isSpace c = false) (hc : c ≠ ']')
    (cs : List Char) :
    readValue? (fuel + 1) (room + 1) ('[' :: c :: cs) = readItems? fuel room [] (c :: cs) := by
  have hopen : ('[' :: c :: cs).dropWhile isSpace = '[' :: c :: cs := rfl
  have hdrop : (c :: cs).dropWhile isSpace = c :: cs :=
    List.dropWhile_cons_of_neg (by simp [hspace])
  simp only [readValue?, hopen, hdrop]
  split
  · rename_i h
    exact absurd (List.cons.inj h).1 hc
  · rfl

/-- A brace before a quote begins an object with fields. -/
theorem readValue?_brace (fuel room : Nat) (cs : List Char) :
    readValue? (fuel + 1) (room + 1) ('\x7b' :: '"' :: cs) =
      readFields? fuel room [] ('"' :: cs) := rfl

/-! ## Values -/

/-- A value has no number in it, and others stand at most `room` deep in it. -/
inductive Plain : Nat → Json → Prop where
  | null (room : Nat) : Plain room .null
  | bool (room : Nat) (b : Bool) : Plain room (.bool b)
  | str (room : Nat) (s : String) : Plain room (.str s)
  | arr {room : Nat} {items : List Json} (h : ∀ v ∈ items, Plain room v) :
    Plain (room + 1) (.arr items)
  | obj {room : Nat} {fields : List (String × Json)} (h : ∀ p ∈ fields, Plain room p.2) :
    Plain (room + 1) (.obj fields)

/-- What is written for a value begins with a character that tells what it is. -/
theorem Plain.exists_head {room : Nat} {v : Json} (h : Plain room v) :
    ∃ c cs, (compact v).toList = c :: cs ∧ isSpace c = false ∧ c ≠ ']' := by
  -- each form is told by its first character, and none begins with a closing bracket
  cases h with
  | null => exact ⟨'n', _, rfl, by decide⟩
  | bool _ b =>
    cases b with
    | true => exact ⟨'t', _, rfl, by decide⟩
    | false => exact ⟨'f', _, rfl, by decide⟩
  | str _ s =>
    rw [compact, toList_quoted]
    exact ⟨'"', _, rfl, by decide⟩
  | arr =>
    rw [compact, String.toList_append, String.toList_append]
    exact ⟨'[', _, rfl, by decide⟩
  | obj =>
    rw [compact, String.toList_append, String.toList_append]
    exact ⟨'\x7b', _, rfl, by decide⟩

/-- What is written for a value is read as it, with the fields of objects in order. -/
def ReadBack (room : Nat) (v : Json) : Prop :=
  ∀ fuel cs, (compact v).length ≤ fuel →
    readValue? fuel room ((compact v).toList ++ cs) = some (canonical v, cs)

variable {room : Nat} {v : Json}

/-- An item is read, and what follows it tells whether there are more. -/
theorem ReadBack.readItems?_eq (hv : ReadBack room v) {fuel : Nat}
    (hfuel : (compact v).length ≤ fuel) (out : List Json) (cs : List Char) :
    readItems? (fuel + 1) room out ((compact v).toList ++ cs) = match cs.dropWhile isSpace with
      | ',' :: rest => readItems? fuel room (canonical v :: out) rest
      | ']' :: rest => some (.arr (canonical v :: out).reverse, rest)
      | _ => none := by
  rw [readItems?, hv fuel cs hfuel]
  rfl

/-- A field is read, and what follows it tells whether there are more. -/
theorem ReadBack.readFields?_eq (hv : ReadBack room v) {name : String} {fuel : Nat}
    (hfuel : (quoted name ++ compact v).length ≤ fuel) (out : List (String × Json))
    (cs : List Char) :
    readFields? (fuel + 1) room out ((quoted name).toList ++ ':' :: ((compact v).toList ++ cs)) =
      match cs.dropWhile isSpace with
      | ',' :: rest => readFields? fuel room ((name, canonical v) :: out) rest
      | '\x7d' :: rest => some (object ((name, canonical v) :: out).reverse, rest)
      | _ => none := by
  rw [String.length_append] at hfuel
  -- first the name, then the value behind the colon
  obtain ⟨tail, htail, hname⟩ :=
    readString?_quoted name (':' :: ((compact v).toList ++ cs)) fuel (by omega)
  have hspace : ('"' :: tail).dropWhile isSpace = '"' :: tail := rfl
  rw [htail, readFields?, hspace]
  simp only [hname]
  show (readValue? fuel room ((compact v).toList ++ cs)).bind _ = _
  rw [hv fuel cs (by omega)]
  rfl

/-- Items that are not the last are followed by a comma. -/
theorem compactItems_cons_cons (v w : Json) (items : List Json) :
    compactItems (v :: w :: items) = compact v ++ "," ++ compactItems (w :: items) := by
  rw [compactItems]
  rfl

/-- Fields that are not the last are followed by a comma. -/
theorem compactFields_cons_cons (name : String) (v : Json) (p : String × Json)
    (fields : List (String × Json)) : compactFields ((name, v) :: p :: fields) =
      quoted name ++ ":" ++ compact v ++ "," ++ compactFields (p :: fields) := by
  rw [compactFields]
  rfl

/-- Items are read up to the closing bracket, behind those already read, if each of them is read
    back. -/
theorem readItems?_compactItems {items : List Json} (hne : items ≠ [])
    (h : ∀ v ∈ items, ReadBack room v) (out : List Json) (cs : List Char) (fuel : Nat)
    (hfuel : (compactItems items).length < fuel) :
    readItems? fuel room out ((compactItems items).toList ++ ']' :: cs) =
      some (.arr (out.reverse ++ canonicalItems items), cs) := by
  -- on the items; each takes one step of the bound, and behind the last stands the bracket
  induction items generalizing out fuel with
  | nil => exact absurd rfl hne
  | cons v rest ih =>
    obtain ⟨hv, hrest⟩ := List.forall_mem_cons.1 h
    cases fuel with
    | zero => exact absurd hfuel (Nat.not_lt_zero _)
    | succ fuel =>
      cases rest with
      | nil =>
        have htext : compactItems [v] = compact v := by simp [compactItems]
        rw [htext] at hfuel ⊢
        rw [hv.readItems?_eq (Nat.le_of_lt_succ hfuel)]
        simp [isSpace, canonicalItems]
      | cons w more =>
        have hcomma : ",".length = 1 := rfl
        rw [compactItems_cons_cons, String.length_append, String.length_append, hcomma] at hfuel
        have htext : (compactItems (v :: w :: more)).toList ++ ']' :: cs =
            (compact v).toList ++ ',' :: ((compactItems (w :: more)).toList ++ ']' :: cs) := by
          simp [compactItems_cons_cons]
        -- behind the comma the rest is read, with this item among those already read
        have hnext := ih (List.cons_ne_nil w more) hrest (canonical v :: out) fuel (by omega)
        rw [htext, hv.readItems?_eq (by omega)]
        simpa [isSpace, canonicalItems] using hnext

/-- Fields are read up to the closing brace, behind those already read, if their values are. -/
theorem readFields?_compactFields {fields : List (String × Json)} (hne : fields ≠ [])
    (h : ∀ p ∈ fields, ReadBack room p.2) (out : List (String × Json)) (cs : List Char) (fuel : Nat)
    (hfuel : (compactFields fields).length < fuel) :
    readFields? fuel room out ((compactFields fields).toList ++ '\x7d' :: cs) =
      some (object (out.reverse ++ canonicalFields fields), cs) := by
  have hcolon : ":".length = 1 := rfl
  -- on the fields, as for items, but that a name and a colon come before each value
  induction fields generalizing out fuel with
  | nil => exact absurd rfl hne
  | cons p rest ih =>
    obtain ⟨name, v⟩ := p
    obtain ⟨(hv : ReadBack room v), hrest⟩ := List.forall_mem_cons.1 h
    cases fuel with
    | zero => exact absurd hfuel (Nat.not_lt_zero _)
    | succ fuel =>
      cases rest with
      | nil =>
        have htext : compactFields [(name, v)] = quoted name ++ ":" ++ compact v := by
          simp [compactFields]
        rw [htext, String.length_append, String.length_append, hcolon] at hfuel
        have hchars : (compactFields [(name, v)]).toList ++ '\x7d' :: cs =
            (quoted name).toList ++ ':' :: ((compact v).toList ++ '\x7d' :: cs) := by
          simp [htext]
        rw [hchars, hv.readFields?_eq (by rw [String.length_append]; omega)]
        simp [isSpace, canonicalFields]
      | cons q more =>
        have hcomma : ",".length = 1 := rfl
        rw [compactFields_cons_cons, String.length_append, String.length_append,
          String.length_append, String.length_append, hcolon, hcomma] at hfuel
        have hchars : (compactFields ((name, v) :: q :: more)).toList ++ '\x7d' :: cs =
            (quoted name).toList ++ ':' :: ((compact v).toList ++
              ',' :: ((compactFields (q :: more)).toList ++ '\x7d' :: cs)) := by
          simp [compactFields_cons_cons]
        -- behind the comma the rest is read, with this field among those already read
        have hnext := ih (List.cons_ne_nil q more) hrest ((name, canonical v) :: out) fuel
          (by omega)
        rw [hchars, hv.readFields?_eq (by rw [String.length_append]; omega)]
        simpa [isSpace, canonicalFields] using hnext

/-- The brackets are two more characters than the items. -/
theorem length_compact_arr (items : List Json) :
    (compact (.arr items)).length = (compactItems items).length + 2 := by
  rw [compact, String.length_append, String.length_append]
  exact Nat.add_right_cancel_iff.2 (Nat.add_comm 1 _)

/-- The braces are two more characters than the fields. -/
theorem length_compact_obj (fields : List (String × Json)) :
    (compact (.obj fields)).length = (compactFields fields).length + 2 := by
  rw [compact, String.length_append, String.length_append]
  exact Nat.add_right_cancel_iff.2 (Nat.add_comm 1 _)

/-- A bound that is not below a positive length allows a step. -/
theorem exists_fuel {n fuel : Nat} (hn : 0 < n) (h : n ≤ fuel) : ∃ rest, fuel = rest + 1 :=
  Nat.exists_eq_succ_of_ne_zero (Nat.ne_of_gt (Nat.lt_of_lt_of_le hn h))

/-- Nothing is read back. -/
theorem readBack_null (room : Nat) : ReadBack room .null := by
  intro fuel cs hfuel
  obtain ⟨fuel, rfl⟩ := exists_fuel (by decide) hfuel
  rfl

/-- A truth value is read back. -/
theorem readBack_bool (room : Nat) (b : Bool) : ReadBack room (.bool b) := by
  intro fuel cs hfuel
  obtain ⟨fuel, rfl⟩ := exists_fuel (by cases b <;> decide) hfuel
  cases b <;> rfl

/-- A text is read back. -/
theorem readBack_str (room : Nat) (s : String) : ReadBack room (.str s) := by
  intro fuel cs hfuel
  rw [compact] at hfuel ⊢
  obtain ⟨fuel, rfl⟩ := exists_fuel (by rw [length_quoted]; omega) hfuel
  obtain ⟨tail, htail, hread⟩ := readString?_quoted s cs fuel hfuel
  rw [htail, readValue?_quote, hread]
  rfl

/-- An array is read back, if its items are. -/
theorem readBack_arr {items : List Json} (hitems : ∀ v ∈ items, Plain room v)
    (h : ∀ v ∈ items, ReadBack room v) : ReadBack (room + 1) (.arr items) := by
  intro fuel cs hfuel
  rw [length_compact_arr] at hfuel
  obtain ⟨fuel, rfl⟩ := exists_fuel (Nat.succ_pos _) hfuel
  cases items with
  | nil => rfl
  | cons w more =>
    have hread := readItems?_compactItems (List.cons_ne_nil w more) h [] cs fuel (by omega)
    -- what the first item begins with is no closing bracket
    obtain ⟨c, tail, htail, hspace, hc⟩ := (hitems w List.mem_cons_self).exists_head
    obtain ⟨tail, htail⟩ :
        ∃ tail, (compactItems (w :: more)).toList ++ ']' :: cs = c :: tail := by
      rw [compactItems, String.toList_append, String.toList_append, htail]
      exact ⟨_, rfl⟩
    have htext : (compact (.arr (w :: more))).toList ++ cs = '[' :: c :: tail := by
      rw [← htail]
      simp [compact]
    rw [htext, readValue?_bracket fuel room hspace hc, ← htail, hread, canonical]
    rfl

/-- An object is read back, if the values of its fields are. -/
theorem readBack_obj {fields : List (String × Json)} (h : ∀ p ∈ fields, ReadBack room p.2) :
    ReadBack (room + 1) (.obj fields) := by
  intro fuel cs hfuel
  rw [length_compact_obj] at hfuel
  obtain ⟨fuel, rfl⟩ := exists_fuel (Nat.succ_pos _) hfuel
  cases fields with
  | nil => rfl
  | cons p more =>
    -- the fields are read behind the brace, and a quote begins the first
    have hread := readFields?_compactFields (List.cons_ne_nil p more) h [] cs fuel (by omega)
    obtain ⟨tail, htail⟩ : ∃ tail, (compactFields (p :: more)).toList ++ '\x7d' :: cs =
        '"' :: tail := by
      simp only [compactFields, String.toList_append, toList_quoted]
      exact ⟨_, rfl⟩
    have htext : (compact (.obj (p :: more))).toList ++ cs = '\x7b' :: '"' :: tail := by
      rw [← htail]
      simp [compact]
    rw [htext, readValue?_brace fuel room, ← htail, hread, canonical]
    rfl

/-- A value without numbers is read back, by induction on how deep values stand in it. -/
theorem Plain.readBack (h : Plain room v) : ReadBack room v := by
  induction h with
  | null room => exact readBack_null room
  | bool room b => exact readBack_bool room b
  | str room s => exact readBack_str room s
  | arr hitems ih => exact readBack_arr hitems ih
  | obj _ ih => exact readBack_obj ih

/-- What is written for a value without numbers is read as it. -/
theorem read?_compact (h : Plain depthLimit v) : read? (compact v) = some (canonical v) := by
  have hread := h.readBack ((compact v).toList.length + 2) [] (by
    rw [String.length_toList]
    exact Nat.le_add_right _ _)
  rw [List.append_nil] at hread
  simp only [read?, hread]
  rfl

/-! ## Values that are in order -/

/-- Items are put in order one by one. -/
theorem canonicalItems_eq_map (items : List Json) : canonicalItems items = items.map canonical := by
  induction items with
  | nil => rfl
  | cons v rest ih => rw [canonicalItems, ih, List.map_cons]

/-- An array is in order if its items are. -/
theorem canonical_arr {items : List Json} (h : ∀ v ∈ items, canonical v = v) :
    canonical (.arr items) = .arr items := by
  rw [canonical, canonicalItems_eq_map, List.map_congr_left h, List.map_id']

/-- An array of texts is in order. -/
theorem canonical_texts (names : List String) : canonical (.texts names) = .texts names :=
  canonical_arr (List.forall_mem_map.2 fun _ _ => rfl)

/-- An array of texts holds no numbers. -/
theorem Plain.texts (room : Nat) (names : List String) : Plain (room + 1) (.texts names) :=
  .arr (List.forall_mem_map.2 fun s _ => .str room s)

end Plugboard.Json
