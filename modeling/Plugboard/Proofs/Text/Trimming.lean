import Plugboard.Text.Blank

/-!
# What trimming does

A text is white space throughout, or it has a first and a last character that is none
(`blank_or_split`). In the second case trimming cuts what is before the first and after the last of
these and leaves the rest alone, so both ends can be looked at apart (`trimChars_append_cons`).

White space around a text does not matter to what is left of it (`trimChars_surrounded`), and what
is left has none at its ends (`trimChars_trimChars`).
-/

namespace Plugboard.Text

/-- Characters that are white space, all of them. -/
def Blank (cs : List Char) : Prop := ∀ c ∈ cs, isBlank c = true

instance (cs : List Char) : Decidable (Blank cs) :=
  decidable_of_iff (cs.all isBlank = true) List.all_eq_true

/-- A text without characters is blank. -/
theorem blank_nil : Blank [] := nofun

/-- White space is white space read backwards. -/
theorem Blank.reverse {cs : List Char} (h : Blank cs) : Blank cs.reverse :=
  fun c hc => h c (List.mem_reverse.1 hc)

/-- A text is white space or has a character that is none. -/
theorem blank_or_split (cs : List Char) :
    Blank cs ∨ ∃ xs c ys, isBlank c = false ∧ cs = xs ++ c :: ys := by
  induction cs with
  | nil => exact .inl blank_nil
  | cons c rest ih =>
    cases hc : isBlank c with
    | false => exact .inr ⟨[], c, rest, hc, rfl⟩
    | true =>
      rcases ih with hrest | ⟨xs, d, ys, hd, rfl⟩
      · exact .inl (List.forall_mem_cons.2 ⟨hc, hrest⟩)
      · exact .inr ⟨c :: xs, d, ys, hd, rfl⟩

/-! ## One end -/

/-- The end of a text is trimmed by trimming the start of its reverse. -/
theorem trimEnd_eq (cs : List Char) : trimEnd cs = (trimStart cs.reverse).reverse := rfl

/-- White space at the start is cut. -/
theorem trimStart_append_of_blank {ws : List Char} (h : Blank ws) (cs : List Char) :
    trimStart (ws ++ cs) = trimStart cs :=
  List.dropWhile_append_of_pos h

/-- Of white space alone nothing is left. -/
theorem trimStart_of_blank {ws : List Char} (h : Blank ws) : trimStart ws = [] := by
  have happend := trimStart_append_of_blank h []
  rwa [List.append_nil] at happend

/-- White space before a character that is none is cut, and the rest stays. -/
theorem trimStart_append_cons {c : Char} (hc : isBlank c = false) (xs ys : List Char) :
    trimStart (xs ++ c :: ys) = trimStart xs ++ c :: ys := by
  induction xs with
  | nil => exact trimStart_cons_of_not_blank hc
  | cons x rest ih =>
    rw [List.cons_append]
    cases hx : isBlank x with
    | true => rw [trimStart_cons_of_blank hx, trimStart_cons_of_blank hx, ih]
    | false => rw [trimStart_cons_of_not_blank hx, trimStart_cons_of_not_blank hx, List.cons_append]

/-- White space after a character that is none is cut, and the rest stays. -/
theorem trimEnd_append_cons {c : Char} (hc : isBlank c = false) (xs ys : List Char) :
    trimEnd (xs ++ c :: ys) = xs ++ c :: trimEnd ys := by
  have hreverse : (xs ++ c :: ys).reverse = ys.reverse ++ c :: xs.reverse := by simp
  rw [trimEnd_eq, hreverse, trimStart_append_cons hc, trimEnd_eq]
  simp

/-- White space at the end is cut. -/
theorem trimEnd_append_of_blank {ws : List Char} (h : Blank ws) (cs : List Char) :
    trimEnd (cs ++ ws) = trimEnd cs := by
  rw [trimEnd_eq, List.reverse_append, trimStart_append_of_blank h.reverse, ← trimEnd_eq]

/-- Nor is anything left of it when the end is trimmed. -/
theorem trimEnd_of_blank {ws : List Char} (h : Blank ws) : trimEnd ws = [] := by
  rw [trimEnd_eq, trimStart_of_blank h.reverse, List.reverse_nil]

/-! ## Both ends -/

/-- Around a character that is no white space the ends are trimmed apart. -/
theorem trimChars_append_cons {c : Char} (hc : isBlank c = false) (xs ys : List Char) :
    trimChars (xs ++ c :: ys) = trimStart xs ++ c :: trimEnd ys := by
  rw [trimChars, trimStart_append_cons hc, trimEnd_append_cons hc]

/-- It does not matter which end is cut first. -/
theorem trimChars_eq (cs : List Char) : trimChars cs = trimStart (trimEnd cs) := by
  rcases blank_or_split cs with hblank | ⟨xs, c, ys, hc, rfl⟩
  · rw [trimChars, trimStart_of_blank hblank, trimEnd_of_blank hblank]
    rfl
  · rw [trimChars_append_cons hc, trimEnd_append_cons hc, trimStart_append_cons hc]

/-- Trimming cuts what was left at the start. -/
theorem trimChars_trimStart (cs : List Char) : trimChars (trimStart cs) = trimChars cs := by
  rw [trimChars, trimStart_trimStart, trimChars]

/-- Trimming cuts what was left at the end. -/
theorem trimChars_trimEnd (cs : List Char) : trimChars (trimEnd cs) = trimChars cs := by
  rw [trimChars_eq, trimEnd_trimEnd, trimChars_eq]

/-- What is trimmed has no white space at its start. -/
theorem trimStart_trimChars (cs : List Char) : trimStart (trimChars cs) = trimChars cs := by
  rw [trimChars_eq, trimStart_trimStart]

/-- What is trimmed has no white space at its end. -/
theorem trimEnd_trimChars (cs : List Char) : trimEnd (trimChars cs) = trimChars cs :=
  trimEnd_trimEnd (trimStart cs)

/-- What trimming leaves has no white space at its ends. -/
theorem trimChars_trimChars (cs : List Char) : trimChars (trimChars cs) = trimChars cs := by
  rw [trimChars, trimStart_trimChars, trimEnd_trimChars]

/-- White space around a text is cut whole. -/
theorem trimChars_surrounded {lead tail : List Char} (hlead : Blank lead) (htail : Blank tail)
    (cs : List Char) : trimChars (lead ++ cs ++ tail) = trimChars cs := by
  rw [trimChars_eq, trimEnd_append_of_blank htail, ← trimChars_eq, trimChars,
    trimStart_append_of_blank hlead, trimChars]

/-- Nothing is left of white space, and of nothing else. -/
theorem trimChars_eq_nil_iff {cs : List Char} : trimChars cs = [] ↔ Blank cs := by
  constructor
  · intro h
    rcases blank_or_split cs with hblank | ⟨xs, c, ys, hc, rfl⟩
    · exact hblank
    · rw [trimChars_append_cons hc] at h
      exact absurd h (by simp)
  · intro h
    rw [trimChars, trimStart_of_blank h]
    rfl

/-- Nothing is left of a text exactly if it is white space throughout. -/
theorem trim_eq_empty_iff {s : String} : trim s = "" ↔ Blank s.toList := by
  rw [trim, ← trimChars_eq_nil_iff, ← String.toList_inj, String.toList_ofList]
  rfl

/-- Trimming the start adds no character. -/
theorem mem_of_mem_trimStart {c : Char} {cs : List Char} (h : c ∈ trimStart cs) : c ∈ cs :=
  (List.dropWhile_suffix isBlank).subset h

/-- Trimming the end adds no character. -/
theorem mem_of_mem_trimEnd {c : Char} {cs : List Char} (h : c ∈ trimEnd cs) : c ∈ cs := by
  rw [trimEnd_eq, List.mem_reverse] at h
  exact List.mem_reverse.1 (mem_of_mem_trimStart h)

/-- Trimming adds no character. -/
theorem mem_of_mem_trimChars {c : Char} {cs : List Char} (h : c ∈ trimChars cs) : c ∈ cs :=
  mem_of_mem_trimStart (mem_of_mem_trimEnd h)

/-- Trimming the end leaves the first character the first, unless nothing is left. -/
theorem head?_of_head?_trimEnd {c : Char} {cs : List Char} (h : (trimEnd cs).head? = some c) :
    cs.head? = some c := by
  have hprefix : trimEnd cs <+: cs := List.reverse_suffix.1 (by
    rw [trimEnd_eq, List.reverse_reverse]
    exact List.dropWhile_suffix isBlank)
  obtain ⟨tail, htail⟩ := hprefix
  rw [← htail, List.head?_append, h]
  rfl

/-- Trimming the start leaves the last character the last, unless nothing is left. -/
theorem getLast?_of_getLast?_trimStart {c : Char} {cs : List Char}
    (h : (trimStart cs).getLast? = some c) : cs.getLast? = some c := by
  obtain ⟨lead, hlead⟩ : trimStart cs <:+ cs := List.dropWhile_suffix isBlank
  rw [← hlead, List.getLast?_append, h]
  rfl

/-! ## Texts that are trimmed already -/

/-- A text without white space at its ends. -/
def Trimmed (cs : List Char) : Prop := trimChars cs = cs

instance (cs : List Char) : Decidable (Trimmed cs) :=
  inferInstanceAs (Decidable (trimChars cs = cs))

/-- A text is left as it is exactly if its characters are trimmed. -/
theorem trim_eq_self_iff {s : String} : trim s = s ↔ Trimmed s.toList := by
  rw [trim, Trimmed, ← String.toList_inj, String.toList_ofList]

/-- Trimming leaves characters trimmed. -/
theorem trimmed_trimChars (cs : List Char) : Trimmed (trimChars cs) := trimChars_trimChars cs

/-- To trim twice is to trim once. -/
theorem trim_trim (s : String) : trim (trim s) = trim s := by
  rw [trim, trim, String.toList_ofList, trimChars_trimChars]

/-- The first character of what is left after trimming the start is no white space. -/
theorem isBlank_of_trimStart_eq {c : Char} {cs rest : List Char} (h : trimStart cs = c :: rest) :
    isBlank c = false := by
  induction cs with
  | nil => cases h
  | cons x more ih =>
    cases hx : isBlank x with
    | true => exact ih (trimStart_cons_of_blank hx ▸ h)
    | false =>
      rw [trimStart_cons_of_not_blank hx] at h
      exact (List.cons.inj h).1 ▸ hx

namespace Trimmed

variable {cs : List Char} (h : Trimmed cs)
include h

/-- There is no white space to cut at the start of trimmed characters. -/
theorem trimStart_eq : trimStart cs = cs := by
  have hstart := trimStart_trimChars cs
  rwa [h] at hstart

/-- There is none at their end. -/
theorem trimEnd_eq : trimEnd cs = cs := by
  have hend := trimEnd_trimChars cs
  rwa [h] at hend

/-- A text that is trimmed does not begin with white space. -/
theorem isBlank_head {c : Char} (hc : cs.head? = some c) : isBlank c = false := by
  obtain ⟨rest, rfl⟩ := List.head?_eq_some_iff.1 hc
  exact isBlank_of_trimStart_eq h.trimStart_eq

/-- Nor does it end with white space. -/
theorem isBlank_last {c : Char} (hc : cs.getLast? = some c) : isBlank c = false := by
  have hend := congrArg List.reverse h.trimEnd_eq
  rw [Text.trimEnd_eq, List.reverse_reverse] at hend
  rw [List.getLast?_eq_head?_reverse] at hc
  obtain ⟨rest, hrest⟩ := List.head?_eq_some_iff.1 hc
  exact isBlank_of_trimStart_eq (hend.trans hrest)

/-- What follows a text that is trimmed keeps its place when the start is trimmed, unless there is
    no such text. -/
theorem trimStart_append (hne : cs ≠ []) (ys : List Char) : trimStart (cs ++ ys) = cs ++ ys := by
  obtain ⟨c, rest, rfl⟩ := List.exists_cons_of_ne_nil hne
  exact trimStart_cons_of_not_blank (h.isBlank_head rfl)

/-- So does what comes before it when the end is trimmed. -/
theorem trimEnd_append (hne : cs ≠ []) (xs : List Char) : trimEnd (xs ++ cs) = xs ++ cs := by
  have hlast := h.isBlank_last (List.getLast?_eq_some_getLast hne)
  rw [← List.dropLast_concat_getLast hne, ← List.append_assoc, trimEnd_append_cons hlast]
  rfl

/-- Of a text and the white space behind it only the text shows at the start. -/
theorem head?_trimStart_append {ws : List Char} (hws : Blank ws) (c : Char) (rest : List Char) :
    (trimStart (cs ++ ws) ++ c :: rest).head? = (cs ++ [c]).head? := by
  by_cases hne : cs = []
  · rw [hne, List.nil_append, trimStart_of_blank hws]
    rfl
  · rw [h.trimStart_append hne]
    cases cs with
    | nil => contradiction
    | cons d more => rfl

/-- Of a text and the white space before it only the text shows at the end. -/
theorem getLast?_trimEnd_append {ws : List Char} (hws : Blank ws) (c : Char) (xs : List Char) :
    (xs ++ c :: trimEnd (ws ++ cs)).getLast? = (c :: cs).getLast? := by
  by_cases hne : cs = []
  · rw [hne, List.append_nil, trimEnd_of_blank hws, List.getLast?_concat]
    rfl
  · rw [h.trimEnd_append hne, List.getLast?_cons, List.getLast?_eq_some_getLast hne,
      ← List.cons_append, ← List.append_assoc, List.getLast?_append,
      List.getLast?_eq_some_getLast hne]
    rfl

/-- A text that is trimmed brings no white space to the end of what it is put behind. -/
theorem getLast?_append_cons_ne {c d : Char} (hd : isBlank d = true) (hc : c ≠ d)
    (xs : List Char) : (xs ++ c :: cs).getLast? ≠ some d := by
  rw [List.getLast?_append, List.getLast?_cons]
  cases hlast : cs.getLast? with
  | none => simpa using hc
  | some e =>
    have he := h.isBlank_last hlast
    rintro ⟨⟩
    exact absurd hd (by simp [he])

end Trimmed

end Plugboard.Text
