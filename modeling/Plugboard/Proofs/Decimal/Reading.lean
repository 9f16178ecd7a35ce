import Plugboard.Decimal.Reading

/-!
# What is read as a number

An integer of 64 bits that is written down is read back (`readInt?_toString`). Only digits, signs,
points and the letters of `infinity` and `nan` spell a number, so a text with any other character
is none (`readInt?_eq_none_of_mem`, `readFloat?_eq_none_of_mem`).
-/

namespace Plugboard.Decimal

/-- The digits of a number have its value. -/
theorem digitsValue_toDigits (n : Nat) : digitsValue (Nat.toDigits 10 n) = n :=
  Nat.ofDigitChars_ten_toDigits

/-- The digits of a number are digits. -/
theorem isDigits_toDigits (n : Nat) : isDigits (Nat.toDigits 10 n) = true := by
  have hdigits : ∀ c ∈ Nat.toDigits 10 n, c.isDigit = true :=
    fun c hc => Nat.isDigit_of_mem_toDigits (by decide) (by decide) hc
  simp [isDigits, List.all_eq_true.2 hdigits, Nat.toDigits_ne_nil]

/-- A run of digits has no sign. -/
theorem takeSign_of_isDigits {ds : List Char} (h : isDigits ds = true) :
    takeSign ds = (false, ds) := by
  unfold takeSign
  split
  · simp [isDigits] at h
  · simp [isDigits] at h
  · rfl

/-- An integer of 64 bits is what its decimal spells. -/
theorem readInt?_toString {i : Int} (h : -0x8000000000000000 ≤ i ∧ i < 0x8000000000000000) :
    readInt? (toString i).toList = some i := by
  -- a number below zero is written with a sign, any other without
  cases i with
  | ofNat n =>
    have hspelled : (toString (Int.ofNat n)).toList = Nat.toDigits 10 n := by
      show (Nat.repr n).toList = _
      rw [Nat.repr_eq_ofList_toDigits, String.toList_ofList]
    rw [hspelled, readInt?, takeSign_of_isDigits (isDigits_toDigits n)]
    simp only [isDigits_toDigits, digitsValue_toDigits, if_true, Bool.false_eq_true, if_false]
    exact if_pos h
  | negSucc n =>
    have hspelled : (toString (Int.negSucc n)).toList = '-' :: Nat.toDigits 10 (n + 1) := by
      show ("-" ++ Nat.repr (n + 1)).toList = _
      rw [Nat.repr_eq_ofList_toDigits, String.toList_append, String.toList_ofList]
      simp
    rw [hspelled, readInt?, takeSign]
    simp only [isDigits_toDigits, digitsValue_toDigits, if_true]
    exact if_pos h

/-- What is read as an integer fits 64 bits, and has a digit. -/
theorem readInt?_eq_some {cs : List Char} {i : Int} (h : readInt? cs = some i) :
    (-0x8000000000000000 ≤ i ∧ i < 0x8000000000000000) ∧ ∃ c ∈ cs, c.isDigit = true := by
  simp only [readInt?, Option.ite_none_right_eq_some, Option.some.injEq] at h
  obtain ⟨hdigits, hrange, rfl⟩ := h
  refine ⟨hrange, ?_⟩
  rw [isDigits, Bool.and_eq_true, List.all_eq_true] at hdigits
  obtain ⟨c, ds, hds⟩ := List.exists_cons_of_ne_nil (by simpa using hdigits.1)
  have hmem : c ∈ (takeSign cs).2 := hds ▸ List.mem_cons_self
  refine ⟨c, ?_, hdigits.2 c hmem⟩
  -- behind a sign or at the start
  unfold takeSign at hmem
  split at hmem
  · exact List.mem_cons_of_mem _ hmem
  · exact List.mem_cons_of_mem _ hmem
  · exact hmem

/-- The characters that a number may be spelled with. -/
def isNumeric (c : Char) : Bool :=
  c.isDigit || "+-.".toList.contains c || "infinityae".toList.contains c.toLower

/-- Digits occur in numbers. -/
theorem isNumeric_of_isDigit {c : Char} (h : c.isDigit = true) : isNumeric c = true := by
  simp [isNumeric, h]

/-- So does each character of a sequence of digits. -/
theorem isNumeric_of_isDigits {ds : List Char} (h : isDigits ds = true) {c : Char} (hc : c ∈ ds) :
    isNumeric c = true := by
  rw [isDigits, Bool.and_eq_true, List.all_eq_true] at h
  exact isNumeric_of_isDigit (h.2 c hc)

/-- A character that occurs in no number is none of those that do. -/
theorem ne_of_isNumeric {c d : Char} (hc : isNumeric c = false) (hd : isNumeric d = true) :
    c ≠ d := by
  intro h
  simp [h, hd] at hc

section NoNumber

variable {c : Char} {cs : List Char} (h : c ∈ cs) (hc : isNumeric c = false)
include h hc

/-- To take the sign away leaves a character that occurs in no number. -/
theorem mem_takeSign : c ∈ (takeSign cs).2 := by
  unfold takeSign
  split
  · exact List.mem_of_ne_of_mem (ne_of_isNumeric hc (by decide)) h
  · exact List.mem_of_ne_of_mem (ne_of_isNumeric hc (by decide)) h
  · exact h

/-- What is left then is no sequence of digits. -/
theorem isDigits_takeSign_of_mem : isDigits (takeSign cs).2 = false := by
  rw [← Bool.not_eq_true]
  intro hdigits
  simp [isNumeric_of_isDigits hdigits (mem_takeSign h hc)] at hc

/-- A text with such a character is no integer. -/
theorem readInt?_eq_none_of_mem : readInt? cs = none := by
  simp [readInt?, isDigits_takeSign_of_mem h hc]

/-- To drop digits leaves the character too. -/
theorem mem_dropWhile_isDigit : c ∈ cs.dropWhile Char.isDigit := by
  rw [← List.takeWhile_append_dropWhile (p := Char.isDigit) (l := cs), List.mem_append] at h
  cases h with
  | inl h =>
    have hdigit : c.isDigit = true := List.all_eq_true.1 List.all_takeWhile c h
    simp [isNumeric_of_isDigit hdigit] at hc
  | inr h => exact h

/-- A text with such a character is no exponent. -/
theorem readExponent?_eq_none_of_mem : readExponent? cs = none := by
  cases cs with
  | nil => simp at h
  | cons d rest =>
    simp only [readExponent?]
    split
    · rename_i hd
      -- the letter that opens an exponent occurs in numbers, so the character stands behind it
      have hne : c ≠ d := by
        apply ne_of_isNumeric hc
        cases hd with
        | inl hd => rw [hd]; decide
        | inr hd => rw [hd]; decide
      simp [isDigits_takeSign_of_mem (List.mem_of_ne_of_mem hne h) hc]
    · rfl

/-- Nor is it a decimal fraction. -/
theorem readDecimalIn?_eq_none_of_mem (g : Grid) : readDecimalIn? g cs = none := by
  have hrest := mem_dropWhile_isDigit h hc
  simp only [readDecimalIn?]
  -- neither with a fraction nor without one does the exponent end the text
  split
  · rename_i more hmore
    rw [hmore] at hrest
    have hmem : c ∈ more := List.mem_of_ne_of_mem (ne_of_isNumeric hc (by decide)) hrest
    simp [readExponent?_eq_none_of_mem (mem_dropWhile_isDigit hmem hc) hc]
  · simp [readExponent?_eq_none_of_mem hrest hc]

/-- Nor is it any number with a point, infinity or not a number. -/
theorem readFloat?_eq_none_of_mem : readFloat? cs = none := by
  have hbody := mem_takeSign h hc
  -- no spelled-out number has the character in it, in upper or in lower case
  have hword : ∀ word : String, word.toList.all ("infinityae".toList.contains ·) = true →
      String.ofList ((takeSign cs).2.map Char.toLower) ≠ word := by
    intro word hletters heq
    have hlower : c.toLower ∈ word.toList := by
      rw [← heq, String.toList_ofList]
      exact List.mem_map_of_mem hbody
    have hletter : "infinityae".toList.contains c.toLower = true :=
      List.all_eq_true.1 hletters _ hlower
    rw [isNumeric, hletter, Bool.or_true] at hc
    exact nomatch hc
  simp only [readFloat?, readDecimal?, readDecimalIn?_eq_none_of_mem hbody hc]
  rw [if_neg, if_neg (hword "nan" (by decide))]
  · rfl
  · exact not_or_intro (hword "inf" (by decide)) (hword "infinity" (by decide))

end NoNumber

end Plugboard.Decimal
