/-!
# White space at the ends of text

White space is the Unicode property `White_Space`. `trim` cuts it off both ends of a text.

`trimStart_trimStart` and `trimEnd_trimEnd` say that cutting an end a second time changes nothing.
-/

namespace Plugboard.Text

/-- Whether a character has the Unicode property `White_Space`. -/
def isBlank (c : Char) : Bool :=
  let n := c.toNat
  (9 ≤ n && n ≤ 13) || n == 0x20 || n == 0x85 || n == 0xA0 || n == 0x1680 ||
    (0x2000 ≤ n && n ≤ 0x200A) || n == 0x2028 || n == 0x2029 || n == 0x202F ||
    n == 0x205F || n == 0x3000

/-- The characters left when leading white space is cut off. -/
def trimStart (cs : List Char) : List Char := cs.dropWhile isBlank

/-- The characters left when trailing white space is cut off. -/
def trimEnd (cs : List Char) : List Char := (cs.reverse.dropWhile isBlank).reverse

/-- The characters left when white space is cut off both ends. -/
def trimChars (cs : List Char) : List Char := trimEnd (trimStart cs)

/-- A text without the white space at its ends. -/
def trim (s : String) : String := .ofList (trimChars s.toList)

/-- Whether a text is empty or holds white space only. -/
def isBlankText (s : String) : Bool := s.toList.all isBlank

/-- The value of an optional text that is more than white space, trimmed. -/
def nonBlank? (s : Option String) : Option String :=
  (s.map trim).filter (· ≠ "")

@[simp] theorem trimStart_nil : trimStart [] = [] := rfl

/-- White space at the start is cut. -/
theorem trimStart_cons_of_blank {c : Char} {cs : List Char} (h : isBlank c = true) :
    trimStart (c :: cs) = trimStart cs := by
  simp [trimStart, List.dropWhile, h]

/-- Any other character ends the cutting. -/
theorem trimStart_cons_of_not_blank {c : Char} {cs : List Char} (h : isBlank c = false) :
    trimStart (c :: cs) = c :: cs := by
  simp [trimStart, List.dropWhile, h]

/-- Cutting leading white space off twice is the same as once. -/
theorem trimStart_trimStart (cs : List Char) : trimStart (trimStart cs) = trimStart cs := by
  induction cs with
  | nil => rfl
  | cons c r ih =>
    cases h : isBlank c with
    | true => rw [trimStart_cons_of_blank h]; exact ih
    | false => rw [trimStart_cons_of_not_blank h, trimStart_cons_of_not_blank h]

/-- What trimming leaves at the end keeps no white space. -/
theorem trimEnd_trimEnd (cs : List Char) : trimEnd (trimEnd cs) = trimEnd cs := by
  have h := trimStart_trimStart cs.reverse
  simp only [trimStart] at h
  simp [trimEnd, h]

end Plugboard.Text
