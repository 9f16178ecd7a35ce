/-!
# Characters by code point

Digits in hexadecimal, and the characters whose code points they spell. Numbers that are the code
point of no character, those of surrogates among them, spell none.
-/

namespace Plugboard.Text

/-- The value of a digit in hexadecimal. -/
def hexDigit? (c : Char) : Option Nat :=
  if c.isDigit then some (c.toNat - 48)
  else if 'a' ≤ c ∧ c ≤ 'f' then some (c.toNat - 87)
  else if 'A' ≤ c ∧ c ≤ 'F' then some (c.toNat - 55)
  else none

/-- The number that digits in hexadecimal spell. -/
def hexNumber? (ds : List Char) : Option Nat := do
  return (← ds.mapM hexDigit?).foldl (16 * · + ·) 0

/-- The character of a code point. -/
def charOfCode? (n : Nat) : Option Char :=
  if n < 0xD800 ∨ (0xDFFF < n ∧ n < 0x110000) then some (Char.ofNat n) else none

/-- The character whose code point is spelled in hexadecimal. -/
def hexChar? (ds : List Char) : Option Char := (hexNumber? ds).bind charOfCode?

end Plugboard.Text
