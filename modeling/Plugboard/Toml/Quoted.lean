import Plugboard.Text.Hex

/-!
# Quoted text in TOML

The text between quotes. Double quotes hold escapes, single quotes hold characters as they are.
Text in three quotes goes over several lines: a line end right after the opening quotes is left
out, and a backslash at the end of a line joins it to the next character that is not blank.
-/

namespace Plugboard.Toml

/-- Whether a character may stand in text and comments: no control character but the tab. -/
def isPlain (c : Char) : Bool := c = '\t' || (0x20 ≤ c.toNat && c.toNat ≠ 0x7F)

/-- The characters that stand behind a backslash, and what they stand for. -/
def escapes : List (Char × Char) :=
  [('b', '\x08'), ('t', '\t'), ('n', '\n'), ('f', '\x0C'), ('r', '\r'), ('e', '\x1B'), ('"', '"'),
    ('\\', '\\')]

/-- Text up to a double quote, and what follows it; `out` holds the characters read, last first. -/
def readBasic? (out : List Char) : List Char → Option (String × List Char)
  | [] => none
  | '"' :: rest => some (.ofList out.reverse, rest)
  | '\\' :: 'x' :: a :: b :: rest => do readBasic? ((← Text.hexChar? [a, b]) :: out) rest
  | '\\' :: 'u' :: a :: b :: c :: d :: rest => do
    readBasic? ((← Text.hexChar? [a, b, c, d]) :: out) rest
  | '\\' :: 'U' :: a :: b :: c :: d :: e :: f :: g :: h :: rest => do
    readBasic? ((← Text.hexChar? [a, b, c, d, e, f, g, h]) :: out) rest
  | '\\' :: c :: rest => do readBasic? ((← escapes.lookup c) :: out) rest
  | c :: rest => if isPlain c then readBasic? (c :: out) rest else none

/-- Text up to a single quote, and what follows it. -/
def readLiteral? (out : List Char) : List Char → Option (String × List Char)
  | [] => none
  | '\'' :: rest => some (.ofList out.reverse, rest)
  | c :: rest => if isPlain c then readLiteral? (c :: out) rest else none

/-- Whether only spaces and tabs stand before the end of the line. -/
def atLineEnd : List Char → Bool
  | ' ' :: rest => atLineEnd rest
  | '\t' :: rest => atLineEnd rest
  | '\n' :: _ => true
  | '\r' :: '\n' :: _ => true
  | _ => false

/-- Text up to three double quotes, and what follows them. With `joining`, blanks and line ends are
    passed over. -/
def readBasicLines? (joining : Bool) (out : List Char) : List Char → Option (String × List Char)
  | [] => none
  -- one or two quotes right before the closing three belong to the text
  | '"' :: '"' :: '"' :: '"' :: '"' :: rest => some (.ofList ('"' :: '"' :: out).reverse, rest)
  | '"' :: '"' :: '"' :: '"' :: rest => some (.ofList ('"' :: out).reverse, rest)
  | '"' :: '"' :: '"' :: rest => some (.ofList out.reverse, rest)
  | '\\' :: 'x' :: a :: b :: rest => do
    readBasicLines? false ((← Text.hexChar? [a, b]) :: out) rest
  | '\\' :: 'u' :: a :: b :: c :: d :: rest => do
    readBasicLines? false ((← Text.hexChar? [a, b, c, d]) :: out) rest
  | '\\' :: 'U' :: a :: b :: c :: d :: e :: f :: g :: h :: rest => do
    readBasicLines? false ((← Text.hexChar? [a, b, c, d, e, f, g, h]) :: out) rest
  | '\\' :: c :: rest =>
    if atLineEnd (c :: rest) then readBasicLines? true out rest
    else do readBasicLines? false ((← escapes.lookup c) :: out) rest
  | '\r' :: '\n' :: rest =>
    readBasicLines? joining (if joining then out else '\n' :: '\r' :: out) rest
  | '\n' :: rest => readBasicLines? joining (if joining then out else '\n' :: out) rest
  | c :: rest =>
    if joining && (c = ' ' || c = '\t') then readBasicLines? true out rest
    else if isPlain c then readBasicLines? false (c :: out) rest
    else none

/-- Text up to three single quotes, and what follows them. -/
def readLiteralLines? (out : List Char) : List Char → Option (String × List Char)
  | [] => none
  | '\'' :: '\'' :: '\'' :: '\'' :: '\'' :: rest =>
    some (.ofList ('\'' :: '\'' :: out).reverse, rest)
  | '\'' :: '\'' :: '\'' :: '\'' :: rest => some (.ofList ('\'' :: out).reverse, rest)
  | '\'' :: '\'' :: '\'' :: rest => some (.ofList out.reverse, rest)
  | '\r' :: '\n' :: rest => readLiteralLines? ('\n' :: '\r' :: out) rest
  | '\n' :: rest => readLiteralLines? ('\n' :: out) rest
  | c :: rest => if isPlain c then readLiteralLines? (c :: out) rest else none

/-- Characters without a line end at their start. -/
def dropLineEnd : List Char → List Char
  | '\n' :: rest => rest
  | '\r' :: '\n' :: rest => rest
  | cs => cs

/-- Text on one line in quotes of either kind, and what follows it. -/
def readQuotedLine? : List Char → Option (String × List Char)
  | '"' :: rest => readBasic? [] rest
  | '\'' :: rest => readLiteral? [] rest
  | _ => none

/-- Text in quotes of any kind, and what follows it. -/
def readQuoted? : List Char → Option (String × List Char)
  | '"' :: '"' :: '"' :: rest => readBasicLines? false [] (dropLineEnd rest)
  | '\'' :: '\'' :: '\'' :: rest => readLiteralLines? [] (dropLineEnd rest)
  | cs => readQuotedLine? cs

end Plugboard.Toml
