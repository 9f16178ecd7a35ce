/-!
# Lines, and the two sides of a separator

A line ends at a line feed, or at a carriage return and line feed; the end of the text ends the
last line, and an empty last line is no line. `cut?` splits a text at the first occurrence of a
character, `splitAll` at every occurrence.

`append_of_cutChars?` says that nothing but the separator is lost, `not_mem_of_cutChars?` that it
is the first one, and `intercalate_splitChars` that the pieces joined again are the text.
-/

namespace Plugboard.Text

/-- The lines of a text, without their line ends. -/
def lineChars : List Char → List (List Char)
  | [] => []
  | '\r' :: '\n' :: rest => [] :: lineChars rest
  | '\n' :: rest => [] :: lineChars rest
  | c :: rest =>
    match lineChars rest with
    | [] => [[c]]
    | line :: more => (c :: line) :: more

/-- The lines of a text, without their line ends. -/
def lines (s : String) : List String := (lineChars s.toList).map .ofList

/-- The characters before and after the first occurrence of `sep`, if there is one. -/
def cutChars? (sep : Char) : List Char → Option (List Char × List Char)
  | [] => none
  | c :: rest =>
    if c = sep then some ([], rest)
    else (cutChars? sep rest).map fun (before, after) => (c :: before, after)

/-- The text before and after the first occurrence of `sep`, if there is one. -/
def cut? (sep : Char) (s : String) : Option (String × String) :=
  (cutChars? sep s.toList).map fun (before, after) => (.ofList before, .ofList after)

/-- The pieces of a text between the occurrences of `sep`: one more than there are of them. -/
def splitChars (sep : Char) : List Char → List (List Char)
  | [] => [[]]
  | c :: rest =>
    if c = sep then [] :: splitChars sep rest
    else match splitChars sep rest with
      | [] => [[c]]
      | piece :: more => (c :: piece) :: more

/-- The pieces of a text between the occurrences of `sep`. -/
def splitAll (sep : Char) (s : String) : List String := (splitChars sep s.toList).map .ofList

/-- Whether a text begins with `start`. -/
def startsWith (start s : String) : Bool := start.toList.isPrefixOf s.toList

/-- Whether a text ends with `tail`. -/
def endsWith (tail s : String) : Bool := tail.toList.isSuffixOf s.toList

/-- What follows `start` in a text that begins with it. -/
def dropStart? (start s : String) : Option String :=
  if startsWith start s then some (.ofList (s.toList.drop start.toList.length)) else none

/-- Texts one after another with `sep` between them. -/
def joinWith (sep : String) : List String → String
  | [] => ""
  | [s] => s
  | s :: t :: rest => s ++ sep ++ joinWith sep (t :: rest)

@[simp] theorem lineChars_nil : lineChars [] = [] := rfl

@[simp] theorem lineChars_newline (rest : List Char) :
    lineChars ('\n' :: rest) = [] :: lineChars rest := by
  simp [lineChars]

/-- Cutting loses the separator and nothing else. -/
theorem append_of_cutChars? {sep : Char} {cs before after : List Char}
    (h : cutChars? sep cs = some (before, after)) : cs = before ++ sep :: after := by
  induction cs generalizing before with
  | nil => simp [cutChars?] at h
  | cons c rest ih =>
    -- the first separator ends the search, and any other character is put back
    by_cases hc : c = sep
    · simp only [cutChars?, hc, if_true, Option.some.injEq, Prod.mk.injEq] at h
      obtain ⟨rfl, rfl⟩ := h
      simp [hc]
    · simp only [cutChars?, hc, if_false, Option.map_eq_some_iff] at h
      obtain ⟨⟨b, a⟩, hcut, heq⟩ := h
      simp only [Prod.mk.injEq] at heq
      obtain ⟨rfl, rfl⟩ := heq
      simp [ih hcut]

/-- The separator that is cut at is the first one. -/
theorem not_mem_of_cutChars? {sep : Char} {cs before after : List Char}
    (h : cutChars? sep cs = some (before, after)) : sep ∉ before := by
  induction cs generalizing before with
  | nil => simp [cutChars?] at h
  | cons c rest ih =>
    by_cases hc : c = sep
    · simp only [cutChars?, hc, if_true, Option.some.injEq, Prod.mk.injEq] at h
      obtain ⟨rfl, rfl⟩ := h
      simp
    · simp only [cutChars?, hc, if_false, Option.map_eq_some_iff] at h
      obtain ⟨⟨b, a⟩, hcut, heq⟩ := h
      simp only [Prod.mk.injEq] at heq
      obtain ⟨rfl, rfl⟩ := heq
      simp [Ne.symm hc, ih hcut]

/-- A text is cut exactly when the separator occurs in it. -/
theorem cutChars?_eq_none_iff {sep : Char} {cs : List Char} :
    cutChars? sep cs = none ↔ sep ∉ cs := by
  induction cs with
  | nil => simp [cutChars?]
  | cons c rest ih =>
    by_cases hc : c = sep
    · simp [cutChars?, hc]
    · simp [cutChars?, hc, ih, Ne.symm hc]

/-- There is always a piece, be it empty. -/
theorem splitChars_ne_nil (sep : Char) (cs : List Char) : splitChars sep cs ≠ [] := by
  cases cs with
  | nil => simp [splitChars]
  | cons c rest =>
    simp only [splitChars]
    split
    · simp
    · split <;> simp

/-- The pieces joined by the separator are the text. -/
theorem intercalate_splitChars (sep : Char) (cs : List Char) :
    [sep].intercalate (splitChars sep cs) = cs := by
  induction cs with
  | nil => rfl
  | cons c rest ih =>
    simp only [splitChars]
    -- there is always a first piece, which the character opens or belongs to
    have hne := splitChars_ne_nil sep rest
    split
    · rename_i hc
      cases h : splitChars sep rest with
      | nil => exact absurd h hne
      | cons p more =>
        rw [h] at ih
        simp [List.intercalate, List.intersperse] at ih ⊢
        simp [hc, ih]
    · cases h : splitChars sep rest with
      | nil => exact absurd h hne
      | cons p more =>
        rw [h] at ih
        cases more <;> simp_all [List.intercalate, List.intersperse]

end Plugboard.Text
