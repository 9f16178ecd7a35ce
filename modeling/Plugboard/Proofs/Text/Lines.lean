import Plugboard.Proofs.Text.Trimming
import Plugboard.Text.Lines

/-!
# The lines of a text

What the lines of a text are can be said without taking it apart: each is ended by a line feed, or
by a carriage return and a line feed (`Ended`), and the end of the text may end the last one
(`HasLines`). Every text has lines in this sense, and they are those that `lineChars` gives
(`lineChars_eq_iff`).

Cutting and splitting at a separator are told the same way, by what they do to a text that was put
together with the separator (`cutChars?_append_cons`, `splitChars_append_cons`).
-/

namespace Plugboard.Text

/-- Lines one after another, each with its end. A line that has a carriage return of its own at the
    end needs another one before the line feed. -/
inductive Ended : List (List Char) → List Char → Prop where
  | nil : Ended [] []
  /-- The line is ended by a line feed. -/
  | feed {line : List Char} {lines : List (List Char)} {text : List Char} (inside : '\n' ∉ line)
      (last : line.getLast? ≠ some '\r') (rest : Ended lines text) :
      Ended (line :: lines) (line ++ '\n' :: text)
  /-- The line is ended by a carriage return and a line feed. -/
  | returnFeed {line : List Char} {lines : List (List Char)} {text : List Char}
      (inside : '\n' ∉ line) (rest : Ended lines text) :
      Ended (line :: lines) (line ++ '\r' :: '\n' :: text)

/-- A text has some lines: each is ended, or the last one ends with the text. -/
inductive HasLines : List (List Char) → List Char → Prop where
  | ended {lines : List (List Char)} {text : List Char} (h : Ended lines text) :
      HasLines lines text
  /-- The last line goes up to the end of the text. -/
  | unended {lines : List (List Char)} {text last : List Char} (h : Ended lines text)
      (inside : '\n' ∉ last) (nonempty : last ≠ []) : HasLines (lines ++ [last]) (text ++ last)

/-! ## Taking lines off -/

/-- A character that ends no line belongs to the first line of what follows it. -/
theorem lineChars_cons {c : Char} {cs : List Char} (hfeed : c ≠ '\n')
    (hreturn : c = '\r' → cs.head? ≠ some '\n') :
    lineChars (c :: cs) = match lineChars cs with
      | [] => [[c]]
      | line :: more => (c :: line) :: more := by
  -- of the cases of the definition only the last is left
  rw [lineChars.eq_def]
  split
  · contradiction
  · rename_i heq
    obtain ⟨rfl, rfl⟩ := List.cons.inj heq
    exact absurd rfl (hreturn rfl)
  · rename_i heq
    exact absurd (List.cons.inj heq).1 hfeed
  · rename_i heq
    obtain ⟨rfl, rfl⟩ := List.cons.inj heq
    rfl

/-- Characters before the end of a line belong to that line. -/
theorem lineChars_append {line cs : List Char} {more : List (List Char)} (hinside : '\n' ∉ line)
    (hreturn : line.getLast? = some '\r' → cs.head? ≠ some '\n')
    (hcs : lineChars cs = [] :: more) : lineChars (line ++ cs) = line :: more := by
  induction line with
  | nil => exact hcs
  | cons c rest ih =>
    obtain ⟨hc, hrest⟩ := List.ne_and_not_mem_of_not_mem_cons hinside
    cases rest with
    | nil =>
      have hlast : c = '\r' → cs.head? ≠ some '\n' := fun h => hreturn (h ▸ rfl)
      rw [List.cons_append, List.nil_append, lineChars_cons hc.symm hlast, hcs]
    | cons d rest =>
      -- the next character is in the line too, so it is no line feed
      have hnext : c = '\r' → ((d :: rest) ++ cs).head? ≠ some '\n' := by
        intro _ hd
        exact hrest (Option.some.inj hd ▸ List.mem_cons_self)
      rw [List.cons_append, lineChars_cons hc.symm hnext,
        ih hrest (by rwa [List.getLast?_cons_cons] at hreturn)]

/-- A line feed ends the first line. -/
theorem lineChars_feed {line : List Char} (hinside : '\n' ∉ line)
    (hlast : line.getLast? ≠ some '\r') (text : List Char) :
    lineChars (line ++ '\n' :: text) = line :: lineChars text :=
  lineChars_append hinside (fun h => absurd h hlast) (lineChars_newline text)

/-- So do a carriage return and a line feed. -/
theorem lineChars_returnFeed {line : List Char} (hinside : '\n' ∉ line) (text : List Char) :
    lineChars (line ++ '\r' :: '\n' :: text) = line :: lineChars text :=
  lineChars_append hinside (fun _ => by simp) (by rw [lineChars])

/-- Without the end of a line there is one line, or none if there is nothing. -/
theorem lineChars_of_not_mem {line : List Char} (hinside : '\n' ∉ line) (hne : line ≠ []) :
    lineChars line = [line] := by
  induction line with
  | nil => exact absurd rfl hne
  | cons c rest ih =>
    obtain ⟨hc, hrest⟩ := List.ne_and_not_mem_of_not_mem_cons hinside
    have hnext : c = '\r' → rest.head? ≠ some '\n' := fun _ h => hrest (List.mem_of_head? h)
    rw [lineChars_cons hc.symm hnext]
    cases rest with
    | nil => rfl
    | cons d rest => rw [ih hrest (List.cons_ne_nil d rest)]

/-- Lines with their ends come before the lines of what follows. -/
theorem Ended.lineChars_append {lines : List (List Char)} {text : List Char} (h : Ended lines text)
    (more : List Char) : lineChars (text ++ more) = lines ++ lineChars more := by
  induction h with
  | nil => rfl
  | feed inside last rest ih =>
    rw [List.append_assoc, List.cons_append, lineChars_feed inside last, ih, List.cons_append]
  | returnFeed inside rest ih =>
    rw [List.append_assoc, List.cons_append, List.cons_append, lineChars_returnFeed inside, ih,
      List.cons_append]

/-- The lines that a text has are those that it is taken apart into. -/
theorem HasLines.lineChars_eq {lines : List (List Char)} {text : List Char}
    (h : HasLines lines text) : lineChars text = lines := by
  cases h with
  | ended h =>
    have happend := h.lineChars_append []
    rwa [List.append_nil, lineChars_nil, List.append_nil] at happend
  | unended h inside nonempty => rw [h.lineChars_append, lineChars_of_not_mem inside nonempty]

/-! ## Every text has lines -/

/-- A line ended by a line feed may be put before a text. -/
theorem HasLines.cons_feed {line text : List Char} {lines : List (List Char)}
    (hinside : '\n' ∉ line) (hlast : line.getLast? ≠ some '\r') (h : HasLines lines text) :
    HasLines (line :: lines) (line ++ '\n' :: text) := by
  cases h with
  | ended h => exact .ended (.feed hinside hlast h)
  | unended h inside nonempty =>
    have hmore := HasLines.unended (.feed hinside hlast h) inside nonempty
    simpa using hmore

/-- So may a line ended by a carriage return and a line feed. -/
theorem HasLines.cons_returnFeed {line text : List Char} {lines : List (List Char)}
    (hinside : '\n' ∉ line) (h : HasLines lines text) :
    HasLines (line :: lines) (line ++ '\r' :: '\n' :: text) := by
  cases h with
  | ended h => exact .ended (.returnFeed hinside h)
  | unended h inside nonempty =>
    have hmore := HasLines.unended (.returnFeed hinside h) inside nonempty
    simpa using hmore

/-- A text is a line without an end, or it begins with a line and its end. -/
theorem line_or_split (cs : List Char) :
    '\n' ∉ cs ∨ ∃ line text, '\n' ∉ line ∧
      ((line.getLast? ≠ some '\r' ∧ cs = line ++ '\n' :: text) ∨
        cs = line ++ '\r' :: '\n' :: text) := by
  induction cs with
  | nil => exact .inl List.not_mem_nil
  | cons c rest ih =>
    by_cases hc : c = '\n'
    · exact .inr ⟨[], rest, List.not_mem_nil, .inl ⟨by simp, by rw [hc, List.nil_append]⟩⟩
    · rcases ih with hrest | ⟨line, text, hinside, hends⟩
      · exact .inl (List.not_mem_cons_of_ne_of_not_mem (Ne.symm hc) hrest)
      · have hcons : '\n' ∉ c :: line := List.not_mem_cons_of_ne_of_not_mem (Ne.symm hc) hinside
        rcases hends with ⟨hlast, rfl⟩ | rfl
        · by_cases hreturn : line = [] ∧ c = '\r'
          · -- the character is part of the end of the line
            obtain ⟨rfl, rfl⟩ := hreturn
            exact .inr ⟨[], text, List.not_mem_nil, .inr rfl⟩
          · refine .inr ⟨c :: line, text, hcons, .inl ⟨?_, rfl⟩⟩
            cases line with
            | nil => simpa using hreturn
            | cons d line => rwa [List.getLast?_cons_cons]
        · exact .inr ⟨c :: line, text, hcons, .inr rfl⟩

/-- Every text has the lines that it is taken apart into. -/
theorem hasLines_lineChars (cs : List Char) : HasLines (lineChars cs) cs := by
  rcases line_or_split cs with hinside | ⟨line, text, hinside, ⟨hlast, hcs⟩ | hcs⟩
  · by_cases hne : cs = []
    · rw [hne]
      exact .ended .nil
    · rw [lineChars_of_not_mem hinside hne]
      exact .unended .nil hinside hne
  · -- the recursion goes by the length of what is left after the end of a line
    have hshorter : text.length < cs.length := by simp [hcs]; omega
    rw [hcs, lineChars_feed hinside hlast]
    exact (hasLines_lineChars text).cons_feed hinside hlast
  · have hshorter : text.length < cs.length := by simp [hcs]; omega
    rw [hcs, lineChars_returnFeed hinside]
    exact (hasLines_lineChars text).cons_returnFeed hinside
termination_by cs.length

/-- The lines of a text are those that it has. -/
theorem lineChars_eq_iff {lines : List (List Char)} {text : List Char} :
    lineChars text = lines ↔ HasLines lines text := by
  constructor
  · intro h
    exact h ▸ hasLines_lineChars text
  · exact HasLines.lineChars_eq

/-- No line has a line feed in it. -/
theorem Ended.not_mem {lines : List (List Char)} {text : List Char} (h : Ended lines text) :
    ∀ line ∈ lines, '\n' ∉ line := by
  induction h with
  | nil => exact nofun
  | feed inside _ _ ih => exact List.forall_mem_cons.2 ⟨inside, ih⟩
  | returnFeed inside _ ih => exact List.forall_mem_cons.2 ⟨inside, ih⟩

/-- No line has a line feed in it. -/
theorem not_mem_of_mem_lineChars {line cs : List Char} (h : line ∈ lineChars cs) : '\n' ∉ line := by
  have hlines := hasLines_lineChars cs
  generalize lineChars cs = lines at h hlines
  cases hlines with
  | ended hended => exact hended.not_mem line h
  | unended hended inside _ =>
    rcases List.mem_append.1 h with h | h
    · exact hended.not_mem line h
    · exact List.mem_singleton.1 h ▸ inside

/-- Lines that are each followed by a line feed. -/
theorem ended_flatMap {lines : List (List Char)}
    (h : ∀ line ∈ lines, '\n' ∉ line ∧ line.getLast? ≠ some '\r') :
    Ended lines (lines.flatMap (· ++ ['\n'])) := by
  induction lines with
  | nil => exact .nil
  | cons line rest ih =>
    obtain ⟨⟨hinside, hlast⟩, hrest⟩ := List.forall_mem_cons.1 h
    have hended := Ended.feed hinside hlast (ih hrest)
    simpa using hended

/-! ## Separators -/

/-- What was put together with a separator is cut at it. -/
theorem cutChars?_append_cons {sep : Char} {before : List Char} (h : sep ∉ before)
    (after : List Char) : cutChars? sep (before ++ sep :: after) = some (before, after) := by
  induction before with
  | nil => simp [cutChars?]
  | cons c rest ih =>
    obtain ⟨hc, hrest⟩ := List.ne_and_not_mem_of_not_mem_cons h
    simp [cutChars?, hc.symm, ih hrest]

/-- A text is cut into two parts if it is these with the separator between them, the first one
    without it. -/
theorem cutChars?_eq_some_iff {sep : Char} {cs before after : List Char} :
    cutChars? sep cs = some (before, after) ↔ sep ∉ before ∧ cs = before ++ sep :: after := by
  constructor
  · intro h
    exact ⟨not_mem_of_cutChars? h, append_of_cutChars? h⟩
  · rintro ⟨h, rfl⟩
    exact cutChars?_append_cons h after

/-- A text is cut at the first separator. -/
theorem cut?_eq_some_iff {sep : Char} {s before after : String} :
    cut? sep s = some (before, after) ↔
      sep ∉ before.toList ∧ s.toList = before.toList ++ sep :: after.toList := by
  rw [← cutChars?_eq_some_iff, cut?, Option.map_eq_some_iff]
  constructor
  · rintro ⟨⟨first, second⟩, hcut, heq⟩
    obtain ⟨rfl, rfl⟩ := Prod.mk.inj heq
    simpa using hcut
  · intro hcut
    exact ⟨_, hcut, by simp⟩

/-- Without a separator there is one part. -/
theorem splitChars_of_not_mem {sep : Char} {cs : List Char} (h : sep ∉ cs) :
    splitChars sep cs = [cs] := by
  induction cs with
  | nil => rfl
  | cons c rest ih =>
    obtain ⟨hc, hrest⟩ := List.ne_and_not_mem_of_not_mem_cons h
    simp [splitChars, hc.symm, ih hrest]

/-- What was put together with a separator has the pieces of both parts. -/
theorem splitChars_append_cons (sep : Char) (before after : List Char) :
    splitChars sep (before ++ sep :: after) = splitChars sep before ++ splitChars sep after := by
  induction before with
  | nil => simp [splitChars]
  | cons c rest ih =>
    by_cases hc : c = sep
    · simp [splitChars, hc, ih]
    · obtain ⟨piece, more, hrest⟩ := List.exists_cons_of_ne_nil (splitChars_ne_nil sep rest)
      simp [splitChars, hc, ih, hrest]

/-- The first piece is followed by the others, each after a separator. -/
theorem append_of_splitChars {sep : Char} {cs piece : List Char} {pieces : List (List Char)}
    (h : splitChars sep cs = piece :: pieces) : cs = piece ++ pieces.flatMap (sep :: ·) := by
  have hjoined := intercalate_splitChars sep cs
  rw [h] at hjoined
  rw [← hjoined]
  -- from here on the pieces may be any
  clear h hjoined
  induction pieces generalizing piece with
  | nil => simp [List.intercalate, List.intersperse]
  | cons next more ih =>
    have hmore := @ih next
    simp only [List.intercalate, List.intersperse, List.flatten_cons] at hmore ⊢
    simp [hmore]

/-- A piece does not have the separator in it. -/
theorem not_mem_of_mem_splitChars {sep : Char} {cs piece : List Char}
    (h : piece ∈ splitChars sep cs) : sep ∉ piece := by
  induction cs generalizing piece with
  | nil =>
    rw [splitChars, List.mem_singleton] at h
    exact h ▸ List.not_mem_nil
  | cons c rest ih =>
    -- the character is the separator and opens a piece, or belongs to the first piece
    obtain ⟨first, more, hrest⟩ := List.exists_cons_of_ne_nil (splitChars_ne_nil sep rest)
    by_cases hc : c = sep
    · rw [splitChars, if_pos hc] at h
      rcases List.mem_cons.1 h with rfl | h
      · exact List.not_mem_nil
      · exact ih h
    · simp only [splitChars, hc, ↓reduceIte, hrest] at h
      rcases List.mem_cons.1 h with rfl | h
      · exact List.not_mem_cons_of_ne_of_not_mem (Ne.symm hc) (ih (hrest ▸ List.mem_cons_self))
      · exact ih (hrest ▸ List.mem_cons_of_mem first h)

/-- Texts that are joined with a separator that none of them has are split again. -/
theorem splitAll_joinWith {sep : Char} {between : String} (hbetween : between.toList = [sep])
    {texts : List String} (hne : texts ≠ []) (h : ∀ s ∈ texts, sep ∉ s.toList) :
    splitAll sep (joinWith between texts) = texts := by
  induction texts with
  | nil => exact absurd rfl hne
  | cons s rest ih =>
    obtain ⟨hs, hrest⟩ := List.forall_mem_cons.1 h
    -- the last text has no separator behind it
    cases rest with
    | nil => simp [joinWith, splitAll, splitChars_of_not_mem hs]
    | cons t rest =>
      have hchars : (joinWith between (s :: t :: rest)).toList =
          s.toList ++ sep :: (joinWith between (t :: rest)).toList := by
        simp [joinWith, hbetween]
      have htail := ih (by simp) hrest
      rw [splitAll] at htail
      rw [splitAll, hchars, splitChars_append_cons, splitChars_of_not_mem hs, List.map_append,
        htail]
      simp

/-- Two texts or more that are joined have the separator between them. -/
theorem mem_joinWith {sep : Char} {between : String} (hbetween : between.toList = [sep])
    (s t : String) (rest : List String) :
    sep ∈ (joinWith between (s :: t :: rest)).toList := by
  simp [joinWith, hbetween]

/-! ## Ends -/

/-- A text ends with what it is some stem put before. -/
theorem endsWith_iff {tail s : String} : endsWith tail s = true ↔ ∃ stem, s = stem ++ tail := by
  rw [endsWith, List.isSuffixOf_iff_suffix]
  constructor
  · rintro ⟨stem, h⟩
    exact ⟨.ofList stem, String.toList_inj.1 (by simp [← h])⟩
  · rintro ⟨stem, rfl⟩
    exact ⟨stem.toList, String.toList_append.symm⟩

end Plugboard.Text
