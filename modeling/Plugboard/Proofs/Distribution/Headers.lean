import Mathlib.Data.List.Forall2
import Plugboard.Distribution.Text
import Plugboard.Proofs.Text.Lines

/-!
# Headers on lines

What headers look like in a text can be said as a grammar: a line `name: value` for each, a line
that begins with a space or a tab for each further line of its value (`Written`), then a blank line,
and behind that anything (`Renders`).

Reading keeps the headers read so far, the last one first. The lines of a header add that header to
them (`foldl_readLine_written`), so what can be written down is read back (`Renders.ofText_eq`). The
condition is that a header is well formed, and every line that is read keeps that
(`wellFormed_readLine`), whatever it looks like. `render` is one way to write headers down.
-/

namespace Plugboard.Headers

open Text

/-- A header, as a name and a value, that lines can hold. -/
structure WellFormed (header : String × String) : Prop where
  trim_name : trim header.1 = header.1
  /-- The first colon ends the name. -/
  colon_not_mem : ':' ∉ header.1.toList
  name_inside : '\n' ∉ header.1.toList
  trimmed_piece : ∀ piece ∈ splitChars '\n' header.2.toList, Trimmed piece
  /-- A further line of the value that is empty would end the headers. -/
  further_ne_nil : ∀ piece ∈ (splitChars '\n' header.2.toList).tail, piece ≠ []

/-! ## The grammar -/

/-- A line that goes on with the value of the header before it. -/
inductive Continues (piece : List Char) : List Char → Prop where
  | mk {indent : Char} {before after : List Char} (hindent : indent = ' ' ∨ indent = '\t')
      (hbefore : Blank before) (hafter : Blank after) :
      Continues piece (indent :: (before ++ piece ++ after))

/-- Lines write headers down. -/
inductive Written : List (String × String) → List (List Char) → Prop where
  | done : Written [] []
  /-- A header has a line for the first line of its value and one for each of the others. -/
  | header (header : String × String) {headers : List (String × String)}
      {piece before after : List Char} {pieces further lines : List (List Char)}
      (hvalue : splitChars '\n' header.2.toList = piece :: pieces) (hbefore : Blank before)
      (hafter : Blank after) (hfurther : List.Forall₂ Continues pieces further)
      (rest : Written headers lines) :
      Written (header :: headers)
        ((header.1.toList ++ ':' :: (before ++ piece ++ after)) :: (further ++ lines))

/-- A text writes headers down: it begins with their lines and a blank one. -/
def Renders (headers : List (String × String)) (s : String) : Prop :=
  ∃ lines blank head body, Written headers lines ∧ Blank blank ∧ Ended (lines ++ [blank]) head ∧
    s.toList = head ++ body

/-! ## Reading a line -/

/-- A further line is added to a value behind a line feed. -/
theorem toList_continued (value : String) (piece : List Char) :
    (value ++ "\n" ++ .ofList piece).toList = value.toList ++ '\n' :: piece := by
  simp

/-- The line of a header adds it, with the first line of its value. -/
theorem readLine_first {header : String × String} {piece before after : List Char}
    (hheader : WellFormed header) (hpiece : Trimmed piece) (hbefore : Blank before)
    (hafter : Blank after) (read : List (String × String)) :
    readLine read (header.1.toList ++ ':' :: (before ++ piece ++ after)) =
      (header.1, .ofList piece) :: read := by
  have hname : Trimmed header.1.toList := trim_eq_self_iff.1 hheader.trim_name
  have hcontinues : continues (header.1.toList ++ ':' :: (before ++ piece ++ after)) = false := by
    cases hcs : header.1.toList with
    | nil => simp [continues]
    | cons c rest =>
      -- a name does not begin with white space
      have hc : isBlank c = false := hname.isBlank_head (by rw [hcs]; rfl)
      have hspace : c ≠ ' ' ∧ c ≠ '\t' :=
        ⟨by rintro rfl; exact absurd hc (by decide), by rintro rfl; exact absurd hc (by decide)⟩
      simp [continues, hspace]
  have hvalue : trimChars (before ++ piece ++ after) = piece :=
    (trimChars_surrounded hbefore hafter piece).trans hpiece
  simp only [readLine, hcontinues, Bool.false_eq_true, ↓reduceIte,
    cutChars?_append_cons hheader.colon_not_mem, hvalue]
  rw [hname, String.ofList_toList]

/-- A line that goes on with a value adds a line to the last header that was read. -/
theorem readLine_further {piece line : List Char} (h : Continues piece line)
    (hpiece : Trimmed piece) (name : String) (value : List Char) (read : List (String × String)) :
    readLine ((name, .ofList value) :: read) line =
      (name, .ofList (value ++ '\n' :: piece)) :: read := by
  obtain @⟨indent, before, after, hindent, hbefore, hafter⟩ := h
  have hcontinues : continues (indent :: (before ++ piece ++ after)) = true := by
    simpa [continues] using hindent
  have hlead : Blank (indent :: before) :=
    List.forall_mem_cons.2 ⟨by rcases hindent with rfl | rfl <;> decide, hbefore⟩
  -- the indentation is white space and goes with the rest of it
  have htrim : trimChars (indent :: (before ++ piece ++ after)) = piece :=
    (trimChars_surrounded hlead hafter piece).trans hpiece
  have hjoined : String.ofList value ++ "\n" ++ .ofList piece = .ofList (value ++ '\n' :: piece) :=
    String.toList_inj.1 (by rw [toList_continued, String.toList_ofList, String.toList_ofList])
  simp only [readLine, hcontinues, ↓reduceIte, htrim, hjoined]

/-! ## Reading back what was written -/

/-- The further lines of a header are added to its value, one after another. -/
theorem foldl_readLine_further {pieces further : List (List Char)}
    (h : List.Forall₂ Continues pieces further) (hpieces : ∀ piece ∈ pieces, Trimmed piece)
    (name : String) (value : List Char) (read : List (String × String)) :
    further.foldl readLine ((name, .ofList value) :: read) =
      (name, .ofList (value ++ pieces.flatMap ('\n' :: ·))) :: read := by
  -- every line makes the value longer, so the induction is for any value
  induction h generalizing value with
  | nil => rw [List.flatMap_nil, List.append_nil, List.foldl_nil]
  | cons hline _ ih =>
    obtain ⟨hpiece, hrest⟩ := List.forall_mem_cons.1 hpieces
    rw [List.foldl_cons, readLine_further hline hpiece, ih hrest, List.flatMap_cons,
      List.append_assoc]

/-- The lines of a header are read as that header, and it is the last one then. -/
theorem foldl_readLine_written {headers : List (String × String)} {lines : List (List Char)}
    (h : Written headers lines) (hheaders : ∀ header ∈ headers, WellFormed header)
    (read : List (String × String)) : lines.foldl readLine read = headers.reverse ++ read := by
  induction h generalizing read with
  | done => rfl
  | @header header headers piece before after pieces further lines hvalue hbefore hafter hfurther
      rest ih =>
    obtain ⟨hheader, hrest⟩ := List.forall_mem_cons.1 hheaders
    have htrimmed := hheader.trimmed_piece
    rw [hvalue] at htrimmed
    obtain ⟨hpiece, hpieces⟩ := List.forall_mem_cons.1 htrimmed
    -- the first line opens the header, and the others go on with it until its value is whole
    rw [List.foldl_cons, List.foldl_append, readLine_first hheader hpiece hbefore hafter,
      foldl_readLine_further hfurther hpieces, ← append_of_splitChars hvalue,
      String.ofList_toList, ih hrest]
    simp

/-- No line of a header ends the headers. -/
theorem Written.not_blank {headers : List (String × String)} {lines : List (List Char)}
    (h : Written headers lines) (hheaders : ∀ header ∈ headers, WellFormed header) :
    ∀ line ∈ lines, ¬Blank line := by
  induction h with
  | done => exact nofun
  | @header header headers piece before after pieces further lines hvalue hbefore hafter hfurther
      rest ih =>
    obtain ⟨hheader, hrest⟩ := List.forall_mem_cons.1 hheaders
    have hpieces : ∀ piece ∈ pieces, Trimmed piece ∧ piece ≠ [] := by
      intro piece hmem
      have htrimmed := hheader.trimmed_piece
      have hne := hheader.further_ne_nil
      rw [hvalue] at htrimmed hne
      exact ⟨htrimmed piece (List.mem_cons_of_mem _ hmem), hne piece hmem⟩
    refine List.forall_mem_cons.2 ⟨?_, List.forall_mem_append.2 ⟨?_, ih hrest⟩⟩
    · -- the colon is no white space
      intro hblank
      exact absurd (hblank ':' (by simp)) (by decide)
    · -- and what a further line holds is not empty
      clear hvalue
      induction hfurther with
      | nil => exact nofun
      | cons hline _ ih =>
        obtain ⟨⟨htrimmed, hne⟩, hmore⟩ := List.forall_mem_cons.1 hpieces
        refine List.forall_mem_cons.2 ⟨fun hblank => hne ?_, ih hmore⟩
        obtain @⟨indent, before, after, -, -, -⟩ := hline
        rw [← htrimmed, trimChars_eq_nil_iff]
        exact fun c hc => hblank c (by simp [hc])

/-- Headers that are well formed are read back from every way to write them down. -/
theorem Renders.ofText_eq {headers : List (String × String)} {s : String} (h : Renders headers s)
    (hheaders : ∀ header ∈ headers, WellFormed header) : ofText s = ⟨headers⟩ := by
  obtain ⟨lines, blank, head, body, hwritten, hblank, hended, hs⟩ := h
  -- the blank line is the first of its kind, so the body is never looked at
  have htake : (lineChars s.toList).takeWhile (fun line => !line.all isBlank) = lines := by
    have hlines : ∀ line ∈ lines, (!line.all isBlank) = true := by
      intro line hmem
      have hline := hwritten.not_blank hheaders line hmem
      simpa [Blank] using hline
    have hend : (!blank.all isBlank) = false := by simpa [Blank] using hblank
    rw [hs, hended.lineChars_append, List.append_assoc, List.takeWhile_append_of_pos hlines,
      List.cons_append, List.takeWhile_cons, hend]
    simp
  rw [ofText, ofLines, htake, foldl_readLine_written hwritten hheaders]
  simp

/-! ## What is read is well formed -/

/-- A line that is not blank keeps the headers read so far well formed, whatever it says. -/
theorem wellFormed_readLine {read : List (String × String)} {line : List Char}
    (hread : ∀ header ∈ read, WellFormed header) (hinside : '\n' ∉ line) (hblank : ¬Blank line) :
    ∀ header ∈ readLine read line, WellFormed header := by
  cases hcontinues : continues line with
  | true =>
    cases read with
    | nil =>
      -- before the first header there is nothing to go on with
      simp [readLine, hcontinues]
    | cons last earlier =>
      obtain ⟨hlast, hearlier⟩ := List.forall_mem_cons.1 hread
      obtain ⟨name, value⟩ := last
      simp only [readLine, hcontinues, ↓reduceIte]
      refine List.forall_mem_cons.2 ⟨?_, hearlier⟩
      have hfeed : '\n' ∉ trimChars line := fun h => hinside (mem_of_mem_trimChars h)
      -- the value has one more piece now, and it is not empty
      have hpieces : splitChars '\n' (value ++ "\n" ++ .ofList (trimChars line)).toList =
          splitChars '\n' value.toList ++ [trimChars line] := by
        rw [toList_continued, splitChars_append_cons, splitChars_of_not_mem hfeed]
      refine ⟨hlast.trim_name, hlast.colon_not_mem, hlast.name_inside, ?_, ?_⟩
      · rw [hpieces, List.forall_mem_append, List.forall_mem_singleton]
        exact ⟨hlast.trimmed_piece, trimmed_trimChars line⟩
      · rw [hpieces, List.tail_append_of_ne_nil (splitChars_ne_nil _ _), List.forall_mem_append,
          List.forall_mem_singleton]
        exact ⟨hlast.further_ne_nil, fun h => hblank (trimChars_eq_nil_iff.1 h)⟩
  | false =>
    cases hcut : cutChars? ':' line with
    | none => simpa [readLine, hcontinues, hcut] using hread
    | some parts =>
      obtain ⟨name, value⟩ := parts
      -- a new header begins, with all that stands before the first colon for its name
      have hline := append_of_cutChars? hcut
      have hname : '\n' ∉ name := fun h => hinside (hline ▸ List.mem_append_left _ h)
      have hvalue : '\n' ∉ trimChars value := fun h => hinside (hline ▸
        List.mem_append_right _ (List.mem_cons_of_mem _ (mem_of_mem_trimChars h)))
      simp only [readLine, hcontinues, Bool.false_eq_true, ↓reduceIte, hcut]
      refine List.forall_mem_cons.2 ⟨?_, hread⟩
      constructor <;>
        simp only [trim_eq_self_iff, String.toList_ofList, splitChars_of_not_mem hvalue]
      · exact trimmed_trimChars name
      · exact fun h => not_mem_of_cutChars? hcut (mem_of_mem_trimChars h)
      · exact fun h => hname (mem_of_mem_trimChars h)
      · exact List.forall_mem_singleton.2 (trimmed_trimChars value)
      · exact nofun

/-- Lines that are read keep the headers read so far well formed. -/
theorem wellFormed_foldl_readLine {lines : List (List Char)}
    (hlines : ∀ line ∈ lines, '\n' ∉ line ∧ ¬Blank line) {read : List (String × String)}
    (hread : ∀ header ∈ read, WellFormed header) :
    ∀ header ∈ lines.foldl readLine read, WellFormed header := by
  induction lines generalizing read with
  | nil => exact hread
  | cons line rest ih =>
    obtain ⟨⟨hinside, hblank⟩, hrest⟩ := List.forall_mem_cons.1 hlines
    exact ih hrest (wellFormed_readLine hread hinside hblank)

/-- Whatever the text, a header that is read from it is well formed. -/
theorem wellFormed_of_mem_ofText (s : String) :
    ∀ header ∈ (ofText s).entries, WellFormed header := by
  intro header hmem
  refine wellFormed_foldl_readLine (fun line hline => ?_) (List.forall_mem_nil _) header
    (List.mem_reverse.1 hmem)
  have hkept := List.all_eq_true.1 List.all_takeWhile line hline
  exact ⟨not_mem_of_mem_lineChars (List.takeWhile_subset _ hline), by simpa [Blank] using hkept⟩

/-! ## One way to write -/

/-- The lines of a header, one for each line of its value. -/
def linesOf (header : String × String) : List (List Char) :=
  match splitChars '\n' header.2.toList with
  | [] => []
  | piece :: pieces => (header.1.toList ++ ':' :: ' ' :: piece) :: pieces.map (' ' :: ·)

/-- A text that writes headers down, with nothing behind them. -/
def render (headers : List (String × String)) : String :=
  .ofList ((headers.flatMap linesOf ++ [[]]).flatMap (· ++ ['\n']))

/-- The lines of headers have them written down. -/
theorem written_linesOf (headers : List (String × String)) :
    Written headers (headers.flatMap linesOf) := by
  induction headers with
  | nil => exact .done
  | cons header rest ih =>
    obtain ⟨piece, pieces, hvalue⟩ :=
      List.exists_cons_of_ne_nil (splitChars_ne_nil '\n' header.2.toList)
    have hspace : Blank [' '] := by decide
    -- each further line is indented by one space
    have hfurther : List.Forall₂ Continues pieces (pieces.map (' ' :: ·)) := by
      rw [List.forall₂_map_right_iff, List.forall₂_same]
      intro piece _
      have hline : Continues piece _ := .mk (.inl rfl) blank_nil blank_nil
      simpa using hline
    have hwritten := Written.header header hvalue hspace blank_nil hfurther ih
    simpa [linesOf, hvalue] using hwritten

/-- None of these lines goes over its end. -/
theorem inside_of_mem_linesOf {header : String × String} (hheader : WellFormed header) :
    ∀ line ∈ linesOf header, '\n' ∉ line ∧ line.getLast? ≠ some '\r' := by
  obtain ⟨piece, pieces, hvalue⟩ :=
    List.exists_cons_of_ne_nil (splitChars_ne_nil '\n' header.2.toList)
  -- every line ends with a piece of the value behind a space
  have hpieces : ∀ piece ∈ splitChars '\n' header.2.toList,
      '\n' ∉ piece ∧ ∀ xs, (xs ++ ' ' :: piece).getLast? ≠ some '\r' := fun piece hmem =>
    ⟨not_mem_of_mem_splitChars hmem,
      (hheader.trimmed_piece piece hmem).getLast?_append_cons_ne (by decide) (by decide)⟩
  rw [hvalue] at hpieces
  obtain ⟨⟨hinside, hlast⟩, hrest⟩ := List.forall_mem_cons.1 hpieces
  rw [linesOf, hvalue]
  refine List.forall_mem_cons.2 ⟨⟨?_, ?_⟩, List.forall_mem_map.2 fun piece hmem => ?_⟩
  · simp [hheader.name_inside, hinside]
  · have hline := hlast (header.1.toList ++ [':'])
    simpa using hline
  · obtain ⟨hfeed, hend⟩ := hrest piece hmem
    exact ⟨List.not_mem_cons_of_ne_of_not_mem (by decide) hfeed, hend []⟩

/-- What is rendered is one way to write headers down. -/
theorem renders_render {headers : List (String × String)}
    (hheaders : ∀ header ∈ headers, WellFormed header) : Renders headers (render headers) := by
  refine ⟨headers.flatMap linesOf, [], _, [], written_linesOf headers, blank_nil,
    ended_flatMap ?_, ?_⟩
  · refine List.forall_mem_append.2 ⟨fun line hmem => ?_, ?_⟩
    · obtain ⟨header, hheader, hline⟩ := List.mem_flatMap.1 hmem
      exact inside_of_mem_linesOf (hheaders header hheader) line hline
    · exact List.forall_mem_singleton.2 ⟨List.not_mem_nil, by simp⟩
  · rw [render, String.toList_ofList, List.append_nil]

/-- Well-formed headers are read back from every text that writes them down, whatever its body, and
    there is such a text. Whatever the text, what is read from it is well formed, so that it is read
    again from every text that writes it down. -/
theorem headers_read_back :
    (∀ headers s, (∀ header ∈ headers, WellFormed header) → Renders headers s →
        (ofText s).entries = headers) ∧
      (∀ headers, (∀ header ∈ headers, WellFormed header) → Renders headers (render headers)) ∧
      (∀ s, ∀ header ∈ (ofText s).entries, WellFormed header) ∧
      ∀ s t, Renders (ofText s).entries t → ofText t = ofText s :=
  ⟨fun _ _ hheaders h => congrArg Headers.entries (h.ofText_eq hheaders),
    fun _ hheaders => renders_render hheaders, wellFormed_of_mem_ofText,
    fun s _ h => h.ofText_eq (wellFormed_of_mem_ofText s)⟩

/-- A value of two lines, a further line that looks like a header, a name that is empty, both kinds
    of line ends, a blank line of white space and a body that looks like a header. -/
theorem headers_read_back_folded :
    let headers := [("Summary", "one\ntwo: x"), ("", "a:b")]
    let s := "Summary: one\r\n\ttwo: x \n:a:b\r\n \t\nName: body"
    (∀ header ∈ headers, WellFormed header) ∧ Renders headers s ∧
      (ofText s).entries = headers := by
  intro headers s
  have hheaders : ∀ header ∈ headers, WellFormed header := by
    refine List.forall_mem_cons.2 ⟨?_, List.forall_mem_singleton.2 ?_⟩ <;>
      constructor <;> decide +kernel
  have hspace : Blank [' '] := by decide
  have hblank : Blank [' ', '\t'] := by decide
  have hsummary : splitChars '\n' "one\ntwo: x".toList = ["one".toList, "two: x".toList] := by
    decide +kernel
  have hnameless : splitChars '\n' "a:b".toList = ["a:b".toList] := by decide +kernel
  -- the value of the first header goes on in a second line
  have hfurther : List.Forall₂ Continues ["two: x".toList] ["\ttwo: x ".toList] :=
    .cons (.mk (.inr rfl) blank_nil hspace) .nil
  have hrest : Written [("", "a:b")] [":a:b".toList] :=
    .header ("", "a:b") hnameless blank_nil blank_nil .nil .done
  have hwritten : Written headers ["Summary: one".toList, "\ttwo: x ".toList, ":a:b".toList] :=
    .header ("Summary", "one\ntwo: x") hsummary hspace blank_nil hfurther hrest
  have hrenders : Renders headers s := by
    refine ⟨_, [' ', '\t'], _, "Name: body".toList, hwritten, hblank,
      .returnFeed ?_ <| .feed ?_ ?_ <| .returnFeed ?_ <| .feed ?_ ?_ .nil, ?_⟩ <;>
      decide +kernel
  exact ⟨hheaders, hrenders, headers_read_back.1 headers s hheaders hrenders⟩

end Plugboard.Headers
