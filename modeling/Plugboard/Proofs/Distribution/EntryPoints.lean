import Plugboard.Distribution.Text
import Plugboard.Proofs.Text.Lines

/-!
# Entry points on lines

What a file of entry points looks like can be said as a grammar: a line `[group]` opens a group, a
line `name = value` writes down one of its entry points, and between these stand white space and
comments (`Written`, `Renders`). Each form of line is read for what it says, whatever white space
surrounds its parts (`Line.ofChars_heading`, `Line.ofChars_pair`).

So whatever can be written down is read back (`Renders.ofText_eq`). The condition is that an entry
point is well formed, and what is read from any text at all is that (`wellFormed_of_mem_ofText`).
`render` is one way to write well-formed entry points down.
-/

namespace Plugboard.EntryPoint

open Text

/-- An entry point that a line below the heading of its group can hold. -/
structure WellFormed (e : EntryPoint) : Prop where
  trim_group : trim e.group = e.group
  trim_name : trim e.name = e.name
  trim_value : trim e.value = e.value
  group_inside : '\n' ∉ e.group.toList
  name_inside : '\n' ∉ e.name.toList
  value_inside : '\n' ∉ e.value.toList
  /-- The first equals sign ends the name. -/
  equals_not_mem : '=' ∉ e.name.toList
  /-- A name that begins like a comment would make the line one. -/
  not_comment : e.name.toList.head? ≠ some '#' ∧ e.name.toList.head? ≠ some ';'
  /-- Brackets at both ends would make the line a heading. -/
  not_heading : ¬(e.name.toList.head? = some '[' ∧ e.value.toList.getLast? = some ']')

/-! ## The grammar -/

/-- A line that says nothing. -/
inductive Filler : List Char → Prop where
  | blank {line : List Char} (h : Blank line) : Filler line
  /-- A comment, up to the end of the line. -/
  | comment {lead text : List Char} {mark : Char} (hlead : Blank lead)
      (hmark : mark = '#' ∨ mark = ';') : Filler (lead ++ mark :: text)

/-- A line that opens a group. -/
inductive Heads (group : List Char) : List Char → Prop where
  | mk {lead before after tail : List Char} (hlead : Blank lead) (hbefore : Blank before)
      (hafter : Blank after) (htail : Blank tail) :
      Heads group (lead ++ ('[' :: (before ++ group ++ after) ++ [']']) ++ tail)

/-- A line that holds a name and a value. -/
inductive Pairs (name value : List Char) : List Char → Prop where
  | mk {lead before after tail : List Char} (hlead : Blank lead) (hbefore : Blank before)
      (hafter : Blank after) (htail : Blank tail) :
      Pairs name value ((lead ++ name ++ before) ++ '=' :: (after ++ value ++ tail))

/-- Lines write entry points down, where those before the first heading belong to `group?`. -/
inductive Written : Option String → List EntryPoint → List (List Char) → Prop where
  | done {group? : Option String} : Written group? [] []
  | filler {group? : Option String} {es : List EntryPoint} {line : List Char}
      {lines : List (List Char)} (hline : Filler line) (rest : Written group? es lines) :
      Written group? es (line :: lines)
  | heading {group? : Option String} {group : String} {es : List EntryPoint} {line : List Char}
      {lines : List (List Char)} (hline : Heads group.toList line)
      (rest : Written (some group) es lines) : Written group? es (line :: lines)
  | pair {e : EntryPoint} {es : List EntryPoint} {line : List Char} {lines : List (List Char)}
      (hline : Pairs e.name.toList e.value.toList line) (rest : Written (some e.group) es lines) :
      Written (some e.group) (e :: es) (line :: lines)

/-- A text writes entry points down: its lines do. -/
def Renders (es : List EntryPoint) (s : String) : Prop :=
  ∃ lines, Written none es lines ∧ HasLines lines s.toList

/-! ## Reading a line -/

/-- What is put in brackets is found there. -/
theorem inBrackets?_brackets (inside : List Char) :
    inBrackets? ('[' :: inside ++ [']']) = some inside := by
  simp [inBrackets?]

/-- Only a line with brackets at both ends has something in brackets. -/
theorem inBrackets?_eq_none_iff {cs : List Char} :
    inBrackets? cs = none ↔ ¬(cs.head? = some '[' ∧ cs.getLast? = some ']') := by
  rw [inBrackets?.eq_def]
  split
  · rename_i rest
    rw [List.getLast?_cons]
    -- behind an opening bracket it is the last character that decides
    cases hlast : rest.getLast? with
    | none => simp
    | some c => by_cases hc : c = ']' <;> simp [hc]
  · rename_i hopen
    cases cs with
    | nil => simp
    | cons c rest =>
      have hc : c ≠ '[' := fun hc => hopen rest (hc ▸ rfl)
      simp [hc]

/-- What is found in brackets was put there. -/
theorem eq_of_inBrackets? {cs inside : List Char} (h : inBrackets? cs = some inside) :
    cs = '[' :: inside ++ [']'] := by
  rw [inBrackets?.eq_def] at h
  split at h
  · rename_i rest
    split at h
    · rename_i hlast
      obtain ⟨init, rfl⟩ := List.getLast?_eq_some_iff.1 hlast
      rw [List.dropLast_concat] at h
      rw [Option.some.inj h, List.cons_append]
    · cases h
  · cases h

namespace Line

/-- A line that is neither blank nor a comment is a heading or else a pair, if it is anything. -/
theorem ofChars_eq {line cs : List Char} (hcs : trimChars line = cs) (hne : cs ≠ [])
    (hcomment : cs.head? ≠ some '#' ∧ cs.head? ≠ some ';') :
    ofChars line = match inBrackets? cs with
      | some group => .heading (trimChars group)
      | none => match cutChars? '=' cs with
        | some (name, value) => .pair (trimChars name) (trimChars value)
        | none => .skip := by
  obtain ⟨c, rest, rfl⟩ := List.exists_cons_of_ne_nil hne
  have hmark : ¬(decide (c = '#') || decide (c = ';')) = true := by simpa using hcomment
  rw [ofChars, hcs]
  exact if_neg hmark

/-- White space and comments are skipped. -/
theorem ofChars_filler {line : List Char} (h : Filler line) : ofChars line = .skip := by
  cases h with
  | blank h => simp [ofChars, trimChars_eq_nil_iff.2 h]
  | @comment lead text mark hlead hmark =>
    have hblank : isBlank mark = false := by rcases hmark with rfl | rfl <;> decide
    have htrim : trimChars (lead ++ mark :: text) = mark :: trimEnd text := by
      rw [trimChars_append_cons hblank, trimStart_of_blank hlead, List.nil_append]
    simp only [ofChars, htrim]
    rcases hmark with rfl | rfl <;> rfl

/-- A heading is read as its group, whatever white space is around it. -/
theorem ofChars_heading {group line : List Char} (h : Heads group line) :
    ofChars line = .heading (trimChars group) := by
  obtain @⟨lead, before, after, tail, hlead, hbefore, hafter, htail⟩ := h
  have htrim : trimChars (lead ++ ('[' :: (before ++ group ++ after) ++ [']']) ++ tail) =
      '[' :: (before ++ group ++ after) ++ [']'] := by
    have hopen :=
      trimChars_append_cons (c := '[') (by decide) [] (before ++ group ++ after ++ [']'])
    have hclose := trimEnd_append_cons (c := ']') (by decide) (before ++ group ++ after) []
    rw [trimChars_surrounded hlead htail, List.cons_append]
    exact hopen.trans (congrArg ('[' :: ·) hclose)
  rw [ofChars_eq htrim (by simp) (by simp), inBrackets?_brackets]
  exact congrArg Line.heading (trimChars_surrounded hbefore hafter group)

/-- A line that holds a name and a value is read as these, if it looks like nothing else. -/
theorem ofChars_pair {name value line : List Char} (h : Pairs name value line)
    (hname : Trimmed name) (hvalue : Trimmed value) (hequals : '=' ∉ name)
    (hcomment : name.head? ≠ some '#' ∧ name.head? ≠ some ';')
    (hheading : ¬(name.head? = some '[' ∧ value.getLast? = some ']')) :
    ofChars line = .pair name value := by
  obtain @⟨lead, before, after, tail, hlead, hbefore, hafter, htail⟩ := h
  -- the two sides of the sign, as trimming the line leaves them
  have htrim : trimChars ((lead ++ name ++ before) ++ '=' :: (after ++ value ++ tail)) =
      trimStart (name ++ before) ++ '=' :: trimEnd (after ++ value) := by
    rw [trimChars_append_cons (by decide), List.append_assoc lead,
      trimStart_append_of_blank hlead, trimEnd_append_of_blank htail]
  -- the line begins as the name does and ends as the value does
  have hhead := hname.head?_trimStart_append hbefore '=' (trimEnd (after ++ value))
  have hlast := hvalue.getLast?_trimEnd_append hafter '=' (trimStart (name ++ before))
  have hcut : '=' ∉ trimStart (name ++ before) := by
    intro hmem
    rcases List.mem_append.1 (mem_of_mem_trimStart hmem) with hmem | hmem
    · exact hequals hmem
    · exact absurd (hbefore _ hmem) (by decide)
  rw [ofChars_eq htrim (by simp), inBrackets?_eq_none_iff.2, cutChars?_append_cons hcut]
  · have hleft := trimChars_surrounded blank_nil hbefore name
    have hright := trimChars_surrounded hafter blank_nil value
    rw [List.nil_append] at hleft
    rw [List.append_nil] at hright
    simp only [trimChars_trimStart, trimChars_trimEnd, hleft, hright]
    rw [hname, hvalue]
  · -- brackets around the line would be at the start of the name and at the end of the value
    rintro ⟨hopen, hclose⟩
    refine hheading ⟨?_, ?_⟩
    · rw [hhead] at hopen
      cases name with
      | nil => simp at hopen
      | cons c rest => simpa using hopen
    · rw [hlast, List.getLast?_cons] at hclose
      cases hv : value.getLast? with
      | none => simp [hv] at hclose
      | some c => simpa [hv] using hclose
  · rw [hhead]
    cases name with
    | nil => simp
    | cons c rest => simpa using hcomment

/-- A line that says something is neither blank nor a comment. -/
theorem ne_comment_of_ofChars_ne_skip {line : List Char} (h : ofChars line ≠ .skip) :
    trimChars line ≠ [] ∧
      ((trimChars line).head? ≠ some '#' ∧ (trimChars line).head? ≠ some ';') := by
  cases hcs : trimChars line with
  | nil => exact absurd (by simp [ofChars, hcs]) h
  | cons c rest =>
    refine ⟨List.cons_ne_nil c rest, ?_⟩
    rw [← not_or]
    intro hmark
    have hmark : c = '#' ∨ c = ';' := by simpa using hmark
    exact h (by simp [ofChars, hcs, hmark])

/-- What is read as a heading is in brackets. -/
theorem eq_of_ofChars_heading {line group : List Char} (h : ofChars line = .heading group) :
    ∃ inside, trimChars line = '[' :: inside ++ [']'] ∧ group = trimChars inside := by
  obtain ⟨hne, hcomment⟩ := ne_comment_of_ofChars_ne_skip (by rw [h]; exact nofun)
  rw [ofChars_eq rfl hne hcomment] at h
  cases hinside : inBrackets? (trimChars line) with
  | some inside =>
    rw [hinside] at h
    exact ⟨inside, eq_of_inBrackets? hinside, (Line.heading.inj h).symm⟩
  | none =>
    rw [hinside] at h
    cases hcut : cutChars? '=' (trimChars line) <;> simp [hcut] at h

/-- What is read as a pair has an equals sign and is neither a comment nor in brackets. -/
theorem eq_of_ofChars_pair {line name value : List Char} (h : ofChars line = .pair name value) :
    ∃ before after, trimChars line = before ++ '=' :: after ∧ '=' ∉ before ∧
      name = trimChars before ∧ value = trimChars after ∧
      ((trimChars line).head? ≠ some '#' ∧ (trimChars line).head? ≠ some ';') ∧
      ¬((trimChars line).head? = some '[' ∧ (trimChars line).getLast? = some ']') := by
  obtain ⟨hne, hcomment⟩ := ne_comment_of_ofChars_ne_skip (by rw [h]; exact nofun)
  rw [ofChars_eq rfl hne hcomment] at h
  -- a line in brackets is a heading, and a line without the sign is skipped
  cases hinside : inBrackets? (trimChars line) with
  | some inside => simp [hinside] at h
  | none =>
    cases hcut : cutChars? '=' (trimChars line) with
    | none => simp [hinside, hcut] at h
    | some parts =>
      obtain ⟨before, after⟩ := parts
      simp only [hinside, hcut, Line.pair.injEq] at h
      exact ⟨before, after, append_of_cutChars? hcut, not_mem_of_cutChars? hcut, h.1.symm,
        h.2.symm, hcomment, inBrackets?_eq_none_iff.1 hinside⟩

end Line

/-! ## Reading back what was written -/

/-- Lines that write well-formed entry points down are read as these. -/
theorem Written.ofLines_eq {group? : Option String} {es : List EntryPoint}
    {lines : List (List Char)} (h : Written group? es lines) (hes : ∀ e ∈ es, e.WellFormed) :
    ofLines (group?.map fun group => trimChars group.toList) (lines.map Line.ofChars) = es := by
  induction h with
  | done => rfl
  | filler hline rest ih => rw [List.map_cons, Line.ofChars_filler hline, ofLines, ih hes]
  | heading hline rest ih =>
    rw [List.map_cons, Line.ofChars_heading hline, ofLines]
    exact ih hes
  | @pair e es line lines hline rest ih =>
    obtain ⟨he, hrest⟩ := List.forall_mem_cons.1 hes
    -- a well-formed entry point is trimmed, so reading cuts nothing off
    have hgroup : trimChars e.group.toList = e.group.toList := trim_eq_self_iff.1 he.trim_group
    rw [List.map_cons, Line.ofChars_pair hline (trim_eq_self_iff.1 he.trim_name)
      (trim_eq_self_iff.1 he.trim_value) he.equals_not_mem he.not_comment he.not_heading]
    have hrest := ih hrest
    simp only [Option.map_some, hgroup] at hrest
    simp only [Option.map_some, ofLines, hgroup, String.ofList_toList, hrest]

/-- Entry points that are well formed are read back from every way to write them down. -/
theorem Renders.ofText_eq {es : List EntryPoint} {s : String} (h : Renders es s)
    (hes : ∀ e ∈ es, e.WellFormed) : ofText s = es := by
  obtain ⟨lines, hwritten, hlines⟩ := h
  rw [ofText, hlines.lineChars_eq]
  exact hwritten.ofLines_eq hes

/-! ## What is read is well formed -/

/-- What is read from a line as a pair is well formed, in any group that a heading can name. -/
theorem wellFormed_of_ofChars_pair {line name value group : List Char}
    (h : Line.ofChars line = .pair name value) (hline : '\n' ∉ line) (hgroup : Trimmed group)
    (hinside : '\n' ∉ group) :
    WellFormed { name := .ofList name, group := .ofList group, value := .ofList value } := by
  obtain ⟨before, after, hcs, hequals, hname, hvalue, hcomment, hheading⟩ :=
    Line.eq_of_ofChars_pair h
  have htrimmed := trimmed_trimChars line
  -- the outer ends of both sides are the ends of the line, which is trimmed
  have hhead : ∀ c, name.head? = some c → (trimChars line).head? = some c := by
    intro c hc
    rw [hname] at hc
    have hstart : trimChars line = trimStart before ++ '=' :: after := by
      rw [← htrimmed.trimStart_eq, hcs, trimStart_append_cons (by decide)]
    rw [hstart, List.head?_append, head?_of_head?_trimEnd hc]
    rfl
  have hlast : ∀ c, value.getLast? = some c → (trimChars line).getLast? = some c := by
    intro c hc
    rw [hvalue, trimChars_eq] at hc
    have hend : trimChars line = before ++ '=' :: trimEnd after := by
      rw [← htrimmed.trimEnd_eq, hcs, trimEnd_append_cons (by decide)]
    rw [hend, List.getLast?_append, List.getLast?_cons, getLast?_of_getLast?_trimStart hc]
    rfl
  -- neither side has anything that the line does not have
  have hmem : ∀ c, c ∈ name ∨ c ∈ value → c ∈ line := by
    intro c hc
    refine mem_of_mem_trimChars (hcs ▸ ?_)
    rcases hc with hc | hc
    · exact List.mem_append_left _ (mem_of_mem_trimChars (hname ▸ hc))
    · exact List.mem_append_right _ (List.mem_cons_of_mem _ (mem_of_mem_trimChars (hvalue ▸ hc)))
  constructor <;> simp only [trim_eq_self_iff, String.toList_ofList]
  · exact hgroup
  · exact hname ▸ trimmed_trimChars before
  · exact hvalue ▸ trimmed_trimChars after
  · exact hinside
  · exact fun hfeed => hline (hmem _ (.inl hfeed))
  · exact fun hfeed => hline (hmem _ (.inr hfeed))
  · exact fun hsign => hequals (mem_of_mem_trimChars (hname ▸ hsign))
  · exact ⟨fun hmark => hcomment.1 (hhead _ hmark), fun hmark => hcomment.2 (hhead _ hmark)⟩
  · exact fun ⟨hopen, hclose⟩ => hheading ⟨hhead _ hopen, hlast _ hclose⟩

/-- Whatever the lines, what is read from them is well formed. -/
theorem wellFormed_of_mem_ofLines {lines : List (List Char)} (hlines : ∀ line ∈ lines, '\n' ∉ line)
    {group? : Option (List Char)} (hgroup : ∀ group ∈ group?, Trimmed group ∧ '\n' ∉ group) :
    ∀ e ∈ ofLines group? (lines.map Line.ofChars), e.WellFormed := by
  induction lines generalizing group? with
  | nil => exact nofun
  | cons line rest ih =>
    obtain ⟨hline, hrest⟩ := List.forall_mem_cons.1 hlines
    rw [List.map_cons]
    -- a heading makes the group for the lines below it, so what it says must be trimmed too
    cases hread : Line.ofChars line with
    | skip => exact ih hrest hgroup
    | heading group =>
      obtain ⟨inside, hcs, rfl⟩ := Line.eq_of_ofChars_heading hread
      refine ih hrest fun group hmem => ?_
      obtain rfl : trimChars inside = group := Option.some.inj hmem
      refine ⟨trimmed_trimChars inside, fun hfeed => hline (mem_of_mem_trimChars (hcs ▸ ?_))⟩
      simp [mem_of_mem_trimChars hfeed]
    | pair name value =>
      cases group? with
      | none => exact ih hrest hgroup
      | some group =>
        obtain ⟨htrimmed, hinside⟩ := hgroup group rfl
        rw [ofLines]
        exact List.forall_mem_cons.2
          ⟨wellFormed_of_ofChars_pair hread hline htrimmed hinside, ih hrest hgroup⟩

/-- Whatever the text, an entry point that is read from it is well formed. -/
theorem wellFormed_of_mem_ofText (s : String) : ∀ e ∈ ofText s, e.WellFormed :=
  wellFormed_of_mem_ofLines (fun _ => not_mem_of_mem_lineChars) (fun _ hgroup => nomatch hgroup)

/-! ## One way to write -/

/-- The lines of entry points, with a heading wherever the group changes. -/
def linesOf (group? : Option String) : List EntryPoint → List (List Char)
  | [] => []
  | e :: rest =>
    let pair := e.name.toList ++ [' ', '=', ' '] ++ e.value.toList
    if group? = some e.group then pair :: linesOf group? rest
    else ('[' :: e.group.toList ++ [']']) :: pair :: linesOf (some e.group) rest

/-- A text that writes entry points down. -/
def render (es : List EntryPoint) : String :=
  .ofList ((linesOf none es).flatMap (· ++ ['\n']))

/-- A name and a value with spaces around the sign are a pair. -/
theorem pairs_spaced (name value : List Char) :
    Pairs name value (name ++ [' ', '=', ' '] ++ value) := by
  have hspace : Blank [' '] := by decide
  have h : Pairs name value _ := .mk blank_nil hspace hspace blank_nil
  simpa using h

/-- A group in brackets is a heading. -/
theorem heads_plain (group : List Char) : Heads group ('[' :: group ++ [']']) := by
  have h : Heads group _ := .mk blank_nil blank_nil blank_nil blank_nil
  simpa using h

/-- The lines of entry points have them written down. -/
theorem written_linesOf (group? : Option String) (es : List EntryPoint) :
    Written group? es (linesOf group? es) := by
  induction es generalizing group? with
  | nil => exact .done
  | cons e rest ih =>
    have hpair : Written (some e.group) (e :: rest)
        ((e.name.toList ++ [' ', '=', ' '] ++ e.value.toList) :: linesOf (some e.group) rest) :=
      .pair (pairs_spaced _ _) (ih _)
    rw [linesOf]
    -- the heading is written only where the group changes
    split
    · rename_i hgroup
      rw [hgroup]
      exact hpair
    · exact .heading (heads_plain _) hpair

/-- None of these lines goes over its end. -/
theorem inside_of_mem_linesOf {es : List EntryPoint} (hes : ∀ e ∈ es, e.WellFormed)
    (group? : Option String) :
    ∀ line ∈ linesOf group? es, '\n' ∉ line ∧ line.getLast? ≠ some '\r' := by
  induction es generalizing group? with
  | nil => exact nofun
  | cons e rest ih =>
    obtain ⟨he, hrest⟩ := List.forall_mem_cons.1 hes
    -- neither the heading nor the pair can be mistaken for two lines
    have hheading : '\n' ∉ '[' :: e.group.toList ++ [']'] ∧
        ('[' :: e.group.toList ++ [']']).getLast? ≠ some '\r' := by
      rw [List.getLast?_concat]
      exact ⟨by simp [he.group_inside], by decide⟩
    have hpair : '\n' ∉ e.name.toList ++ [' ', '=', ' '] ++ e.value.toList ∧
        (e.name.toList ++ [' ', '=', ' '] ++ e.value.toList).getLast? ≠ some '\r' := by
      have hlast := (trim_eq_self_iff.1 he.trim_value).getLast?_append_cons_ne (c := ' ')
        (d := '\r') (by decide) (by decide) (e.name.toList ++ [' ', '='])
      exact ⟨by simp [he.name_inside, he.value_inside], by simpa using hlast⟩
    rw [linesOf]
    split
    · exact List.forall_mem_cons.2 ⟨hpair, ih hrest _⟩
    · exact List.forall_mem_cons.2 ⟨hheading, List.forall_mem_cons.2 ⟨hpair, ih hrest _⟩⟩

/-- What is rendered is one way to write entry points down. -/
theorem renders_render {es : List EntryPoint} (hes : ∀ e ∈ es, e.WellFormed) :
    Renders es (render es) := by
  refine ⟨linesOf none es, written_linesOf none es, .ended ?_⟩
  rw [render, String.toList_ofList]
  exact ended_flatMap (inside_of_mem_linesOf hes none)

/-- Well-formed entry points are read back from every text that writes them down, and there is such
    a text. Whatever the text, what is read from it is well formed, so that it is read again from
    every text that writes it down. -/
theorem entryPoints_read_back :
    (∀ es s, (∀ e ∈ es, e.WellFormed) → Renders es s → ofText s = es) ∧
      (∀ es, (∀ e ∈ es, e.WellFormed) → Renders es (render es)) ∧
      (∀ s, ∀ e ∈ ofText s, e.WellFormed) ∧
      ∀ s t, Renders (ofText s) t → ofText t = ofText s :=
  ⟨fun _ _ hes h => h.ofText_eq hes, fun _ hes => renders_render hes, wellFormed_of_mem_ofText,
    fun s _ h => h.ofText_eq (wellFormed_of_mem_ofText s)⟩

/-- A comment, white space, both kinds of line ends, a name that begins like a heading, a value that
    ends like one and a name that is empty. -/
theorem entryPoints_read_back_surrounded :
    let es : List EntryPoint := [⟨"[x", "plugins", "a = b"⟩, ⟨"", "scripts", "m:f [z]"⟩]
    let s := "; all\r\n\t[plugins]\r\n[x=a = b\n\n[ scripts ]\n = m:f [z]"
    (∀ e ∈ es, e.WellFormed) ∧ Renders es s ∧ ofText s = es := by
  intro es s
  have hes : ∀ e ∈ es, e.WellFormed := by
    refine List.forall_mem_cons.2 ⟨?_, List.forall_mem_singleton.2 ?_⟩ <;>
      constructor <;> decide +kernel
  have hspace : Blank [' '] := by decide
  have htab : Blank ['\t'] := by decide
  -- a comment, two headings and two pairs, with a blank line between them
  have hrenders : Renders es s := by
    refine ⟨_, .filler (@Filler.comment [] " all".toList ';' blank_nil (.inr rfl)) <|
      .heading (.mk htab blank_nil blank_nil blank_nil) <|
      .pair (e := ⟨"[x", "plugins", "a = b"⟩) (.mk blank_nil blank_nil blank_nil blank_nil) <|
      .filler (.blank blank_nil) <|
      .heading (.mk blank_nil hspace hspace blank_nil) <|
      .pair (e := ⟨"", "scripts", "m:f [z]"⟩) (.mk blank_nil hspace hspace blank_nil) .done,
      lineChars_eq_iff.1 ?_⟩
    decide +kernel
  exact ⟨hes, hrenders, entryPoints_read_back.1 es s hes hrenders⟩

end Plugboard.EntryPoint
