import Mathlib.Data.List.Forall2
import Mathlib.Data.String.Basic
import Plugboard.Distribution.Meta

/-!
# Where address lists are split

The parts of an address list are held as byte offsets. `splitAddressChars` gives them as characters:
what is cut out at the offsets of a part are the characters of that part (`splitAddresses_eq`), and
there is a part between any two commas that are outside quotes (`breaks_splitAddressChars`).
`split_at_loose_commas` draws this together: the offsets lie between characters, the parts joined
again are the list, and the commas that join them are those behind an even number of quotes.
-/

namespace Plugboard.DistMeta

open Text

/-! ## Parts as characters -/

/-- The parts of an address list between the commas outside double quotes; `quoted` says whether the
    list begins inside them. -/
def splitAddressChars (quoted : Bool) : List Char → List (List Char)
  | [] => [[]]
  | c :: rest =>
    if c = ',' ∧ quoted = false then [] :: splitAddressChars quoted rest
    else match splitAddressChars (if c = '"' then !quoted else quoted) rest with
      | [] => [[c]]
      | part :: more => (c :: part) :: more

/-- At a comma outside quotes a part ends. -/
theorem splitAddressChars_comma (rest : List Char) :
    splitAddressChars false (',' :: rest) = [] :: splitAddressChars false rest := by
  rw [splitAddressChars, if_pos ⟨rfl, rfl⟩]

/-- A character at which nothing is split belongs to the first part. -/
theorem splitAddressChars_cons {quoted : Bool} {c : Char} {rest part : List Char}
    {more : List (List Char)} (hc : c = ',' → quoted = true)
    (h : splitAddressChars (if c = '"' then !quoted else quoted) rest = part :: more) :
    splitAddressChars quoted (c :: rest) = (c :: part) :: more := by
  have hsplit : ¬(c = ',' ∧ quoted = false) := by
    rintro ⟨hcomma, hquoted⟩
    simp [hc hcomma] at hquoted
  rw [splitAddressChars, if_neg hsplit, h]

/-- There is always a part. -/
theorem exists_splitAddressChars (quoted : Bool) (cs : List Char) :
    ∃ part more, splitAddressChars quoted cs = part :: more := by
  cases cs with
  | nil => exact ⟨[], [], rfl⟩
  | cons c rest =>
    rw [splitAddressChars]
    split
    · exact ⟨_, _, rfl⟩
    · split
      · exact ⟨_, _, rfl⟩
      · exact ⟨_, _, rfl⟩

/-! ## Parts as byte offsets -/

/-- The byte offsets between which characters stand in a text. -/
def Holds (value : String) (span : String.Pos.Raw × String.Pos.Raw) (cs : List Char) : Prop :=
  ∃ before after, value.toList = before ++ cs ++ after ∧
    span = (⟨String.utf8Len before⟩, ⟨String.utf8Len before + String.utf8Len cs⟩)

/-- Two byte offsets in order, at neither of which a character is cut through. -/
structure Sliceable (value : String) (span : String.Pos.Raw × String.Pos.Raw) : Prop where
  start_valid : span.1.IsValid value
  stop_valid : span.2.IsValid value
  start_le_stop : span.1 ≤ span.2
  stop_le_end : span.2 ≤ value.rawEndPos

/-- The length of what comes first is an offset between characters. -/
theorem isValid_utf8Len {value : String} {before after : List Char}
    (h : value.toList = before ++ after) :
    String.Pos.Raw.IsValid value ⟨String.utf8Len before⟩ := by
  rw [String.Pos.Raw.isValid_iff_exists_append]
  refine ⟨.ofList before, .ofList after, ?_, ?_⟩
  · rw [← String.ofList_append, ← h, String.ofList_toList]
  · rw [String.rawEndPos_ofList]

/-- Offsets at which characters are held can be cut at. -/
theorem Holds.sliceable {value : String} {span : String.Pos.Raw × String.Pos.Raw} {cs : List Char}
    (h : Holds value span cs) : Sliceable value span := by
  obtain ⟨before, after, hvalue, rfl⟩ := h
  have hstop : String.Pos.Raw.IsValid value ⟨String.utf8Len before + String.utf8Len cs⟩ := by
    rw [← String.utf8Len_append]
    exact isValid_utf8Len hvalue
  constructor
  · rw [List.append_assoc] at hvalue
    exact isValid_utf8Len hvalue
  · exact hstop
  · exact Nat.le_add_right _ _
  · exact hstop.le_rawEndPos

/-- What is cut out there are these characters. -/
theorem Holds.extract_eq {value : String} {span : String.Pos.Raw × String.Pos.Raw} {cs : List Char}
    (h : Holds value span cs) : String.Pos.Raw.extract value span.1 span.2 = .ofList cs := by
  obtain ⟨before, after, hvalue, rfl⟩ := h
  rw [← String.ofList_toList (s := value), hvalue]
  exact String.extract_of_valid before cs after

/-- The offset behind a character is that behind the characters up to it. -/
theorem add_char_eq (before opened : List Char) (c : Char) :
    (⟨String.utf8Len before + String.utf8Len opened⟩ : String.Pos.Raw) + c =
      ⟨String.utf8Len before + String.utf8Len (opened ++ [c])⟩ := by
  rw [String.Pos.Raw.add_char_eq, String.utf8Len_append, String.utf8Len_cons, String.utf8Len_nil,
    Nat.zero_add, Nat.add_assoc]

/-- The offsets are those of the parts as characters, if these are what is left of a text behind
    what a part has already taken in. -/
theorem holds_addressSpans {value : String} {quoted : Bool} {before opened rest part : List Char}
    {more : List (List Char)} (hvalue : value.toList = before ++ opened ++ rest)
    (hparts : splitAddressChars quoted rest = part :: more) :
    List.Forall₂ (Holds value)
      (addressSpans quoted ⟨String.utf8Len before⟩
        ⟨String.utf8Len before + String.utf8Len opened⟩ rest)
      ((opened ++ part) :: more) := by
  induction rest generalizing quoted before opened part more with
  | nil =>
    obtain ⟨rfl, rfl⟩ : [] = part ∧ [] = more := by simpa [splitAddressChars] using hparts
    rw [List.append_nil]
    exact .cons ⟨before, [], hvalue, rfl⟩ .nil
  | cons c rest ih =>
    rw [addressSpans]
    by_cases hcomma : c = ',' ∧ quoted = false
    · -- the part ends, and the next one begins behind the comma
      obtain ⟨rfl, rfl⟩ := hcomma
      rw [splitAddressChars_comma] at hparts
      obtain ⟨next, others, hnext⟩ := exists_splitAddressChars false rest
      obtain ⟨rfl, rfl⟩ : [] = part ∧ splitAddressChars false rest = more := by
        simpa using hparts
      have hrest : value.toList = (before ++ opened ++ [',']) ++ [] ++ rest := by simp [hvalue]
      have hspans := ih hrest hnext
      have hstart : String.utf8Len (before ++ opened ++ [',']) =
          String.utf8Len before + String.utf8Len opened + 1 := by
        rw [String.utf8Len_append, String.utf8Len_append]
        rfl
      rw [String.utf8Len_nil, Nat.add_zero, hstart, List.nil_append] at hspans
      rw [if_pos ⟨rfl, rfl⟩, List.append_nil, hnext, String.Pos.Raw.add_char_eq]
      exact .cons ⟨before, ',' :: rest, hvalue, rfl⟩ hspans
    · -- the character belongs to the part
      obtain ⟨first, others, hfirst⟩ :=
        exists_splitAddressChars (if c = '"' then !quoted else quoted) rest
      have hc : c = ',' → quoted = true := by
        intro hc
        simpa [hc] using hcomma
      rw [splitAddressChars_cons hc hfirst] at hparts
      obtain ⟨rfl, rfl⟩ : c :: first = part ∧ others = more := by simpa using hparts
      have hrest : value.toList = before ++ (opened ++ [c]) ++ rest := by simp [hvalue]
      have hspans := ih hrest hfirst
      rw [List.append_assoc, List.singleton_append, ← add_char_eq] at hspans
      rw [if_neg hcomma]
      exact hspans

/-- So they are for a whole list. -/
theorem holds_spans (value : String) :
    List.Forall₂ (Holds value) (addressSpans false 0 0 value.toList)
      (splitAddressChars false value.toList) := by
  obtain ⟨part, more, hparts⟩ := exists_splitAddressChars false value.toList
  rw [hparts]
  exact @holds_addressSpans value false [] [] _ part more rfl hparts

/-- The offsets of every part can be cut at. -/
theorem sliceable_of_mem_spans {value : String} {span : String.Pos.Raw × String.Pos.Raw}
    (h : span ∈ addressSpans false 0 0 value.toList) : Sliceable value span := by
  have hspans := (holds_spans value).imp fun _ _ hholds => And.intro hholds.sliceable hholds
  exact ((List.forall₂_and_left _ _).1 hspans).1 span h

/-- The addresses of a list are its parts. -/
theorem splitAddresses_eq (value : String) :
    splitAddresses value = (splitAddressChars false value.toList).map .ofList := by
  rw [splitAddresses, ← List.forall₂_eq_eq_eq, List.forall₂_map_left_iff,
    List.forall₂_map_right_iff]
  exact (holds_spans value).imp fun _ _ hholds => hholds.extract_eq

/-! ## Parts joined again -/

/-- To join texts by a comma is to join their characters by one. -/
theorem joinWith_ofList (parts : List (List Char)) :
    joinWith "," (parts.map .ofList) = .ofList ([','].intercalate parts) := by
  induction parts with
  | nil => rfl
  | cons part rest ih =>
    cases rest with
    | nil => rw [List.intercalate_singleton]; rfl
    | cons next more =>
      rw [List.intercalate_cons_cons, String.ofList_append, String.ofList_append, ← ih]
      rfl

/-- Nothing but the commas between the parts is lost. -/
theorem intercalate_splitAddressChars (quoted : Bool) (cs : List Char) :
    [','].intercalate (splitAddressChars quoted cs) = cs := by
  induction cs generalizing quoted with
  | nil => rfl
  | cons c rest ih =>
    -- a comma outside quotes starts a new part, any other character goes into the first one
    by_cases hcomma : c = ',' ∧ quoted = false
    · obtain ⟨rfl, rfl⟩ := hcomma
      obtain ⟨part, more, hparts⟩ := exists_splitAddressChars false rest
      have hrest := ih false
      rw [hparts] at hrest
      rw [splitAddressChars_comma, hparts, List.intercalate_cons_cons, hrest]
      rfl
    · obtain ⟨part, more, hparts⟩ :=
        exists_splitAddressChars (if c = '"' then !quoted else quoted) rest
      have hc : c = ',' → quoted = true := by
        intro hc
        simpa [hc] using hcomma
      have hrest := ih (if c = '"' then !quoted else quoted)
      rw [hparts] at hrest
      rw [splitAddressChars_cons hc hparts, List.intercalate_cons_cons_left, hrest]

/-! ## Where the commas were -/

/-- The places of the commas between parts in what they are joined to. -/
def breaks (parts : List (List Char)) : List Nat :=
  (List.range (parts.length - 1)).map fun k => ([','].intercalate (parts.take (k + 1))).length

/-- A break comes behind the first parts, joined by commas. -/
theorem mem_breaks_iff {parts : List (List Char)} {i : Nat} :
    i ∈ breaks parts ↔
      ∃ k, k + 1 < parts.length ∧ i = ([','].intercalate (parts.take (k + 1))).length := by
  rw [breaks, List.mem_map]
  constructor
  · rintro ⟨k, hk, rfl⟩
    rw [List.mem_range] at hk
    exact ⟨k, by omega, rfl⟩
  · rintro ⟨k, hk, rfl⟩
    exact ⟨k, List.mem_range.2 (by omega), rfl⟩

/-- The first break comes behind the first part, and the others are moved by it. -/
theorem breaks_cons_cons (part next : List Char) (more : List (List Char)) :
    breaks (part :: next :: more) =
      part.length :: (breaks (next :: more)).map (· + (part.length + 1)) := by
  -- behind the first part and its comma all places are moved by their lengths
  have hshift : ∀ k, ([','].intercalate (part :: next :: more.take k)).length =
      ([','].intercalate (next :: more.take k)).length + (part.length + 1) := by
    intro k
    rw [List.intercalate_cons_cons, List.length_append, List.length_append]
    simp only [List.length_singleton]
    omega
  simp only [breaks, List.length_cons, Nat.add_sub_cancel, List.range_succ_eq_map, List.map_cons,
    List.map_map]
  congr 1
  · rw [Nat.zero_add, List.take_succ_cons, List.take_zero, List.intercalate_singleton]
  · apply List.map_congr_left
    intro k _
    exact hshift k

/-- A character more in the first part moves the commas by one. -/
theorem breaks_cons_left (c : Char) (part : List Char) (more : List (List Char)) :
    breaks ((c :: part) :: more) = (breaks (part :: more)).map (· + 1) := by
  cases more with
  | nil => rfl
  | cons next more =>
    rw [breaks_cons_cons, breaks_cons_cons, List.map_cons, List.map_map]
    rfl

/-- A comma at a place among characters behind an even number of double quotes, where `quoted` says
    whether there is one more before all of them. -/
def Loose (quoted : Bool) (cs : List Char) (i : Nat) : Prop :=
  cs[i]? = some ',' ∧ ((cs.take i).count '"' + quoted.toNat) % 2 = 0

instance (quoted : Bool) (cs : List Char) : DecidablePred (Loose quoted cs) := fun _ =>
  inferInstanceAs (Decidable (_ ∧ _))

/-- The first character is a loose comma if it is a comma outside quotes. -/
theorem loose_zero {quoted : Bool} {c : Char} {rest : List Char} :
    Loose quoted (c :: rest) 0 ↔ c = ',' ∧ quoted = false := by
  cases quoted <;> simp [Loose]

/-- Whether a later one is loose is told from the rest, in or out of quotes. -/
theorem loose_succ {quoted : Bool} {c : Char} {rest : List Char} {i : Nat} :
    Loose quoted (c :: rest) (i + 1) ↔ Loose (if c = '"' then !quoted else quoted) rest i := by
  by_cases hc : c = '"'
  · cases quoted <;> simp [Loose, hc, Nat.add_assoc]
  · simp [Loose, hc]

/-- Parts are joined again at the commas behind an even number of quotes, and at no other place. -/
theorem breaks_splitAddressChars (quoted : Bool) (cs : List Char) :
    breaks (splitAddressChars quoted cs) =
      (List.range cs.length).filter fun i => Loose quoted cs i := by
  induction cs generalizing quoted with
  | nil => rfl
  | cons c rest ih =>
    -- the places of loose commas, told for the first character and for the rest
    have hrange : (List.range (c :: rest).length).filter (fun i => Loose quoted (c :: rest) i) =
        (if c = ',' ∧ quoted = false then [0] else []) ++
          ((List.range rest.length).filter fun i =>
            Loose (if c = '"' then !quoted else quoted) rest i).map (· + 1) := by
      rw [List.length_cons, List.range_succ_eq_map, List.filter_cons, List.filter_map]
      simp only [loose_zero, Function.comp_def, Nat.succ_eq_add_one, loose_succ, decide_eq_true_eq]
      split <;> rfl
    rw [hrange, ← ih]
    by_cases hcomma : c = ',' ∧ quoted = false
    · obtain ⟨rfl, rfl⟩ := hcomma
      obtain ⟨part, more, hparts⟩ := exists_splitAddressChars false rest
      rw [if_pos ⟨rfl, rfl⟩, if_neg (by decide), splitAddressChars_comma, hparts, breaks_cons_cons]
      rfl
    · obtain ⟨part, more, hparts⟩ :=
        exists_splitAddressChars (if c = '"' then !quoted else quoted) rest
      have hc : c = ',' → quoted = true := by
        intro hc
        simpa [hc] using hcomma
      rw [if_neg hcomma, splitAddressChars_cons hc hparts, hparts, breaks_cons_left,
        List.nil_append]

/-! ## Address lists -/

/-- A comma at a place among the characters of a text, with an even number of double quotes before
    it. -/
def LooseComma (value : String) (i : Nat) : Prop :=
  value.toList[i]? = some ',' ∧ (value.toList.take i).count '"' % 2 = 0

instance (value : String) : DecidablePred (LooseComma value) := fun _ =>
  inferInstanceAs (Decidable (_ ∧ _))

/-- An address list is sliced at byte offsets that are in order, within it and between characters.
    Its addresses joined by commas are the list, and the commas that join them are those behind an
    even number of double quotes: there is one address more than there are of these. -/
theorem split_at_loose_commas (value : String) :
    (∀ span ∈ addressSpans false 0 0 value.toList,
        span.1.IsValid value ∧ span.2.IsValid value ∧ span.1 ≤ span.2 ∧
          span.2 ≤ value.rawEndPos) ∧
      joinWith "," (splitAddresses value) = value ∧
      (∀ i, LooseComma value i ↔ ∃ k, k + 1 < (splitAddresses value).length ∧
        i = (joinWith "," ((splitAddresses value).take (k + 1))).length) ∧
      (splitAddresses value).length =
        (List.range value.length).countP (fun i => LooseComma value i) + 1 := by
  have hbreaks : breaks (splitAddressChars false value.toList) =
      (List.range value.length).filter fun i => LooseComma value i :=
    breaks_splitAddressChars false value.toList
  obtain ⟨part, more, hparts⟩ := exists_splitAddressChars false value.toList
  refine ⟨?_, ?_, ?_, ?_⟩
  · intro span hspan
    have hslice := sliceable_of_mem_spans hspan
    exact ⟨hslice.start_valid, hslice.stop_valid, hslice.start_le_stop, hslice.stop_le_end⟩
  · rw [splitAddresses_eq, joinWith_ofList, intercalate_splitAddressChars, String.ofList_toList]
  · intro i
    -- the places of the removed commas are those at which the parts break
    have hmem : LooseComma value i ↔ i ∈ breaks (splitAddressChars false value.toList) := by
      rw [hbreaks, List.mem_filter, List.mem_range, decide_eq_true_eq]
      refine ⟨fun h => ⟨?_, h⟩, And.right⟩
      exact (List.getElem?_eq_some_iff.1 h.1).1
    simp only [hmem, mem_breaks_iff, splitAddresses_eq, List.length_map, ← List.map_take,
      joinWith_ofList, String.length_ofList]
  · rw [List.countP_eq_length_filter, ← hbreaks, splitAddresses_eq, hparts, List.length_map, breaks,
      List.length_map, List.length_range, List.length_cons, Nat.add_sub_cancel]

/-- Letters of two bytes, a comma inside quotes, an empty address, and a quote that is never closed
    with a comma behind it. -/
theorem split_at_loose_commas_unclosed :
    let value := "\"Doe, Jané\" <é>,,ü\",b"
    let span : String.Pos.Raw × String.Pos.Raw := (⟨19⟩, ⟨24⟩)
    span ∈ addressSpans false 0 0 value.toList ∧
      (span.1.IsValid value ∧ span.2.IsValid value ∧ span.1 ≤ span.2 ∧
        span.2 ≤ value.rawEndPos) ∧
      splitAddresses value = ["\"Doe, Jané\" <é>", "", "ü\",b"] := by
  intro value span
  have hspan : span ∈ addressSpans false 0 0 value.toList := by decide +kernel
  exact ⟨hspan, (split_at_loose_commas value).1 span hspan, by decide +kernel⟩

end Plugboard.DistMeta
