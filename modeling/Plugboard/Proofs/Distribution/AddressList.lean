import Plugboard.Proofs.Distribution.AddressParts
import Plugboard.Proofs.Distribution.Description
import Plugboard.Proofs.Text.Trimming

/-!
# The names in address lists

An address list that was put together from mailboxes, `"name" <address>` one after another with
commas between them, falls apart into these again: a comma in a name stands inside quotes, and one
between mailboxes does not (`splitAddresses_render`). What is shown of each part is the name,
without the quotes (`displayName_mailbox`). So the author of a distribution is told by all names in
all lists, in order, wherever the lists are what it is drawn from (`author_of_mailboxes`).
-/

namespace Plugboard.DistMeta

open Text

/-- A name and an address that an address list can hold. -/
structure Mailbox where
  /-- Who it is. Commas may stand in a name. -/
  name : String
  /-- Where to write to. -/
  address : String
  name_ne_empty : name ≠ "" := by decide
  trim_name : trim name = name := by decide
  /-- Quotes stand around the name and nowhere else. -/
  quote_not_mem : '"' ∉ name.toList ∧ '"' ∉ address.toList := by decide
  /-- The first bracket ends what is shown. -/
  bracket_not_mem : '<' ∉ name.toList := by decide
  /-- A comma outside quotes would end the mailbox. -/
  comma_not_mem : ',' ∉ address.toList := by decide

namespace Mailbox

/-- A mailbox as it stands in a list. -/
def render (m : Mailbox) : String := "\"" ++ m.name ++ "\" <" ++ m.address ++ ">"

/-- An address list of mailboxes. -/
def renderAll (ms : List Mailbox) : String := joinWith ", " (ms.map render)

/-- The characters of a mailbox in a list. -/
def chars (m : Mailbox) : List Char :=
  '"' :: (m.name.toList ++ '"' :: (" <".toList ++ (m.address.toList ++ ['>'])))

/-- A mailbox is written with the characters that it has. -/
theorem toList_render (m : Mailbox) : m.render.toList = m.chars := by
  simp [render, chars]

/-- All mailboxes but the first follow a comma and a space. -/
theorem toList_renderAll_cons (m : Mailbox) (ms : List Mailbox) :
    (renderAll (m :: ms)).toList = m.chars ++ ms.flatMap fun m => ',' :: ' ' :: m.chars := by
  induction ms generalizing m with
  | nil => simp [renderAll, joinWith, toList_render]
  | cons next rest ih =>
    have hjoin : renderAll (m :: next :: rest) = m.render ++ ", " ++ renderAll (next :: rest) := rfl
    rw [hjoin, String.toList_append, String.toList_append, ih, toList_render]
    simp

end Mailbox

/-! ## Splitting -/

/-- Characters without quotes that hold no comma, or stand inside quotes themselves, belong to the
    first part. -/
theorem splitAddressChars_append {quoted : Bool} {cs rest part : List Char}
    {more : List (List Char)} (hquote : '"' ∉ cs) (hcomma : ',' ∈ cs → quoted = true)
    (h : splitAddressChars quoted rest = part :: more) :
    splitAddressChars quoted (cs ++ rest) = (cs ++ part) :: more := by
  induction cs with
  | nil => exact h
  | cons c cs ih =>
    simp only [List.mem_cons, not_or] at hquote hcomma
    have hrest := ih hquote.2 fun hmem => hcomma (.inr hmem)
    apply splitAddressChars_cons fun hc => hcomma (.inl hc.symm)
    rw [if_neg (Ne.symm hquote.1)]
    exact hrest

/-- A mailbox is not split: its commas stand inside quotes. -/
theorem splitAddressChars_mailbox (m : Mailbox) {rest part : List Char} {more : List (List Char)}
    (h : splitAddressChars false rest = part :: more) :
    splitAddressChars false (m.chars ++ rest) = (m.chars ++ part) :: more := by
  -- from the last character back to the first: outside quotes, then inside, then outside again
  have haddress : splitAddressChars false (m.address.toList ++ ('>' :: rest)) =
      (m.address.toList ++ ('>' :: part)) :: more :=
    splitAddressChars_append m.quote_not_mem.2 (fun hmem => absurd hmem m.comma_not_mem)
      (splitAddressChars_cons (by decide) h)
  have hafter : splitAddressChars false (" <".toList ++ (m.address.toList ++ ('>' :: rest))) =
      (" <".toList ++ (m.address.toList ++ ('>' :: part))) :: more :=
    splitAddressChars_append (by decide) (by decide) haddress
  have hname : splitAddressChars true
      (m.name.toList ++ '"' :: (" <".toList ++ (m.address.toList ++ ('>' :: rest)))) =
      (m.name.toList ++ '"' :: (" <".toList ++ (m.address.toList ++ ('>' :: part)))) :: more :=
    splitAddressChars_append m.quote_not_mem.1 (fun _ => rfl)
      (splitAddressChars_cons (by decide) hafter)
  have hmailbox : splitAddressChars false ('"' :: _) = _ :=
    splitAddressChars_cons (by decide) hname
  simpa [Mailbox.chars] using hmailbox

/-- The commas between mailboxes are where a list is split. -/
theorem splitAddressChars_following (ms : List Mailbox) :
    splitAddressChars false (ms.flatMap fun m => ',' :: ' ' :: m.chars) =
      [] :: ms.map fun m => ' ' :: m.chars := by
  induction ms with
  | nil => rfl
  | cons m rest ih =>
    have hmailbox := splitAddressChars_cons (c := ' ') (by decide) (splitAddressChars_mailbox m ih)
    simp only [List.append_nil] at hmailbox
    rw [List.flatMap_cons, List.cons_append, splitAddressChars_comma, List.cons_append, hmailbox]
    rfl

/-- A list of mailboxes has these as its parts, all but the first behind a space. -/
theorem splitAddresses_render (m : Mailbox) (ms : List Mailbox) :
    splitAddresses (Mailbox.renderAll (m :: ms)) =
      .ofList m.chars :: ms.map fun m => .ofList (' ' :: m.chars) := by
  have hsplit := splitAddressChars_mailbox m (splitAddressChars_following ms)
  rw [List.append_nil] at hsplit
  rw [splitAddresses_eq, Mailbox.toList_renderAll_cons, hsplit]
  simp

/-! ## What is shown -/

/-- Quotes around a text that has none are taken away. -/
theorem trimQuotes_quoted {cs : List Char} (hne : cs ≠ []) (h : '"' ∉ cs) :
    trimQuotes ('"' :: (cs ++ ['"'])) = cs := by
  -- without a quote at its start a text keeps all of its characters
  have hhead : ∀ ds : List Char, ds ≠ [] → '"' ∉ ds → ∀ rest,
      (ds ++ rest).dropWhile (· = '"') = ds ++ rest := by
    intro ds hne hmem rest
    obtain ⟨d, ds, rfl⟩ := List.exists_cons_of_ne_nil hne
    have hd : d ≠ '"' := fun hd => hmem (hd ▸ List.mem_cons_self)
    simp [hd]
  have hstart : ('"' :: (cs ++ ['"'])).dropWhile (· = '"') = cs ++ ['"'] := by
    rw [List.dropWhile_cons_of_pos (by decide), hhead cs hne h]
  have hend : ('"' :: cs.reverse).dropWhile (· = '"') = cs.reverse := by
    have hreverse := hhead cs.reverse (by simpa using hne) (by simpa using h) []
    rw [List.append_nil] at hreverse
    rw [List.dropWhile_cons_of_pos (by decide), hreverse]
  rw [trimQuotes, hstart, List.reverse_append, List.reverse_singleton, List.singleton_append, hend,
    List.reverse_reverse]

/-- Of a mailbox the name is shown, whatever white space stands before it. -/
theorem displayName_mailbox (m : Mailbox) {lead : List Char} (hlead : Blank lead) :
    displayName (.ofList (lead ++ m.chars)) = m.name := by
  have hname : Trimmed m.name.toList := trim_eq_self_iff.1 m.trim_name
  have hne : m.name.toList ≠ [] := by simpa using m.name_ne_empty
  -- the first bracket stands behind the name and its quotes
  have hbefore : (lead ++ m.chars).takeWhile (· ≠ '<') =
      lead ++ ('"' :: (m.name.toList ++ ['"'])) ++ [' '] := by
    have hinside : ∀ c ∈ lead ++ ('"' :: (m.name.toList ++ ['"'])) ++ [' '], c ≠ '<' := by
      intro c hc hbracket
      subst hbracket
      have hblank : '<' ∉ lead := fun hmem => absurd (hlead _ hmem) (by decide)
      simp [hblank, m.bracket_not_mem] at hc
    have hchars : lead ++ m.chars = (lead ++ ('"' :: (m.name.toList ++ ['"'])) ++ [' ']) ++
        '<' :: (m.address.toList ++ ['>']) := by
      simp [Mailbox.chars]
    rw [hchars, List.takeWhile_append_of_pos (by simpa using hinside)]
    simp
  -- the quotes are no white space, so trimming stops at them
  have htrim : trimChars (lead ++ ('"' :: (m.name.toList ++ ['"'])) ++ [' ']) =
      '"' :: (m.name.toList ++ ['"']) := by
    have hopen := trimChars_append_cons (c := '"') (by decide) [] (m.name.toList ++ ['"'])
    have hclose := trimEnd_append_cons (c := '"') (by decide) m.name.toList []
    rw [trimChars_surrounded hlead (by decide)]
    exact hopen.trans (congrArg ('"' :: ·) hclose)
  simp only [displayName, String.toList_ofList]
  rw [hbefore, htrim, trimQuotes_quoted hne m.quote_not_mem.1, hname, String.ofList_toList]

/-- Of a list all names are shown, and of an empty one nothing. -/
theorem shown_renderAll (ms : List Mailbox) :
    ((splitAddresses (Mailbox.renderAll ms)).map displayName).filter (· ≠ "") =
      ms.map Mailbox.name := by
  -- no name is empty, so the filter drops none
  have hkept : ∀ ms : List Mailbox,
      (ms.map Mailbox.name).filter (· ≠ "") = ms.map Mailbox.name := by
    intro ms
    rw [List.filter_eq_self]
    intro name hmem
    obtain ⟨m, -, rfl⟩ := List.mem_map.1 hmem
    simpa using m.name_ne_empty
  cases ms with
  | nil => decide
  | cons m rest =>
    have hfirst : displayName (.ofList m.chars) = m.name := by
      have hshown := displayName_mailbox m blank_nil
      rwa [List.nil_append] at hshown
    -- behind a comma stands a space, which is not shown
    have hothers : rest.map (displayName ∘ fun m => .ofList (' ' :: m.chars)) =
        rest.map Mailbox.name := by
      apply List.map_congr_left
      intro m _
      have hspace : Blank [' '] := by decide
      have hshown := displayName_mailbox m hspace
      rwa [List.singleton_append] at hshown
    rw [splitAddresses_render, List.map_cons, List.map_map, hfirst, hothers]
    exact hkept (m :: rest)

/-- Several lists show the names in all of them, if there is a name at all. -/
theorem displayNames?_renderAll {lists : List (List Mailbox)} (h : lists.flatten ≠ []) :
    displayNames? (lists.map Mailbox.renderAll) =
      some (joinWith ", " (lists.flatten.map Mailbox.name)) := by
  have hnames : (((lists.map Mailbox.renderAll).flatMap splitAddresses).map displayName).filter
      (· ≠ "") = lists.flatten.map Mailbox.name := by
    clear h
    induction lists with
    | nil => rfl
    | cons ms rest ih =>
      simp only [List.map_cons, List.flatMap_cons, List.map_append, List.filter_append,
        List.flatten_cons, ih, shown_renderAll]
  have hsome : (lists.flatten.map Mailbox.name).isEmpty = false := by simpa using h
  simp only [displayNames?, hnames, hsome]
  rfl

/-! ## The author -/

/-- White space alone says nothing. -/
theorem nonBlank?_get?_eq_none {h : Headers} {name : String}
    (hblank : ∀ value ∈ h.valuesUnder name, Blank value.toList) :
    nonBlank? (h.get? name) = none := by
  rw [h.get?_eq_head?_valuesUnder]
  cases hvalues : h.valuesUnder name with
  | nil => rfl
  | cons value rest =>
    have hempty : trim value = "" := trim_eq_empty_iff.2 (hblank value (by simp [hvalues]))
    simp [nonBlank?, hempty]

/-- Where no address has a name there are no names to show. -/
theorem displayNames?_eq_none {values : List String}
    (h : ∀ value ∈ values, ∀ address ∈ splitAddresses value, displayName address = "") :
    displayNames? values = none := by
  have hnames : ((values.flatMap splitAddresses).map displayName).filter (· ≠ "") = [] := by
    rw [List.filter_eq_nil_iff]
    intro name hmem
    obtain ⟨address, haddress, rfl⟩ := List.mem_map.1 hmem
    obtain ⟨value, hvalue, haddress⟩ := List.mem_flatMap.1 haddress
    simp [h value hvalue address haddress]
  simp only [displayNames?, hnames]
  rfl

/-- Where no maintainer is named, the names in the address lists of the maintainers are the author,
    all of them and in order. The same holds of the address lists of the authors where those of the
    maintainers show no name and no author is named. -/
theorem author_of_mailboxes (h : Headers) (lists : List (List Mailbox)) (hsome : lists.flatten ≠ [])
    (hmaintainer : ∀ value ∈ h.valuesUnder "Maintainer", Blank value.toList) :
    (h.valuesUnder "Maintainer-Email" = lists.map Mailbox.renderAll →
        authorOf h = joinWith ", " (lists.flatten.map Mailbox.name)) ∧
      (h.valuesUnder "Author-Email" = lists.map Mailbox.renderAll →
        (∀ value ∈ h.valuesUnder "Maintainer-Email", ∀ address ∈ splitAddresses value,
          displayName address = "") →
        (∀ value ∈ h.valuesUnder "Author", Blank value.toList) →
        authorOf h = joinWith ", " (lists.flatten.map Mailbox.name)) := by
  have hnames := displayNames?_renderAll hsome
  constructor
  · intro hmails
    rw [authorOf, nonBlank?_get?_eq_none hmaintainer, h.getAll_eq_valuesUnder, hmails, hnames]
    rfl
  · intro hmails hnameless hauthor
    -- the headers that would count before this one show no names
    rw [authorOf, nonBlank?_get?_eq_none hmaintainer, nonBlank?_get?_eq_none hauthor,
      h.getAll_eq_valuesUnder "Maintainer-Email", displayNames?_eq_none hnameless,
      h.getAll_eq_valuesUnder "Author-Email", hmails, hnames]
    rfl

/-- A comma in a name, an address in further brackets and an empty one, a list without mailboxes
    between two others, a blank maintainer; and the same lists for the authors, where the addresses
    of the maintainers stand alone or behind empty quotes. -/
theorem author_of_mailboxes_comma :
    let lists : List (List Mailbox) :=
      [[{ name := "Doe, Jane", address := "jane@x" }, { name := "Bo > b", address := "<>" }], [],
        [{ name := "Al", address := "" }]]
    let mails := ["\"Doe, Jane\" <jane@x>, \"Bo > b\" <<>>", "", "\"Al\" <>"]
    let h : Headers := ⟨("maintainer", " ") :: mails.map ("Maintainer-Email", ·)⟩
    let h' : Headers := ⟨("Maintainer-email", "<a@x>, \"\" <b@x>, ") :: ("Author", "") ::
      mails.map ("Author-Email", ·)⟩
    (lists.flatten ≠ [] ∧ (∀ value ∈ h.valuesUnder "Maintainer", Blank value.toList) ∧
        h.valuesUnder "Maintainer-Email" = lists.map Mailbox.renderAll ∧
        authorOf h = "Doe, Jane, Bo > b, Al") ∧
      (∀ value ∈ h'.valuesUnder "Maintainer", Blank value.toList) ∧
        h'.valuesUnder "Author-Email" = lists.map Mailbox.renderAll ∧
        (∀ value ∈ h'.valuesUnder "Maintainer-Email", ∀ address ∈ splitAddresses value,
          displayName address = "") ∧
        (∀ value ∈ h'.valuesUnder "Author", Blank value.toList) ∧
        authorOf h' = "Doe, Jane, Bo > b, Al" := by
  intro lists mails h h'
  have hsome : lists.flatten ≠ [] := by simp [lists]
  have hmaintainer : ∀ value ∈ h.valuesUnder "Maintainer", Blank value.toList := by decide +kernel
  have hmaintainer' : ∀ value ∈ h'.valuesUnder "Maintainer", Blank value.toList := by
    decide +kernel
  have hmails : h.valuesUnder "Maintainer-Email" = lists.map Mailbox.renderAll := by decide +kernel
  have hmails' : h'.valuesUnder "Author-Email" = lists.map Mailbox.renderAll := by decide +kernel
  have hnameless : ∀ value ∈ h'.valuesUnder "Maintainer-Email", ∀ address ∈ splitAddresses value,
      displayName address = "" := by decide +kernel
  have hauthor : ∀ value ∈ h'.valuesUnder "Author", Blank value.toList := by decide +kernel
  -- the first list has the maintainers, the second falls back on the authors
  exact ⟨⟨hsome, hmaintainer, hmails,
      (author_of_mailboxes h lists hsome hmaintainer).1 hmails⟩,
    hmaintainer', hmails', hnameless, hauthor,
    (author_of_mailboxes h' lists hsome hmaintainer').2 hmails' hnameless hauthor⟩

end Plugboard.DistMeta
