import Plugboard.Proofs.Distribution.Description
import Plugboard.Proofs.Text.Lines

/-!
# The home page of a distribution

A project address is an entry `label, address`. It gives the home page if its label is one of four,
however that is spelled (`HomeLabel`, `Gives`). Of several such entries the bytewise least counts,
as it stands and not as its label is read (`Chosen`): the description shows what stands after its
first comma, without white space at the ends (`home_page_least`).
-/

namespace Plugboard.DistMeta

open Text

/-- A label for a home page: in lower case and without punctuation and white space it is one of
    four. -/
def HomeLabel (label : String) : Prop :=
  lowercase (.ofList (label.toList.filter fun c => !isAsciiPunctuation c && !isBlank c)) ∈
    ["homepage", "source", "sourcecode", "repository"]

/-- An entry gives an address as that of the home page: behind its first comma, and before that
    stands a label for a home page. -/
def Gives (entry url : String) : Prop :=
  ∃ label, ',' ∉ label.toList ∧ HomeLabel label ∧ entry.toList = label.toList ++ ',' :: url.toList

/-- The bytewise least of the entries that give an address of the home page, and the address. -/
structure Chosen (entries : List String) (entry url : String) : Prop where
  mem : entry ∈ entries
  gives : Gives entry url
  least : ∀ other ∈ entries, ∀ otherUrl, Gives other otherUrl → other = entry ∨ Precedes entry other

/-- A label is one of the four if its normal form is. -/
theorem homeLabel_iff {label : String} :
    HomeLabel label ↔ urlLabels.contains (normalizeLabel label) = true := by
  rw [HomeLabel, normalizeLabel, lowercase, List.contains_iff_mem, String.toList_ofList]
  rfl

/-- Whether an entry gives an address of the home page. -/
def isHome (entry : String) : Bool :=
  (cut? ',' entry).any fun (label, _) => urlLabels.contains (normalizeLabel label)

/-- An entry gives the home page if what stands before its first comma is such a label. -/
theorem gives_iff {entry url : String} :
    Gives entry url ↔ ∃ label, cut? ',' entry = some (label, url) ∧ HomeLabel label := by
  constructor
  · rintro ⟨label, hcomma, hlabel, hentry⟩
    exact ⟨label, cut?_eq_some_iff.2 ⟨hcomma, hentry⟩, hlabel⟩
  · rintro ⟨label, hcut, hlabel⟩
    obtain ⟨hcomma, hentry⟩ := cut?_eq_some_iff.1 hcut
    exact ⟨label, hcomma, hlabel, hentry⟩

/-- The entries looked for are those that give the home page. -/
theorem isHome_iff {entry : String} : isHome entry = true ↔ ∃ url, Gives entry url := by
  simp only [isHome, Option.any_eq_true, gives_iff, homeLabel_iff]
  constructor
  · rintro ⟨⟨label, url⟩, hcut, hlabel⟩
    exact ⟨url, label, hcut, hlabel⟩
  · rintro ⟨url, label, hcut, hlabel⟩
    exact ⟨(label, url), hcut, hlabel⟩

/-- The first entry for a home page in sorted order is the one that counts. -/
theorem find?_isHome_iff {entries : List String} {entry : String} :
    (sort entries).find? isHome = some entry ↔ ∃ url, Chosen entries entry url := by
  simp only [find?_sort_eq_some_iff, isHome_iff]
  constructor
  · rintro ⟨hmem, ⟨url, hgives⟩, hleast⟩
    exact ⟨url, hmem, hgives, fun other hother otherUrl h => hleast other hother ⟨otherUrl, h⟩⟩
  · rintro ⟨url, hmem, hgives, hleast⟩
    exact ⟨hmem, ⟨url, hgives⟩, fun other hother ⟨otherUrl, h⟩ => hleast other hother otherUrl h⟩

/-- The entry chosen is the least of them. -/
theorem chosen_iff {entries : List String} {entry url : String} :
    Chosen entries entry url ↔
      entry ∈ entries ∧ isHome entry = true ∧ (cut? ',' entry).map (·.2) = some url ∧
        ∀ other ∈ entries, isHome other = true → entry ≤ other := by
  simp only [le_iff_eq_or_precedes, isHome_iff]
  constructor
  · intro h
    obtain ⟨label, hcut, -⟩ := gives_iff.1 h.gives
    exact ⟨h.mem, ⟨url, h.gives⟩, by simp [hcut], fun other hother ⟨otherUrl, hgives⟩ =>
      h.least other hother otherUrl hgives⟩
  · rintro ⟨hmem, ⟨found, hgives⟩, hurl, hleast⟩
    -- an entry is cut in one way, so there is one address that it gives
    obtain ⟨label, hcut, -⟩ := gives_iff.1 hgives
    rw [hcut] at hurl
    exact ⟨hmem, Option.some.inj hurl ▸ hgives, fun other hother otherUrl h =>
      hleast other hother ⟨otherUrl, h⟩⟩

instance (entries : List String) (entry url : String) : Decidable (Chosen entries entry url) :=
  decidable_of_iff _ chosen_iff.symm

/-- Where some entry gives the home page, one is chosen. -/
theorem exists_chosen {entries : List String} (h : ∃ entry ∈ entries, ∃ url, Gives entry url) :
    ∃ entry url, Chosen entries entry url := by
  obtain ⟨entry, hmem, hgives⟩ := h
  have hsome : ((sort entries).find? isHome).isSome = true :=
    List.find?_isSome.2 ⟨entry, (sort_perm entries).mem_iff.2 hmem, isHome_iff.2 hgives⟩
  obtain ⟨first, hfirst⟩ := Option.isSome_iff_exists.1 hsome
  exact ⟨first, find?_isHome_iff.1 hfirst⟩

/-! ## What is shown -/

/-- The search among the entries that have a comma is one among all entries. -/
theorem urlOf_eq (h : Headers) :
    urlOf h = ((((sort (h.valuesUnder "Project-Url")).find? isHome).bind (cut? ',')).map
      fun cut => trim cut.2).getD "" := by
  rw [← h.getAll_eq_valuesUnder]
  simp only [urlOf]
  -- an entry without a comma is no home page, so the first search misses none
  split
  · rename_i label url hfind
    rw [List.find?_filterMap] at hfind
    have hcut : ((sort (h.getAll "Project-Url")).find? isHome).bind (cut? ',') =
        some (label, url) := hfind
    simp [hcut]
  · rename_i hfind
    rw [List.find?_filterMap] at hfind
    have hcut : ((sort (h.getAll "Project-Url")).find? isHome).bind (cut? ',') = none := hfind
    simp [hcut]

/-- The home page is the address of the entry chosen, without white space at its ends. -/
theorem urlOf_of_chosen {h : Headers} {entry url : String}
    (hchosen : Chosen (h.valuesUnder "Project-Url") entry url) : urlOf h = trim url := by
  obtain ⟨label, hcut, -⟩ := gives_iff.1 hchosen.gives
  rw [urlOf_eq, find?_isHome_iff.2 ⟨url, hchosen⟩]
  simp [hcut]

/-- Without such an entry there is none. -/
theorem urlOf_of_none {h : Headers}
    (hnone : ¬∃ entry ∈ h.valuesUnder "Project-Url", ∃ url, Gives entry url) : urlOf h = "" := by
  have hfind : (sort (h.valuesUnder "Project-Url")).find? isHome = none := by
    apply List.find?_eq_none.2
    intro entry hmem hhome
    exact hnone ⟨entry, (sort_perm _).mem_iff.1 hmem, isHome_iff.1 hhome⟩
  rw [urlOf_eq, hfind]
  rfl

/-- The home page is what stands after the first comma of the bytewise least entry that gives one,
    without white space at the ends. It is empty if there is no such entry, or if nothing but white
    space stands there, and in no other case. -/
theorem home_page_least (h : Headers) :
    (∀ entry url, Chosen (h.valuesUnder "Project-Url") entry url → urlOf h = trim url) ∧
      ((∃ entry ∈ h.valuesUnder "Project-Url", ∃ url, Gives entry url) →
        ∃ entry url, Chosen (h.valuesUnder "Project-Url") entry url) ∧
      (urlOf h = "" ↔
        (¬∃ entry ∈ h.valuesUnder "Project-Url", ∃ url, Gives entry url) ∨
          ∃ entry url, Chosen (h.valuesUnder "Project-Url") entry url ∧ Blank url.toList) := by
  refine ⟨fun _ _ => urlOf_of_chosen, exists_chosen, ?_⟩
  constructor
  · intro hempty
    -- nothing is shown if nothing is chosen, or if what is chosen has a blank address
    by_cases hsome : ∃ entry ∈ h.valuesUnder "Project-Url", ∃ url, Gives entry url
    · obtain ⟨entry, url, hchosen⟩ := exists_chosen hsome
      rw [urlOf_of_chosen hchosen] at hempty
      exact .inr ⟨entry, url, hchosen, trim_eq_empty_iff.1 hempty⟩
    · exact .inl hsome
  · intro h
    cases h with
    | inl hnone => exact urlOf_of_none hnone
    | inr hblank =>
      obtain ⟨entry, url, hchosen, hblank⟩ := hblank
      rw [urlOf_of_chosen hchosen]
      exact trim_eq_empty_iff.2 hblank

/-- Labels with marks, white space and capital letters, an entry without a comma, one with two and
    a label with a letter beyond ASCII. The least entry for a home page has not the least label. -/
theorem home_page_least_spelled :
    let h : Headers := ⟨[("Project-Url", "Repository, https://z"), ("Project-Url", "homepage"),
      ("project-url", "SOURCE  Code!, https://b, c "), ("Summary", "Homepage, https://s"),
      ("Project-URL", "Docs, https://d"), ("Project-Url", "Hömepage, https://o"),
      ("Project-Url", "home-page, https://h")]⟩
    Chosen (h.valuesUnder "Project-Url") "Repository, https://z" " https://z" ∧
      urlOf h = trim " https://z" ∧ urlOf h = "https://z" := by
  intro h
  have hchosen : Chosen (h.valuesUnder "Project-Url") "Repository, https://z" " https://z" := by
    decide +kernel
  have hurl : urlOf h = trim " https://z" := (home_page_least h).1 _ _ hchosen
  exact ⟨hchosen, hurl, hurl.trans (by decide)⟩

end Plugboard.DistMeta
