import Plugboard.Distribution.Meta
import Plugboard.Proofs.Text.Lowercase

/-!
# The normal form of labels

A label is compared without its punctuation and white space and in lower case. That is a normal form
(`normal_normalizeLabel`, `normalizeLabel_eq_self_iff`): to drop characters first and to put the
rest in lower case afterwards leaves nothing to drop and nothing to put in lower case. Each
character counts by itself, so labels are put together from parts, and a part that is dropped may
stand anywhere (`label_normal_form`).
-/

namespace Plugboard.DistMeta

open Text

/-- A label without punctuation and white space, all of it in lower case. -/
structure Normal (label : String) : Prop where
  plain : ∀ c ∈ label.toList, isAsciiPunctuation c = false ∧ isBlank c = false
  lower : ∀ c ∈ label.toList, lowerChar c = [c]

/-- A character that counts in a label. -/
def counts (c : Char) : Bool := !isAsciiPunctuation c && !isBlank c

/-- A character counts unless it is punctuation or white space. -/
theorem counts_iff {c : Char} :
    counts c = true ↔ isAsciiPunctuation c = false ∧ isBlank c = false := by
  simp [counts]

/-- The normal form has the characters that count, in lower case. -/
theorem toList_normalizeLabel (label : String) :
    (normalizeLabel label).toList = (label.toList.filter counts).flatMap lowerChar := by
  rw [normalizeLabel, String.toList_ofList]
  rfl

/-- The normal form of a label is normal. -/
theorem normal_normalizeLabel (label : String) : Normal (normalizeLabel label) := by
  -- each character of the normal form is the lower case of one that counts
  have horigin : ∀ d ∈ (normalizeLabel label).toList, ∃ c, counts c = true ∧ d ∈ lowerChar c := by
    intro d hd
    rw [toList_normalizeLabel, List.mem_flatMap] at hd
    obtain ⟨c, hc, hd⟩ := hd
    exact ⟨c, (List.mem_filter.1 hc).2, hd⟩
  constructor
  · intro d hd
    obtain ⟨c, hc, hd⟩ := horigin d hd
    exact plain_of_mem_lowerChar hd (counts_iff.1 hc)
  · intro d hd
    obtain ⟨c, -, hd⟩ := horigin d hd
    exact lowerChar_of_mem_lowerChar hd

/-- A label is in normal form exactly when that does not change it. -/
theorem normalizeLabel_eq_self_iff {label : String} :
    normalizeLabel label = label ↔ Normal label := by
  constructor
  · intro h
    rw [← h]
    exact normal_normalizeLabel label
  · intro h
    -- nothing is dropped and nothing changes its case
    have hfilter : label.toList.filter counts = label.toList :=
      List.filter_eq_self.2 fun c hc => counts_iff.2 (h.plain c hc)
    have hlower : label.toList.flatMap lowerChar = label.toList := by
      rw [List.flatMap_def, List.map_congr_left h.lower, ← List.flatMap_def,
        List.flatMap_singleton']
    apply String.toList_injective
    rw [toList_normalizeLabel, hfilter, hlower]

/-- The normal form of two labels put together is that of each, put together. -/
theorem normalizeLabel_append (s t : String) :
    normalizeLabel (s ++ t) = normalizeLabel s ++ normalizeLabel t := by
  apply String.toList_injective
  rw [String.toList_append, toList_normalizeLabel, toList_normalizeLabel, toList_normalizeLabel,
    String.toList_append, List.filter_append, List.flatMap_append]

/-- Of punctuation and white space alone nothing is left. -/
theorem normalizeLabel_of_marks {marks : String}
    (h : ∀ c ∈ marks.toList, isAsciiPunctuation c = true ∨ isBlank c = true) :
    normalizeLabel marks = "" := by
  have hfilter : marks.toList.filter counts = [] := by
    rw [List.filter_eq_nil_iff]
    intro c hc hcounts
    obtain ⟨hpunctuation, hblank⟩ := counts_iff.1 hcounts
    simpa [hpunctuation, hblank] using h c hc
  apply String.toList_injective
  rw [toList_normalizeLabel, hfilter]
  rfl

/-- To normalize a label again changes nothing; what is left has no punctuation, no white space and
    no character that lower case changes. Labels may be normalized part by part, and punctuation and
    white space may stand anywhere in them. -/
theorem label_normal_form :
    (∀ label, normalizeLabel (normalizeLabel label) = normalizeLabel label) ∧
      (∀ label, ∀ c ∈ (normalizeLabel label).toList,
        isAsciiPunctuation c = false ∧ isBlank c = false ∧ lowerChar c = [c]) ∧
      (∀ s t, normalizeLabel (s ++ t) = normalizeLabel s ++ normalizeLabel t) ∧
      ∀ s marks t : String,
        (∀ c ∈ marks.toList, isAsciiPunctuation c = true ∨ isBlank c = true) →
          normalizeLabel (s ++ marks ++ t) = normalizeLabel (s ++ t) := by
  refine ⟨?_, ?_, normalizeLabel_append, ?_⟩
  · intro label
    exact normalizeLabel_eq_self_iff.2 (normal_normalizeLabel label)
  · intro label c hc
    have hnormal := normal_normalizeLabel label
    obtain ⟨hpunctuation, hblank⟩ := hnormal.plain c hc
    exact ⟨hpunctuation, hblank, hnormal.lower c hc⟩
  · intro s marks t hmarks
    have hempty : normalizeLabel marks = "" := normalizeLabel_of_marks hmarks
    rw [normalizeLabel_append, normalizeLabel_append, normalizeLabel_append, hempty,
      String.append_empty]

/-- Marks and a wide space in the middle, and behind them capital letters that in lower case are two
    characters, a letter of ASCII and letters of other blocks. -/
theorem label_normal_form_spelled :
    let marks := "-_ \u3000!"
    let letters := "\u0130\u212A\u01C5\u1E9E"
    (∀ c ∈ marks.toList, isAsciiPunctuation c = true ∨ isBlank c = true) ∧
      normalizeLabel ("HOME" ++ marks ++ letters) = normalizeLabel ("HOME" ++ letters) ∧
      normalizeLabel ("HOME" ++ letters) = "homei\u0307k\u01C6\u00DF" := by
  intro marks letters
  have hall : (marks.toList.all fun c => isAsciiPunctuation c || isBlank c) = true := by
    decide +kernel
  have hmarks : ∀ c ∈ marks.toList, isAsciiPunctuation c = true ∨ isBlank c = true := by
    intro c hc
    exact Bool.or_eq_true_iff.1 (List.all_eq_true.1 hall c hc)
  exact ⟨hmarks, label_normal_form.2.2.2 "HOME" marks letters hmarks, by decide +kernel⟩

end Plugboard.DistMeta
