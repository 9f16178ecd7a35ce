import Mathlib.Data.List.Lex
import Mathlib.Data.List.Nodup
import Mathlib.Tactic.SplitIfs
import Plugboard.Text.Order

/-!
# Texts in order

Texts are compared by their characters, and that is to compare their octets: UTF-8 gives the greater
character the greater octets (`lex_utf8EncodeChar`), so one text comes before another if and only if
its octets do (`precedes_iff_lt`).

What is sorted does not depend on the order in which it was given (`sort_eq_sort_of_perm`), and the
first of some kind in it is the least of that kind (`find?_sort_eq_some_iff`). Distinct texts are
ascending once they are sorted (`ascending_sortOn`), and an ascending list is told by what is in it
(`eq_of_ascending`).
-/

namespace Plugboard.Text

/-! ## Octets -/

/-- The octets of a text in UTF-8. -/
def octets (s : String) : List UInt8 := s.toUTF8.data.toList

/-- Whether a text comes before another bytewise: where their octets first differ it has the
    smaller one, or it ends and the other goes on. -/
def Precedes (s t : String) : Prop := List.Lex (· < ·) (octets s) (octets t)

/-- The octets of a text are those of its characters, in order. -/
theorem octets_eq (s : String) : octets s = s.toList.flatMap String.utf8EncodeChar := by
  have hs : s.toByteArray = s.toList.utf8Encode := by
    rw [← String.toByteArray_ofList, String.ofList_toList]
  show s.toByteArray.data.toList = _
  rw [hs, List.utf8Encode, List.toList_data_toByteArray]

/-- Numbers below 256 are compared as octets as they are. -/
theorem ofNat_lt_ofNat_iff {m n : Nat} (hm : m < 256) (hn : n < 256) :
    UInt8.ofNat m < UInt8.ofNat n ↔ m < n := by
  rw [UInt8.lt_iff_toNat_lt, UInt8.toNat_ofNat', UInt8.toNat_ofNat', Nat.mod_eq_of_lt hm,
    Nat.mod_eq_of_lt hn]

/-- As octets they are equal only if they are. -/
theorem ofNat_eq_ofNat_iff {m n : Nat} (hm : m < 256) (hn : n < 256) :
    UInt8.ofNat m = UInt8.ofNat n ↔ m = n := by
  rw [← UInt8.toNat_inj, UInt8.toNat_ofNat', UInt8.toNat_ofNat', Nat.mod_eq_of_lt hm,
    Nat.mod_eq_of_lt hn]

/-- The octets of the smaller character come first, whatever follows. -/
theorem lex_utf8EncodeChar {c d : Char} (h : c < d) (xs ys : List UInt8) :
    List.Lex (· < ·) (String.utf8EncodeChar c ++ xs) (String.utf8EncodeChar d ++ ys) := by
  have hlt : c.val.toNat < d.val.toNat := UInt32.lt_iff_toNat_lt.1 h
  have hd : d.val.toNat < 0x110000 := by
    rcases d.valid with hd | ⟨-, hd⟩
    · exact Nat.lt_trans hd (by decide)
    · exact hd
  unfold String.utf8EncodeChar
  generalize c.val.toNat = v at hlt
  generalize d.val.toNat = w at hlt hd
  -- three bits of the first of four octets are enough for any code point
  have hv : v / 262144 % 8 = v / 262144 := Nat.mod_eq_of_lt (by omega)
  have hw : w / 262144 % 8 = w / 262144 := Nat.mod_eq_of_lt (by omega)
  dsimp only
  -- a case for every pair of lengths: the first octet tells the length, so that a longer form comes
  -- later, and forms of one length are numbers written in digits to the base 64
  split_ifs <;>
    simp (disch := omega) only [List.cons_append, List.nil_append, List.cons_lex_cons_iff,
      ofNat_lt_ofNat_iff, ofNat_eq_ofNat_iff, hv, hw] <;>
    omega

/-- If characters come first in order, so do their octets. -/
theorem lex_flatMap_utf8EncodeChar {cs ds : List Char} (h : List.Lex (· < ·) cs ds) :
    List.Lex (· < ·) (cs.flatMap String.utf8EncodeChar) (ds.flatMap String.utf8EncodeChar) := by
  induction h with
  | @nil d ds =>
    obtain ⟨octet, more, hd⟩ := List.exists_cons_of_ne_nil (String.utf8EncodeChar_ne_nil (c := d))
    rw [List.flatMap_nil, List.flatMap_cons, hd]
    exact .nil
  | @cons c cs ds _ ih =>
    -- the first characters are the same, and so are their octets
    rw [List.flatMap_cons, List.flatMap_cons]
    exact ih.append_left _ _
  | rel hlt => exact lex_utf8EncodeChar hlt _ _

/-- To compare texts by their octets and by their characters is the same. -/
theorem precedes_iff_lt {s t : String} : Precedes s t ↔ s < t := by
  have hmono : ∀ {a b : String}, a < b → Precedes a b := by
    intro a b hab
    unfold Precedes
    rw [octets_eq, octets_eq]
    exact lex_flatMap_utf8EncodeChar (String.lt_iff.1 hab)
  refine ⟨fun h => ?_, hmono⟩
  -- if the characters said otherwise, the octets would, too
  rw [← String.not_le]
  intro hle
  by_cases heq : s = t
  · subst heq
    exact List.lex_irrefl UInt8.lt_irrefl _ h
  · have hts : t < s := String.not_le.1 fun hst => heq (String.le_antisymm hst hle)
    exact List.lex_asymm (fun hab => UInt8.lt_asymm hab) (hmono hts) h

/-- No text precedes itself. -/
theorem Precedes.ne {s t : String} (h : Precedes s t) : s ≠ t := by
  rintro rfl
  exact String.lt_irrefl s (precedes_iff_lt.1 h)

/-- Of two texts one at most precedes the other. -/
theorem Precedes.asymm {s t : String} (h : Precedes s t) : ¬Precedes t s := fun hts =>
  String.lt_asymm (precedes_iff_lt.1 h) (precedes_iff_lt.1 hts)

/-! ## Sorting -/

/-- Sorting compares texts by their characters. -/
theorem le_iff {s t : String} : le s t = true ↔ s ≤ t := by
  rw [le, Bool.not_eq_true', decide_eq_false_iff_not, String.not_lt]

/-- Texts listed bytewise, each once. -/
def Ascending (texts : List String) : Prop := texts.Pairwise Precedes

section Labels

variable {α : Type} {label : α → String}

/-- What is sorted is what was given, in another order. -/
theorem sortOn_perm (label : α → String) (xs : List α) : (sortOn label xs).Perm xs :=
  List.mergeSort_perm xs _

/-- What is sorted by its labels is in their order. -/
theorem pairwise_sortOn (label : α → String) (xs : List α) :
    (sortOn label xs).Pairwise fun a b => label a ≤ label b := by
  have htrans : ∀ a b c : α, le (label a) (label b) = true → le (label b) (label c) = true →
      le (label a) (label c) = true := by
    simp only [le_iff]
    exact fun _ _ _ => String.le_trans
  have htotal : ∀ a b : α, (le (label a) (label b) || le (label b) (label a)) = true := by
    simp only [Bool.or_eq_true, le_iff]
    exact fun a b => String.le_total (label a) (label b)
  exact (List.pairwise_mergeSort htrans htotal xs).imp le_iff.1

/-- Distinct labels are ascending once they are sorted. -/
theorem ascending_sortOn {xs : List α} (h : (xs.map label).Nodup) :
    Ascending ((sortOn label xs).map label) := by
  have hnodup : ((sortOn label xs).map label).Nodup :=
    ((sortOn_perm label xs).map label).nodup_iff.2 h
  refine List.pairwise_map.2 (((pairwise_sortOn label xs).and (List.pairwise_map.1 hnodup)).imp ?_)
  rintro a b ⟨hle, hne⟩
  rw [precedes_iff_lt, ← String.not_le]
  intro hge
  exact hne (String.le_antisymm hle hge)

/-- There is one way to list given things with ascending labels. -/
theorem eq_of_ascending {xs ys : List α} (hx : Ascending (xs.map label))
    (hy : Ascending (ys.map label)) (h : ∀ a, a ∈ xs ↔ a ∈ ys) : xs = ys := by
  have hx := List.pairwise_map.1 hx
  have hy := List.pairwise_map.1 hy
  have hne : ∀ {a b : α}, Precedes (label a) (label b) → a ≠ b := by
    rintro a _ hlt rfl
    exact hlt.ne rfl
  have hperm : xs.Perm ys := (List.perm_ext_iff_of_nodup (hx.imp hne) (hy.imp hne)).2 h
  exact hperm.eq_of_pairwise (fun _ _ _ _ hab hba => absurd hba hab.asymm) hx hy

end Labels

/-- Distinct texts are ascending once they are sorted. -/
theorem ascending_sort {texts : List String} (h : texts.Nodup) : Ascending (sort texts) := by
  have hsorted : Ascending ((sortOn id texts).map id) := ascending_sortOn (by rwa [List.map_id])
  rwa [List.map_id] at hsorted

/-- A search in an ascending list finds the first, bytewise, of what is looked for. -/
theorem find?_eq_some_iff_of_ascending {texts : List String} (h : Ascending texts)
    {p : String → Bool} {s : String} :
    texts.find? p = some s ↔
      s ∈ texts ∧ p s = true ∧ ∀ t ∈ texts, p t = true → t ≠ s → Precedes s t := by
  constructor
  · intro hfind
    obtain ⟨hp, before, after, rfl, hbefore⟩ := List.find?_eq_some_iff_append.1 hfind
    refine ⟨by simp, hp, fun t ht htp hne => ?_⟩
    rcases List.mem_append.1 ht with ht | ht
    · exact absurd htp (by simpa using hbefore t ht)
    · -- what stands behind comes behind, as the list is ascending
      have hafter := (List.pairwise_cons.1 (List.pairwise_append.1 h).2.1).1
      exact hafter t ((List.mem_cons.1 ht).resolve_left hne)
  · rintro ⟨hmem, hp, hleast⟩
    obtain ⟨before, after, rfl⟩ := List.append_of_mem hmem
    refine List.find?_eq_some_iff_append.2 ⟨hp, before, after, rfl, fun t ht => ?_⟩
    have hts : Precedes t s := (List.pairwise_append.1 h).2.2 t ht s List.mem_cons_self
    -- what comes before cannot be looked for: it would come after
    by_contra htp
    have hst : Precedes s t :=
      hleast t (List.mem_append_left _ ht) (by simpa using htp) hts.ne
    exact hts.asymm hst

/-- A text is not greater than those that it precedes and itself. -/
theorem le_iff_eq_or_precedes {s t : String} : s ≤ t ↔ t = s ∨ Precedes s t := by
  rw [precedes_iff_lt]
  constructor
  · intro hle
    -- the order is total
    by_cases hlt : s < t
    · exact .inr hlt
    · exact .inl (String.le_antisymm (String.not_lt.1 hlt) hle)
  · intro h
    apply String.not_lt.1
    intro hts
    cases h with
    | inl heq => exact String.lt_irrefl s (heq ▸ hts)
    | inr hst => exact String.lt_asymm hst hts

/-- A search in what was sorted finds the least, bytewise, of what is looked for. -/
theorem least_of_find?_sort {texts : List String} {p : String → Bool} {s : String}
    (h : (sort texts).find? p = some s) :
    s ∈ texts ∧ p s = true ∧ ∀ t ∈ texts, p t = true → t = s ∨ Precedes s t := by
  obtain ⟨hp, before, after, hsort, hbefore⟩ := List.find?_eq_some_iff_append.1 h
  have hmem : ∀ t, t ∈ texts ↔ t ∈ before ++ s :: after := by
    intro t
    rw [← hsort, (sort_perm texts).mem_iff]
  have hsorted : (before ++ s :: after).Pairwise (· ≤ ·) := hsort ▸ pairwise_sortOn id texts
  refine ⟨(hmem s).2 (by simp), hp, fun t ht htp => ?_⟩
  apply le_iff_eq_or_precedes.1
  rcases List.mem_append.1 ((hmem t).1 ht) with ht | ht
  · -- what stands before the one that was found is not looked for
    exact absurd htp (by simpa using hbefore t ht)
  · cases ht with
    | head => exact String.le_refl s
    | tail _ ht => exact (List.pairwise_cons.1 (List.pairwise_append.1 hsorted).2.1).1 t ht

/-- The first of some kind, once sorted, is the least of that kind. -/
theorem find?_sort_eq_some_iff {texts : List String} {p : String → Bool} {s : String} :
    (sort texts).find? p = some s ↔
      s ∈ texts ∧ p s = true ∧ ∀ t ∈ texts, p t = true → t = s ∨ Precedes s t := by
  refine ⟨least_of_find?_sort, ?_⟩
  rintro ⟨hmem, hp, hleast⟩
  have hsome : ((sort texts).find? p).isSome = true :=
    List.find?_isSome.2 ⟨s, (sort_perm texts).mem_iff.2 hmem, hp⟩
  obtain ⟨t, ht⟩ := Option.isSome_iff_exists.1 hsome
  obtain ⟨htmem, htp, htleast⟩ := least_of_find?_sort ht
  -- both are the least, so neither precedes the other
  rcases hleast t htmem htp with rfl | hst
  · exact ht
  · rcases htleast s hmem hp with rfl | hts
    · exact ht
    · exact absurd hts hst.asymm

/-- Sorting forgets the order that there was. -/
theorem sort_eq_sort_of_perm {xs ys : List String} (h : xs.Perm ys) : sort xs = sort ys := by
  have hperm : (sort xs).Perm (sort ys) := (sort_perm xs).trans (h.trans (sort_perm ys).symm)
  exact hperm.eq_of_pairwise (fun _ _ _ _ => String.le_antisymm) (pairwise_sortOn id xs)
    (pairwise_sortOn id ys)

end Plugboard.Text
