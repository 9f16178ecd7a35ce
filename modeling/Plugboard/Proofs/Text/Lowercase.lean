import Plugboard.Text.Blank
import Plugboard.Text.Lowercase

/-!
# Lower case is final

What one run of the lower-case mapping leads to is in no run (`not_covers_of_covers`). So the lower
case of a character is its own lower case (`lowerChar_of_mem_lowerChar`), and no character becomes
white space or punctuation in lower case (`plain_of_mem_lowerChar`).
-/

namespace Plugboard.Text

/-- Whether a run maps a code point. -/
def Covers (run : Nat × Nat × Nat × Nat) (n : Nat) : Prop :=
  run.1 ≤ n ∧ n ≤ run.2.1 ∧ (n - run.1) % run.2.2.1 = 0

/-- Whether a run maps no code point from `start` to below `stop`; with `even`, none that is an even
    number behind `start`. -/
def spares (start stop : Nat) (even : Bool) (run : Nat × Nat × Nat × Nat) : Bool :=
  bif Nat.ble stop run.1 then true
  else bif Nat.blt run.2.1 start then true
  else even && Nat.beq run.2.2.1 2 && Nat.beq ((start + run.1) % 2) 1

/-- A run that spares an interval covers nothing in it. -/
theorem not_covers_of_spares {start stop n : Nat} {even : Bool} {run : Nat × Nat × Nat × Nat}
    (hspares : spares start stop even run = true) (hstart : start ≤ n) (hstop : n < stop)
    (heven : even = true → (n - start) % 2 = 0) : ¬Covers run n := by
  simp only [spares, cond_eq_ite, Nat.ble_eq, Nat.blt_eq] at hspares
  rintro ⟨hfirst, hlast, hstride⟩
  split at hspares
  · omega
  split at hspares
  · omega
  · simp only [Bool.and_eq_true, Nat.beq_eq] at hspares
    obtain ⟨⟨htrue, htwo⟩, hparity⟩ := hspares
    have hn := heven htrue
    rw [htwo] at hstride
    omega

/-- No run maps what another one leads to. -/
theorem spares_caseRuns :
    (caseRuns.all fun (first, last, stride, lower) => caseRuns.all
      (spares lower (lower + (last - first) + 1) (Nat.beq stride 2 || Nat.beq first last))) =
      true := by
  decide +kernel

/-- What a run leads to is covered by no run. -/
theorem not_covers_of_covers {run other : Nat × Nat × Nat × Nat} {n : Nat} (hrun : run ∈ caseRuns)
    (hother : other ∈ caseRuns) (hcovers : Covers run n) :
    ¬Covers other (run.2.2.2 + (n - run.1)) := by
  have hspares : spares run.2.2.2 (run.2.2.2 + (run.2.1 - run.1) + 1)
      (Nat.beq run.2.2.1 2 || Nat.beq run.1 run.2.1) other = true :=
    List.all_eq_true.1 (List.all_eq_true.1 spares_caseRuns run hrun) other hother
  obtain ⟨hfirst, hlast, hstride⟩ := hcovers
  apply not_covers_of_spares hspares
  · omega
  · omega
  · -- where only every other code point is mapped, the distance is even
    intro heven
    rw [Bool.or_eq_true, Nat.beq_eq, Nat.beq_eq] at heven
    cases heven with
    | inl htwo =>
      rw [htwo] at hstride
      omega
    | inr hsingle => omega

/-- The lower case of a code point is that of a run that maps it, or there is no such run. -/
theorem lowerIn_cases (runs : List (Nat × Nat × Nat × Nat)) (n : Nat) :
    lowerIn runs n = n ∨
      ∃ run ∈ runs, Covers run n ∧ lowerIn runs n = run.2.2.2 + (n - run.1) := by
  induction runs with
  | nil => exact .inl rfl
  | cons run runs ih =>
    obtain ⟨first, last, stride, lower⟩ := run
    rw [lowerIn]
    -- the first run that covers the code point maps it
    split
    · rename_i hcovers
      exact .inr ⟨_, List.mem_cons_self, hcovers, rfl⟩
    · refine ih.imp_right ?_
      rintro ⟨run, hmem, hcovers, heq⟩
      exact ⟨run, List.mem_cons_of_mem _ hmem, hcovers, heq⟩

/-- A character that no run covers stays as it is. -/
theorem lowerIn_eq_self {runs : List (Nat × Nat × Nat × Nat)} {n : Nat}
    (h : ∀ run ∈ runs, ¬Covers run n) : lowerIn runs n = n := by
  obtain heq | ⟨run, hmem, hcovers, -⟩ := lowerIn_cases runs n
  · exact heq
  · exact absurd hcovers (h run hmem)

/-- What a run leads to is a character, and neither white space nor punctuation. -/
theorem plain_of_mem_caseRuns : ∀ run ∈ caseRuns, ∀ d < run.2.1 - run.1 + 1,
    (run.2.2.2 + d).isValidChar ∧ run.2.2.2 + d ≠ 0x130 ∧
      isAsciiPunctuation (.ofNat (run.2.2.2 + d)) = false ∧
      isBlank (.ofNat (run.2.2.2 + d)) = false := by
  decide +kernel

/-- A character stays as it is in lower case, or it becomes what is in lower case already and is
    neither white space nor punctuation. -/
theorem lowerChar_cases (c : Char) :
    lowerChar c = [c] ∨
      ∀ d ∈ lowerChar c, lowerChar d = [d] ∧ isAsciiPunctuation d = false ∧ isBlank d = false := by
  -- this is the one character whose lower case is two characters
  by_cases hdotted : c.toNat = 0x130
  · right
    rw [lowerChar, if_pos hdotted, List.forall_mem_cons, List.forall_mem_singleton]
    decide +kernel
  rw [lowerChar, if_neg hdotted]
  obtain hself | ⟨run, hmem, hcovers, hlower⟩ := lowerIn_cases caseRuns c.toNat
  · rw [hself, Char.ofNat_toNat]
    exact .inl rfl
  · refine .inr fun d hd => ?_
    rw [hlower, List.mem_singleton] at hd
    have hrange : c.toNat - run.1 < run.2.1 - run.1 + 1 := by
      have hlast := hcovers.2.1
      omega
    obtain ⟨hvalid, hdotless, hpunctuation, hblank⟩ := plain_of_mem_caseRuns run hmem _ hrange
    have htoNat : d.toNat = run.2.2.2 + (c.toNat - run.1) := by
      rw [hd, Char.ofNat, dif_pos hvalid]
      rfl
    -- what a run leads to is mapped by no run
    have hfinal : lowerIn caseRuns d.toNat = d.toNat := by
      apply lowerIn_eq_self
      intro other hother
      rw [htoNat]
      exact not_covers_of_covers hmem hother hcovers
    refine ⟨?_, hd ▸ hpunctuation, hd ▸ hblank⟩
    rw [lowerChar, if_neg (htoNat ▸ hdotless), hfinal, Char.ofNat_toNat]

/-- To put a character in lower case again changes nothing. -/
theorem lowerChar_of_mem_lowerChar {c d : Char} (h : d ∈ lowerChar c) : lowerChar d = [d] := by
  cases lowerChar_cases c with
  | inl hself =>
    rw [hself, List.mem_singleton] at h
    rw [h, hself]
  | inr hfinal => exact (hfinal d h).1

/-- In lower case a character is white space or punctuation only if it was before. -/
theorem plain_of_mem_lowerChar {c d : Char} (h : d ∈ lowerChar c)
    (hc : isAsciiPunctuation c = false ∧ isBlank c = false) :
    isAsciiPunctuation d = false ∧ isBlank d = false := by
  cases lowerChar_cases c with
  | inl hself =>
    rw [hself, List.mem_singleton] at h
    rw [h]
    exact hc
  | inr hfinal => exact (hfinal d h).2

end Plugboard.Text
