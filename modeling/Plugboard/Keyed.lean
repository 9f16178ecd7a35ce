/-!
# Lists of pairs with one value for a key

A list of pairs read as a finite map: `get?` finds the value of a key, `put` replaces it where it
stands or adds it at the end. The order of the pairs is the order in which the keys were first put.

`get?_put_self` and `get?_put_of_ne` say what `put` does to the values, `keys_put` what it does to
the keys; `get?_erase_self` and `get?_erase_of_ne` are the laws of `erase`, which takes back what
`put` added (`erase_put_of_get?_eq_none`). Where the keys are distinct, `get?_eq_some_iff` reads a
look-up as membership.
-/

namespace Plugboard.Keyed

section Keys

variable {κ α : Type}

/-- The keys, in order. -/
def keys (m : List (κ × α)) : List κ := m.map (·.1)

@[simp] theorem keys_nil : keys ([] : List (κ × α)) = [] := rfl

@[simp] theorem keys_cons (p : κ × α) (m : List (κ × α)) : keys (p :: m) = p.1 :: keys m := rfl

end Keys

variable {κ α : Type} [DecidableEq κ]

/-- The value of a key. -/
def get? (k : κ) : List (κ × α) → Option α
  | [] => none
  | (key, a) :: rest => if key = k then some a else get? k rest

/-- Gives a key a value, in the place it has or else at the end. -/
def put (k : κ) (a : α) : List (κ × α) → List (κ × α)
  | [] => [(k, a)]
  | (key, b) :: rest => if key = k then (k, a) :: rest else (key, b) :: put k a rest

/-- Takes a key out, with its value. -/
def erase (k : κ) (m : List (κ × α)) : List (κ × α) := m.filter fun p => p.1 ≠ k

@[simp] theorem get?_nil (k : κ) : get? k ([] : List (κ × α)) = none := rfl

/-- The look-up of lists is this one. -/
theorem lookup_eq_get? (k : κ) (m : List (κ × α)) : m.lookup k = get? k m := by
  induction m with
  | nil => rfl
  | cons p m ih =>
    rw [List.lookup_cons, get?, ih]
    by_cases h : p.1 = k
    · simp [h]
    · rw [if_neg h, beq_false_of_ne (Ne.symm h)]

/-- A value that is put is found. -/
theorem get?_put_self (k : κ) (a : α) (m : List (κ × α)) : get? k (put k a m) = some a := by
  induction m with
  | nil => simp [put, get?]
  | cons p m ih =>
    simp only [put]
    split
    · simp [get?]
    · rename_i h
      simp [get?, h, ih]

/-- To put a value under another key changes no look-up. -/
theorem get?_put_of_ne {j k : κ} (h : j ≠ k) (a : α) (m : List (κ × α)) :
    get? j (put k a m) = get? j m := by
  induction m with
  | nil => simp [put, get?, Ne.symm h]
  | cons p m ih =>
    simp only [put]
    split
    · rename_i hp
      simp [get?, hp, Ne.symm h]
    · simp [get?, ih]

/-- Putting the value that a key has changes nothing. -/
theorem put_eq_self {k : κ} {a : α} {m : List (κ × α)} (h : get? k m = some a) :
    put k a m = m := by
  induction m with
  | nil => simp at h
  | cons p m ih =>
    obtain ⟨key, b⟩ := p
    by_cases hk : key = k
    · simp only [get?, hk, ↓reduceIte, Option.some.injEq] at h
      simp [put, hk, h]
    · simp only [get?, hk, ↓reduceIte] at h
      simp [put, hk, ih h]

/-- A key without a value comes last. -/
theorem put_eq_append {k : κ} {m : List (κ × α)} (h : get? k m = none) (a : α) :
    put k a m = m ++ [(k, a)] := by
  induction m with
  | nil => rfl
  | cons p m ih =>
    obtain ⟨key, b⟩ := p
    by_cases hk : key = k
    · simp [get?, hk] at h
    · simp only [get?, hk, ↓reduceIte] at h
      simp [put, hk, ih h]

/-- Putting a key that is there keeps the keys; putting a new one adds it at the end. -/
theorem keys_put (k : κ) (a : α) (m : List (κ × α)) :
    keys (put k a m) = if k ∈ keys m then keys m else keys m ++ [k] := by
  induction m with
  | nil => simp [put, keys]
  | cons p m ih =>
    obtain ⟨key, b⟩ := p
    simp only [put]
    by_cases hk : key = k
    · simp [hk]
    · have hk' : ¬k = key := fun h => hk h.symm
      by_cases hm : k ∈ keys m <;> simp [hk, hk', hm, ih]

/-- Keys stay distinct when a value is put. -/
theorem nodup_keys_put {m : List (κ × α)} (h : (keys m).Nodup) (k : κ) (a : α) :
    (keys (put k a m)).Nodup := by
  rw [keys_put]
  split
  · exact h
  · rename_i hk
    rw [List.nodup_append]
    refine ⟨h, by simp, ?_⟩
    intro j hj i hi hji
    rw [List.mem_singleton] at hi
    exact hk (hi ▸ hji ▸ hj)

/-- What another key is given goes before or behind an entry, whatever its value. -/
theorem exists_put_append {j k : κ} (h : j ≠ k) (a : α) (m m' : List (κ × α)) :
    ∃ n n', put k a (m ++ m') = n ++ n' ∧ ∀ b, put k a (m ++ (j, b) :: m') = n ++ (j, b) :: n' := by
  induction m with
  | nil => exact ⟨[], put k a m', rfl, fun b => if_neg h⟩
  | cons p m ih =>
    obtain ⟨key, b⟩ := p
    -- the key is met before the entry, or it is not and the entry is passed
    by_cases hk : key = k
    · refine ⟨(k, a) :: m, m', ?_, fun _ => ?_⟩
      · simp [put, hk]
      · simp [put, hk]
    · obtain ⟨n, n', hwithout, hwith⟩ := ih
      refine ⟨(key, b) :: n, n', ?_, fun _ => ?_⟩
      · simp [put, hk, hwithout]
      · simp [put, hk, hwith]

/-- Nothing is found exactly for what is no key. -/
theorem get?_eq_none_iff {k : κ} {m : List (κ × α)} : get? k m = none ↔ k ∉ keys m := by
  induction m with
  | nil => simp
  | cons p m ih =>
    obtain ⟨key, b⟩ := p
    by_cases hk : key = k
    · simp [get?, hk]
    · have hk' : ¬k = key := fun h => hk h.symm
      simp [get?, hk, hk', ih]

/-- What is found is in the list. -/
theorem mem_of_get?_eq_some {k : κ} {a : α} {m : List (κ × α)} (h : get? k m = some a) :
    (k, a) ∈ m := by
  induction m with
  | nil => simp at h
  | cons p m ih =>
    obtain ⟨key, b⟩ := p
    by_cases hk : key = k
    · simp only [get?, hk, ↓reduceIte, Option.some.injEq] at h
      simp [hk, h]
    · simp only [get?, hk, ↓reduceIte] at h
      exact List.mem_cons_of_mem _ (ih h)

/-- To put a value adds no other pair. -/
theorem mem_put {k : κ} {a : α} {m : List (κ × α)} {p : κ × α} (h : p ∈ put k a m) :
    p = (k, a) ∨ p ∈ m := by
  induction m with
  | nil => simpa [put] using h
  | cons q m ih =>
    simp only [put] at h
    split at h
    · rcases List.mem_cons.1 h with h | h
      · exact .inl h
      · exact .inr (List.mem_cons_of_mem _ h)
    · rcases List.mem_cons.1 h with h | h
      · exact .inr (h ▸ List.mem_cons_self)
      · exact (ih h).imp id (List.mem_cons_of_mem _)

/-- With distinct keys a pair of the list is found. -/
theorem get?_eq_some_iff {k : κ} {a : α} {m : List (κ × α)} (hm : (keys m).Nodup) :
    get? k m = some a ↔ (k, a) ∈ m := by
  refine ⟨mem_of_get?_eq_some, fun h => ?_⟩
  induction m with
  | nil => simp at h
  | cons p m ih =>
    obtain ⟨key, b⟩ := p
    obtain ⟨hkey, hm⟩ := List.nodup_cons.1 hm
    rcases List.mem_cons.1 h with h | h
    · simp only [Prod.mk.injEq] at h
      simp [get?, h]
    · -- the pair stands further on, so the first key cannot be the same
      have hk : key ≠ k := fun he => hkey (List.mem_map.2 ⟨(k, a), h, he.symm⟩)
      simp only [get?, hk, ↓reduceIte]
      exact ih hm h

/-- What is taken back is found no more. -/
theorem get?_erase_self (k : κ) (m : List (κ × α)) : get? k (erase k m) = none := by
  rw [get?_eq_none_iff]
  simp [erase, keys]

/-- To take back a key changes no look-up of another. -/
theorem get?_erase_of_ne {j k : κ} (h : j ≠ k) (m : List (κ × α)) :
    get? j (erase k m) = get? j m := by
  induction m with
  | nil => rfl
  | cons p m ih =>
    obtain ⟨key, b⟩ := p
    -- what is dropped here is not what is looked up
    by_cases hk : key = k
    · have hj : ¬k = j := fun he => h he.symm
      simp only [erase, hk, ne_eq, not_true_eq_false, decide_false, Bool.false_eq_true,
        not_false_eq_true, List.filter_cons_of_neg, get?, hj, ↓reduceIte]
      exact ih
    · simp only [erase, hk, ne_eq, not_false_eq_true, decide_true, List.filter_cons_of_pos, get?]
      split
      · rfl
      · exact ih

/-- There is nothing to take out of a key that has no value. -/
theorem erase_eq_self {k : κ} {m : List (κ × α)} (h : get? k m = none) : erase k m = m := by
  rw [get?_eq_none_iff] at h
  rw [erase, List.filter_eq_self]
  intro p hp
  have hk : p.1 ≠ k := fun he => h (he ▸ List.mem_map.2 ⟨p, hp, rfl⟩)
  simpa using hk

/-- To put a new key and take it out again changes nothing. -/
theorem erase_put_of_get?_eq_none {k : κ} {m : List (κ × α)} (h : get? k m = none) (a : α) :
    erase k (put k a m) = m := by
  have hlast : erase k [(k, a)] = [] := by simp [erase]
  rw [put_eq_append h, erase, List.filter_append, ← erase, ← erase, erase_eq_self h, hlast,
    List.append_nil]

end Plugboard.Keyed
