import Plugboard.Hook.Args

/-!
# What a handler is given

The arguments that are passed can be cut down to some names: `restrict` keeps the values of these
names and has no others (`get?_restrict`).

`select_eq` says that selecting is cutting down, once every name has a value: it fails for the first
name without one, and gives exactly the values of the names that were asked for if there is none.
-/

namespace Plugboard.Args

/-- The values of the given names, in the order of the names. -/
def valuesOf (args : Args) (names : List String) : List (String × ArgValue) :=
  names.filterMap fun name => (args.get? name).map (name, ·)

/-- The arguments of the given names and no others. -/
def restrict (args : Args) (names : List String) : Args := ⟨args.valuesOf names.eraseDups⟩

/-- A name without a value adds nothing. -/
theorem valuesOf_cons_of_none {args : Args} {name : String} (h : args.get? name = none)
    (rest : List String) : args.valuesOf (name :: rest) = args.valuesOf rest := by
  simp [valuesOf, h]

/-- A name with a value adds it. -/
theorem valuesOf_cons_of_some {args : Args} {name : String} {value : ArgValue}
    (h : args.get? name = some value) (rest : List String) :
    args.valuesOf (name :: rest) = (name, value) :: args.valuesOf rest := by
  simp [valuesOf, h]

/-- The values of some names are those that were passed, for these names only. -/
theorem get?_valuesOf (args : Args) (names : List String) (name : String) :
    Keyed.get? name (args.valuesOf names) = if name ∈ names then args.get? name else none := by
  induction names with
  | nil => rfl
  | cons n rest ih =>
    cases hn : args.get? n with
    | none =>
      rw [valuesOf_cons_of_none hn, ih]
      by_cases hname : name = n
      · -- looking up a name without a value gives nothing, whether it is asked for again or not
        rw [hname, hn, ite_self, ite_self]
      · simp [hname]
    | some value =>
      rw [valuesOf_cons_of_some hn, Keyed.get?, ih]
      by_cases hname : name = n
      · simp [hname, hn]
      · simp [hname, Ne.symm hname]

/-- Cut down to some names, arguments have the values of these names and no others. -/
theorem get?_restrict (args : Args) (names : List String) (name : String) :
    (args.restrict names).get? name = if name ∈ names then args.get? name else none := by
  rw [restrict, get?, get?_valuesOf]
  simp only [List.mem_eraseDups]

/-- Names that all have values are inserted one after another: what is there already stays, and the
    others come last, each once. -/
theorem foldl_insert_valuesOf (args : Args) {names : List String}
    (hnames : ∀ name ∈ names, args.contains name) (done : List String) :
    (args.valuesOf names).foldl (fun (acc : Args) (name, value) => acc.insert name value)
      (Args.mk (args.valuesOf done)) =
        Args.mk (args.valuesOf (done ++ (names.filter (· ∉ done)).eraseDups)) := by
  induction names generalizing done with
  | nil => simp [valuesOf]
  | cons n rest ih =>
    obtain ⟨value, hvalue⟩ := Option.isSome_iff_exists.1 (hnames n List.mem_cons_self)
    have hrest := ih fun name hname => hnames name (List.mem_cons_of_mem n hname)
    have hget := args.get?_valuesOf done n
    rw [valuesOf_cons_of_some hvalue, List.foldl_cons]
    by_cases hn : n ∈ done
    · -- the name has its value already
      have hput : insert ⟨args.valuesOf done⟩ n value = ⟨args.valuesOf done⟩ := by
        rw [if_pos hn, hvalue] at hget
        exact congrArg Args.mk (Keyed.put_eq_self hget)
      simp only [hput, hrest, hn, not_true_eq_false, decide_false, Bool.false_eq_true,
        not_false_eq_true, List.filter_cons_of_neg]
    · -- the name comes last, and what repeats it further on will find it there
      have hput : insert ⟨args.valuesOf done⟩ n value = ⟨args.valuesOf (done ++ [n])⟩ := by
        rw [if_neg hn] at hget
        refine congrArg Args.mk ((Keyed.put_eq_append hget value).trans ?_)
        simp [valuesOf, hvalue]
      have hfilter : (rest.filter (· ∉ done ++ [n])) =
          (rest.filter (· ∉ done)).filter fun name => !name == n := by
        rw [List.filter_filter]
        refine List.filter_congr fun name _ => ?_
        rw [Bool.eq_iff_iff]
        simp [and_comm]
      simp only [hput, hrest, hn, not_false_eq_true, decide_true, List.filter_cons_of_pos,
        List.eraseDups_cons, hfilter, List.append_assoc, List.singleton_append]

/-- Picking names fails for the first one without a value. -/
theorem pick_eq (args : Args) (names : List String) :
    args.pick names = match names.find? fun name => !args.contains name with
      | some name => .error name
      | none => .ok (args.valuesOf names) := by
  induction names with
  | nil => rfl
  | cons n rest ih =>
    rw [pick, List.find?_cons, ih]
    -- the first name without a value stops the search here or further on
    cases hn : args.get? n with
    | none => simp [contains, hn]
    | some value =>
      simp only [contains, hn, Option.isSome_some, Bool.not_true]
      rw [valuesOf_cons_of_some hn]
      cases rest.find? fun name => !(args.get? name).isSome <;> rfl

/-- Selecting fails for the first name without a value; if there is none, it gives the arguments of
    the names and no others. -/
theorem select_eq (args : Args) (names : List String) :
    args.select names = match names.find? fun name => !args.contains name with
      | some name => .error name
      | none => .ok (args.restrict names) := by
  rw [select, pick_eq]
  cases hfind : names.find? fun name => !args.contains name with
  | some name => rfl
  | none =>
    have hnames : ∀ name ∈ names, args.contains name := by simpa using hfind
    -- nothing is inserted yet, so nothing is left out as a repetition
    have hfold := args.foldl_insert_valuesOf hnames []
    have hall : names.filter (· ∉ []) = names := List.filter_eq_self.2 (by simp)
    rw [hall, List.nil_append] at hfold
    exact congrArg Except.ok hfold

end Plugboard.Args
