import Plugboard.Discovery
import Plugboard.Proofs.Text.Lines

/-!
# References with extras

The value of an entry point refers to an object: a module, maybe an attribute behind a colon, and
white space around them (`Refers`). Extras may follow in brackets. They are no part of the attribute
(`attribute?_of_attribute`), and where there is an attribute, they are no part of the module either
(`module_of_attribute`).

Factories go by whole values, so extras do count there. Of the factories for one text the last is
the one that is found (`get?_ofList`), and a value for which there is none falls back on its module.
`reference_with_extras` says when a value leads where it leads without its extras, and
`extras_count` shows that it may not.
-/

namespace Plugboard

open Text

namespace EntryPoint

/-- A text that can name a module or an attribute. -/
structure Part (s : String) : Prop where
  ne_empty : s ≠ ""
  trim_eq : trim s = s
  /-- A colon ends the module. -/
  colon_not_mem : ':' ∉ s.toList
  /-- A bracket begins the extras. -/
  bracket_not_mem : '[' ∉ s.toList

/-- A value without extras names a module and maybe an attribute, with white space around them. -/
inductive Refers (module : List Char) : Option (List Char) → List Char → Prop where
  | alone {lead tail : List Char} (hlead : Blank lead) (htail : Blank tail) :
      Refers module none (lead ++ module ++ tail)
  | attr {attr lead before after tail : List Char} (hlead : Blank lead)
      (hbefore : Blank before) (hafter : Blank after) (htail : Blank tail) :
      Refers module (some attr)
        ((lead ++ module ++ before) ++ ':' :: (after ++ attr ++ tail))

/-- White space around characters adds no other character. -/
theorem not_mem_surrounded {c : Char} {lead cs tail : List Char} (hc : isBlank c = false)
    (hlead : Blank lead) (htail : Blank tail) (h : c ∉ cs) : c ∉ lead ++ cs ++ tail := by
  have hblank : ∀ ws : List Char, Blank ws → c ∉ ws := by
    intro ws hws hmem
    simp [hws c hmem] at hc
  simp [hblank lead hlead, hblank tail htail, h]

/-- White space around a trimmed text is cut again. -/
theorem trim_surrounded {s : String} (h : trim s = s) {lead tail : List Char} (hlead : Blank lead)
    (htail : Blank tail) : trim (.ofList (lead ++ s.toList ++ tail)) = s := by
  rw [trim, String.toList_ofList, trimChars_surrounded hlead htail, trim_eq_self_iff.1 h,
    String.ofList_toList]

section Attribute

variable {module attr : String} {cs rest : List Char} {e : EntryPoint}
  (hmodule : Part module) (hattribute : Part attr)
  (hcs : Refers module.toList (some attr.toList) cs) (he : e.value.toList = cs ++ rest)
include hmodule hattribute hcs he

/-- The first colon parts the module from the attribute and what follows it. -/
theorem exists_cut_of_attribute :
    ∃ before after : List Char,
      cut? ':' e.value = some (.ofList before, .ofList (after ++ rest)) ∧
        trim (.ofList before) = module ∧ trim (.ofList after) = attr ∧ '[' ∉ after := by
  cases hcs with
  | @attr _ lead before after tail hlead hbefore hafter htail =>
    -- neither part has a colon or a bracket in it, so both first ones are those between the parts
    have hcolon : ':' ∉ lead ++ module.toList ++ before :=
      not_mem_surrounded (by decide) hlead hbefore hmodule.colon_not_mem
    have hbracket : '[' ∉ after ++ attr.toList ++ tail :=
      not_mem_surrounded (by decide) hafter htail hattribute.bracket_not_mem
    refine ⟨_, after ++ attr.toList ++ tail, ?_, trim_surrounded hmodule.trim_eq hlead hbefore,
      trim_surrounded hattribute.trim_eq hafter htail, hbracket⟩
    simp only [cut?_eq_some_iff, String.toList_ofList]
    exact ⟨hcolon, by simp [he]⟩

/-- What follows the attribute is no part of the module. -/
theorem module_of_attribute : e.module = module := by
  obtain ⟨before, after, hcut, hbefore, -⟩ := exists_cut_of_attribute hmodule hattribute hcs he
  simp only [EntryPoint.module, hcut]
  exact hbefore

/-- What follows in brackets is no part of the attribute. -/
theorem attribute?_of_attribute {more : List Char} (hrest : rest = '[' :: more) :
    e.attribute? = some attr := by
  obtain ⟨before, after, hcut, -, hafter, hbracket⟩ :=
    exists_cut_of_attribute hmodule hattribute hcs he
  have hextras : cut? '[' (.ofList (after ++ rest)) = some (.ofList after, .ofList more) := by
    simp only [cut?_eq_some_iff, String.toList_ofList]
    exact ⟨hbracket, by rw [hrest]⟩
  simp only [EntryPoint.attribute?, hcut, Option.map_some, hextras]
  rw [hafter]

end Attribute

/-- Without a colon there is no attribute, and the module is the value. -/
theorem of_alone {module : String} {cs rest : List Char} {e : EntryPoint}
    (hmodule : Part module) (hcs : Refers module.toList none cs) (hrest : ':' ∉ rest)
    (he : e.value.toList = cs ++ rest) : e.attribute? = none ∧ e.module = trim e.value := by
  cases hcs with
  | @alone lead tail hlead htail =>
    have hcolon : ':' ∉ lead ++ module.toList ++ tail ++ rest := by
      intro hmem
      cases List.mem_append.1 hmem with
      | inl hmem =>
        exact not_mem_surrounded (by decide) hlead htail hmodule.colon_not_mem hmem
      | inr hmem => exact hrest hmem
    -- there is nothing to cut at
    have hcut : cut? ':' e.value = none := by
      rw [cut?, he, cutChars?_eq_none_iff.2 hcolon]
      rfl
    simp [EntryPoint.attribute?, EntryPoint.module, hcut]

/-- Nothing but white space around the module is left out of a value that is the module alone. -/
theorem trim_alone {module : String} {value : String} (hmodule : Part module)
    (hvalue : Refers module.toList none value.toList) : trim value = module := by
  generalize hcs : value.toList = cs at hvalue
  cases hvalue with
  | @alone lead tail hlead htail =>
    rw [trim, hcs, trimChars_surrounded hlead htail, trim_eq_self_iff.1 hmodule.trim_eq,
      String.ofList_toList]

/-- The module has no white space at its ends. -/
theorem trim_module (e : EntryPoint) : trim e.module = e.module := by
  unfold EntryPoint.module
  split <;> exact trim_trim _

end EntryPoint

/-- Different factories can be told apart by what they yield. -/
theorem Factory.eq_of_run_eq {factory factory' : Factory}
    (h : ∀ supply, factory.run supply = factory'.run supply) : factory = factory' := by
  have hempty := h []
  -- making a new object counts it in the supply, which tells the two kinds apart
  cases factory with
  | shared plugin =>
    cases factory' with
    | shared plugin' => exact congrArg shared (Prod.mk.inj hempty).1
    | fresh line definition => exact absurd (Prod.mk.inj hempty).2 (by simp [Keyed.put])
  | fresh line definition =>
    cases factory' with
    | shared plugin => exact absurd (Prod.mk.inj hempty).2 (by simp [Keyed.put])
    | fresh line' definition' =>
      simp only [run, Supply.next, Plugin.make, Prod.mk.injEq, Plugin.mk.injEq,
        PluginKey.mk.injEq] at hempty
      obtain ⟨⟨rfl, rfl, -⟩, -⟩ := hempty
      rfl

namespace Resolver

/-- The factory given last for a text. -/
def lastFor (factories : List (String × Factory)) (text : String) : Option Factory :=
  (factories.reverse.find? fun given => trim given.1 = trim text).map (·.2)

/-- The factory given last for a value, or else the one given last for a module. -/
def lastForEither (factories : List (String × Factory)) (value module : String) : Option Factory :=
  lastFor factories value <|> lastFor factories module

/-- White space around a text makes no difference to which factory is for it. -/
theorem lastFor_trim (factories : List (String × Factory)) (text : String) :
    lastFor factories (trim text) = lastFor factories text := by
  rw [lastFor, lastFor, trim_trim]

/-- A factory that is added takes the place of the one there was for its text. -/
theorem get?_foldl_add (key : String) (factories : List (String × Factory)) (r : Resolver) :
    Keyed.get? key (factories.foldl (fun r (value, factory) => r.add value factory) r).factories =
      ((factories.reverse.find? fun given => trim given.1 = key).map (·.2) <|>
        Keyed.get? key r.factories) := by
  -- what is added later counts first, so the search goes from the last to the first
  induction factories generalizing r with
  | nil => simp
  | cons given rest ih =>
    obtain ⟨value, factory⟩ := given
    rw [List.foldl_cons, ih, List.reverse_cons, List.find?_append]
    cases rest.reverse.find? fun given => trim given.1 = key with
    | some later => rfl
    | none =>
      -- no later one is for the text, so this one counts if it is
      by_cases hkey : trim value = key
      · simp [add, hkey, Keyed.get?_put_self]
      · simp [add, hkey, Keyed.get?_put_of_ne (Ne.symm hkey)]

/-- Of the factories for one text the last is found. -/
theorem get?_ofList (key : String) (factories : List (String × Factory)) :
    Keyed.get? key (ofList factories).factories =
      (factories.reverse.find? fun given => trim given.1 = key).map (·.2) := by
  rw [ofList, get?_foldl_add]
  simp

/-- An entry point has the last factory for its value, or else the last for its module. -/
theorem factory?_ofList (factories : List (String × Factory)) (e : EntryPoint) :
    (ofList factories).factory? e = lastForEither factories e.value e.module := by
  rw [factory?, get?_ofList, get?_ofList, lastForEither, lastFor, lastFor, e.trim_module]

/-- Two entry points lead to one factory, or both are refused as not loaded. -/
def SameOutcome (r : Resolver) (e e' : EntryPoint) : Prop :=
  (∃ factory : Factory, ∀ supply, r.resolve supply e = .ok (factory.run supply) ∧
      r.resolve supply e' = .ok (factory.run supply)) ∨
    ∀ supply, (∃ reason, r.resolve supply e = .error (.notLoaded e.name reason)) ∧
      ∃ reason, r.resolve supply e' = .error (.notLoaded e'.name reason)

/-- Only an entry point that has a factory is resolved. -/
theorem factory?_of_resolve {r : Resolver} {e : EntryPoint} {factory : Factory}
    (h : ∀ supply, r.resolve supply e = .ok (factory.run supply)) :
    r.factory? e = some factory := by
  unfold resolve at h
  cases hfactory : r.factory? e with
  | none => simp [hfactory] at h
  | some found =>
    simp only [hfactory, Except.ok.injEq] at h
    rw [Factory.eq_of_run_eq h]

/-- Only one that has none is refused. -/
theorem factory?_of_refused {r : Resolver} {e : EntryPoint} {supply : Supply} {error : PluginError}
    (h : r.resolve supply e = .error error) : r.factory? e = none := by
  unfold resolve at h
  cases hfactory : r.factory? e with
  | none => rfl
  | some found => simp [hfactory] at h

/-- Two entry points come to the same exactly if they have the same factory. -/
theorem sameOutcome_iff {r : Resolver} {e e' : EntryPoint} :
    SameOutcome r e e' ↔ r.factory? e = r.factory? e' := by
  constructor
  · intro hsame
    cases hsame with
    | inl hloaded =>
      obtain ⟨factory, hloaded⟩ := hloaded
      rw [factory?_of_resolve fun supply => (hloaded supply).1,
        factory?_of_resolve fun supply => (hloaded supply).2]
    | inr hrefused =>
      obtain ⟨⟨reason, h⟩, ⟨reason', h'⟩⟩ := hrefused []
      rw [factory?_of_refused h, factory?_of_refused h']
  · intro h
    -- resolving looks at nothing but the factory
    unfold SameOutcome resolve
    rw [h]
    cases r.factory? e' with
    | some factory => exact .inl ⟨factory, fun supply => ⟨rfl, rfl⟩⟩
    | none => exact .inr fun supply => ⟨⟨_, rfl⟩, ⟨_, rfl⟩⟩

end Resolver

namespace EntryPoint

open Resolver

/-- Extras in brackets do not change the attribute of a value, nor the module if there is an
    attribute. They do count for the factory: that is the last one given for the whole value, extras
    included, and only where there is none, the last one given for the module. So a value with an
    attribute, one that has a factory of its own, and one whose module has none lead where the value
    without extras leads if and only if that comes to the same factory. -/
theorem reference_with_extras {module : String} {attribute? : Option String}
    {extras tail : List Char} {plain e : EntryPoint} (hmodule : Part module)
    (hattribute : ∀ attr ∈ attribute?, Part attr) (hextras : ':' ∉ extras) (htail : Blank tail)
    (hplain : Refers module.toList (attribute?.map String.toList) plain.value.toList)
    (he : e.value.toList = plain.value.toList ++ '[' :: (extras ++ ']' :: tail)) :
    e.attribute? = attribute? ∧ (attribute?.isSome → e.module = module) ∧
      ∀ factories : List (String × Factory),
        (ofList factories).factory? plain = lastForEither factories plain.value module ∧
          (attribute?.isSome ∨ (lastFor factories e.value).isSome ∨
              lastFor factories module = none →
            (ofList factories).factory? e = lastForEither factories e.value module ∧
              (SameOutcome (ofList factories) e plain ↔
                lastForEither factories e.value module =
                  lastForEither factories plain.value module)) := by
  -- what the two look-ups find follows from what the two modules are
  suffices hparts : e.attribute? = attribute? ∧ plain.module = module ∧
      (e.module = module ∨ attribute? = none ∧ e.module = trim e.value) by
    obtain ⟨hattr, hname', hname⟩ := hparts
    refine ⟨hattr, ?_, fun factories => ?_⟩
    · intro hsome
      cases hname with
      | inl hname => exact hname
      | inr hname => simp [hname.1] at hsome
    have hfactory' : (ofList factories).factory? plain =
        lastForEither factories plain.value module := by
      rw [factory?_ofList, hname']
    refine ⟨hfactory', fun hfound => ?_⟩
    have hfactory : (ofList factories).factory? e = lastForEither factories e.value module := by
      rw [factory?_ofList]
      cases hname with
      | inl hname => rw [hname]
      | inr hname =>
        -- the fallback is not needed, or leads nowhere
        obtain ⟨rfl, hname⟩ := hname
        rw [hname, lastForEither, lastForEither, lastFor_trim]
        cases hown : lastFor factories e.value with
        | some factory => rfl
        | none => simpa [hown, eq_comm] using hfound
    exact ⟨hfactory, by rw [sameOutcome_iff, hfactory, hfactory']⟩
  cases attribute? with
  | none =>
    have hrest : ':' ∉ '[' :: (extras ++ ']' :: tail) := by
      have hblank : ':' ∉ tail := fun hmem => absurd (htail _ hmem) (by decide)
      simp [hextras, hblank]
    obtain ⟨hattr, hname⟩ := of_alone hmodule hplain hrest he
    obtain ⟨-, hname'⟩ := of_alone hmodule hplain List.not_mem_nil (List.append_nil _).symm
    exact ⟨hattr, hname'.trans (trim_alone hmodule hplain), .inr ⟨rfl, hname⟩⟩
  | some attr =>
    have hattribute : Part attr := hattribute attr rfl
    exact ⟨attribute?_of_attribute hmodule hattribute hplain he rfl,
      module_of_attribute hmodule hattribute hplain (List.append_nil _).symm,
      .inl (module_of_attribute hmodule hattribute hplain he)⟩

/-- White space on all sides, a bracket among the extras, and a factory for the module alone. -/
theorem reference_with_extras_spaced :
    let plain : EntryPoint := ⟨"portal", "plugins", " portal.web :\tPlugin "⟩
    let e : EntryPoint := ⟨"portal", "plugins", " portal.web :\tPlugin [admin, [x] "⟩
    let factories : List (String × Factory) :=
      [("portal.web", .fresh "a" {}), ("portal.web ", .fresh "b" {})]
    e.attribute? = some "Plugin" ∧ e.module = "portal.web" ∧
      SameOutcome (ofList factories) e plain := by
  intro plain e factories
  have hspace : Blank [' '] := by decide
  have hmodule : Part "portal.web" := by constructor <;> decide
  have hattribute : ∀ attr ∈ some "Plugin", Part attr := by
    intro attr hattr
    cases hattr
    constructor <;> decide
  have hplain : Refers "portal.web".toList (some "Plugin".toList) plain.value.toList := by
    have hvalue : plain.value.toList = ([' '] ++ "portal.web".toList ++ [' ']) ++
        ':' :: (['\t'] ++ "Plugin".toList ++ [' ']) := by decide
    rw [hvalue]
    exact .attr hspace hspace (by decide) hspace
  have he : e.value.toList = plain.value.toList ++ '[' :: ("admin, [x".toList ++ ']' :: [' ']) := by
    decide
  obtain ⟨hattr, hname, hfactories⟩ :=
    reference_with_extras hmodule hattribute (by decide) hspace hplain he
  -- neither value has a factory of its own
  have hown : lastFor factories e.value = none := by decide +kernel
  have hown' : lastFor factories plain.value = none := by decide +kernel
  refine ⟨hattr, hname rfl, ((hfactories factories).2 (.inl rfl)).2.2 ?_⟩
  rw [lastForEither, lastForEither, hown, hown']

/-- A factory for the value without extras is not one for the value with extras, and behind a module
    alone the extras stay. -/
theorem extras_count :
    let plain : EntryPoint := ⟨"portal", "plugins", "portal:Plugin"⟩
    let e : EntryPoint := ⟨"portal", "plugins", "portal:Plugin[admin]"⟩
    let alone : EntryPoint := ⟨"portal", "plugins", "portal [admin]"⟩
    let r : Resolver := ofList [("portal:Plugin", .fresh "a" {})]
    Part "portal" ∧ Part "Plugin" ∧
      Refers "portal".toList (some "Plugin".toList) plain.value.toList ∧
      e.value.toList = plain.value.toList ++ '[' :: ("admin".toList ++ [']']) ∧
      (∃ found, r.resolve [] plain = .ok found) ∧
      r.resolve [] e =
        .error (.notLoaded "portal" "no plugin factory for `portal:Plugin[admin]`") ∧
      ¬SameOutcome r e plain ∧
      Refers "portal".toList none "portal ".toList ∧
      alone.value.toList = "portal ".toList ++ '[' :: ("admin".toList ++ [']']) ∧
      alone.module ≠ "portal" := by
  intro plain e alone r
  have hmodule : Part "portal" := by constructor <;> decide
  have hattribute : Part "Plugin" := by constructor <;> decide
  have hblank : Blank [] := by decide
  have hplain : Refers "portal".toList (some "Plugin".toList) plain.value.toList := by
    have hvalue : plain.value.toList =
        ([] ++ "portal".toList ++ []) ++ ':' :: ([] ++ "Plugin".toList ++ []) := by decide
    rw [hvalue]
    exact .attr hblank hblank hblank hblank
  have halone : Refers "portal".toList none "portal ".toList := by
    have hvalue : "portal ".toList = [] ++ "portal".toList ++ [' '] := by decide
    rw [hvalue]
    exact .alone hblank (by decide)
  -- the whole value has a factory without the extras, and with them neither it nor its module has
  have hsome : (r.factory? plain).isSome = true := by decide +kernel
  have hnone : r.factory? e = none := by decide +kernel
  obtain ⟨factory, hsome⟩ := Option.isSome_iff_exists.1 hsome
  have hfound : r.resolve [] plain = .ok (factory.run []) := by rw [resolve, hsome]
  have hrefused : r.resolve [] e =
      .error (.notLoaded "portal" "no plugin factory for `portal:Plugin[admin]`") := by
    rw [resolve, hnone]
    rfl
  have hdiffer : ¬SameOutcome r e plain := by
    rw [sameOutcome_iff, hnone, hsome]
    exact nofun
  exact ⟨hmodule, hattribute, hplain, by decide, ⟨_, hfound⟩, hrefused, hdiffer, halone, by decide,
    by decide⟩

end EntryPoint

end Plugboard
