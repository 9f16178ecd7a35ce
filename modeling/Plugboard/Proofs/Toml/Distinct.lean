import Plugboard.Toml.Reader

/-!
# Keys of TOML tables

No table that is read has a key twice, at whatever depth it stands (`Json.DistinctKeys`): what adds
a key refuses one that is there. Each change of a table keeps this (`Table.DistinctKeys.insert`,
`Table.DistinctKeys.inside`), so every statement keeps it of a document (`DistinctKeys.add`), and
the values in braces and brackets have it by induction on the steps of their reader
(`readDistinct`).
-/

namespace Plugboard

/-- All tables of a value have distinct keys. -/
inductive Json.DistinctKeys : Json → Prop
  | scalar {v : Json} (harr : ∀ items, v ≠ .arr items) (hobj : ∀ fields, v ≠ .obj fields) :
    DistinctKeys v
  | arr {items : List Json} (h : ∀ v ∈ items, DistinctKeys v) : DistinctKeys (.arr items)
  | obj {fields : List (String × Json)} (hkeys : (Keyed.keys fields).Nodup)
    (h : ∀ p ∈ fields, DistinctKeys p.2) : DistinctKeys (.obj fields)

namespace Toml

/-! ## Tables -/

/-- All tables of an entry have distinct keys. -/
inductive Entry.DistinctKeys : Entry → Prop
  | value {v : Json} (h : v.DistinctKeys) : DistinctKeys (.value v)
  | table {origin : Origin} {entries : List (String × Entry)} (hkeys : (Keyed.keys entries).Nodup)
    (h : ∀ p ∈ entries, DistinctKeys p.2) : DistinctKeys (.table origin entries)
  | tables {items : List (List (String × Entry))} (hkeys : ∀ t ∈ items, (Keyed.keys t).Nodup)
    (h : ∀ t ∈ items, ∀ p ∈ t, DistinctKeys p.2) : DistinctKeys (.tables items)

/-- A table and all tables in it have distinct keys. -/
structure Table.DistinctKeys (t : Table) : Prop where
  nodup : (Keyed.keys t).Nodup
  entries : ∀ p ∈ t, p.2.DistinctKeys

/-- The fields of a table are the values of its entries, in order. -/
theorem fieldsOf_eq_map (entries : List (String × Entry)) :
    fieldsOf entries = entries.map fun p => (p.1, p.2.toJson) := by
  induction entries with
  | nil => rfl
  | cons p rest ih => rw [fieldsOf, ih, List.map_cons]

/-- The items of an array of tables are its tables, in order. -/
theorem itemsOf_eq_map (items : List (List (String × Entry))) :
    itemsOf items = items.map fun entries => .obj (fieldsOf entries) := by
  induction items with
  | nil => rfl
  | cons entries rest ih => rw [itemsOf, ih, List.map_cons]

/-- Fields have the keys of their table, so their values decide. -/
theorem distinctKeys_obj_fieldsOf {entries : List (String × Entry)}
    (hkeys : (Keyed.keys entries).Nodup) (h : ∀ p ∈ entries, p.2.toJson.DistinctKeys) :
    (Json.obj (fieldsOf entries)).DistinctKeys := by
  rw [fieldsOf_eq_map]
  apply Json.DistinctKeys.obj
  · rw [Keyed.keys, List.map_map]
    exact hkeys
  · intro p hp
    obtain ⟨q, hq, rfl⟩ := List.mem_map.1 hp
    exact h q hq

/-- The value of an entry has distinct keys where the entry has. -/
theorem Entry.DistinctKeys.toJson {entry : Entry} (h : entry.DistinctKeys) :
    entry.toJson.DistinctKeys := by
  induction h with
  | value h => exact h
  | table hkeys _ ih => exact distinctKeys_obj_fieldsOf hkeys ih
  | tables hkeys _ ih =>
    rw [Entry.toJson, itemsOf_eq_map]
    refine .arr fun v hv => ?_
    obtain ⟨t, ht, rfl⟩ := List.mem_map.1 hv
    exact distinctKeys_obj_fieldsOf (hkeys t ht) (ih t ht)

namespace Table.DistinctKeys

variable {t t' sub : Table} {key : String} {entry : Entry}

/-- A table without entries. -/
theorem nil : DistinctKeys [] := ⟨List.nodup_nil, nofun⟩

/-- The entry of a table, be it by its own header or on the way to another. -/
theorem table (h : DistinctKeys sub) (origin : Origin) : (Entry.table origin sub).DistinctKeys :=
  .table h.nodup h.entries

/-- What stands under a key has distinct keys as well. -/
theorem of_get? (h : DistinctKeys t) (hget : Keyed.get? key t = some entry) : entry.DistinctKeys :=
  h.entries _ (Keyed.mem_of_get?_eq_some hget)

/-- A key may be given an entry with distinct keys. -/
theorem put (h : DistinctKeys t) (hentry : entry.DistinctKeys) (key : String) :
    DistinctKeys (Keyed.put key entry t) := by
  refine ⟨Keyed.nodup_keys_put h.nodup key entry, fun p hp => ?_⟩
  cases Keyed.mem_put hp with
  | inl heq => exact heq ▸ hentry
  | inr hmem => exact h.entries p hmem

/-- A key that is not there may be added at the end. -/
theorem append (h : DistinctKeys t) (hget : Keyed.get? key t = none) (hentry : entry.DistinctKeys) :
    DistinctKeys (t ++ [(key, entry)]) := by
  rw [← Keyed.put_eq_append hget]
  exact h.put hentry key

/-- The table of an entry that is one. -/
theorem of_table {origin : Origin} (h : (Entry.table origin sub).DistinctKeys) :
    DistinctKeys sub := by
  cases h with
  | table hkeys h => exact ⟨hkeys, h⟩

/-- The last table of an array of tables, and the array with another in its place. -/
theorem of_tables {items : List Table} (h : (Entry.tables items).DistinctKeys)
    (hlast : items.getLast? = some sub) :
    DistinctKeys sub ∧ ∀ t', DistinctKeys t' →
      (Entry.tables (items.dropLast ++ [t'])).DistinctKeys := by
  cases h with
  | tables hkeys h =>
    have hmem := List.mem_of_getLast? hlast
    refine ⟨⟨hkeys sub hmem, h sub hmem⟩, fun t' ht' => ?_⟩
    -- the tables before the last stay, and the new one is distinct by itself
    have hall : ∀ t ∈ items.dropLast ++ [t'], DistinctKeys t := by
      intro t ht
      cases List.mem_append.1 ht with
      | inl ht =>
        have hmem := (List.dropLast_sublist items).mem ht
        exact ⟨hkeys t hmem, h t hmem⟩
      | inr ht => exact List.mem_singleton.1 ht ▸ ht'
    exact .tables (fun t ht => (hall t ht).nodup) fun t ht => (hall t ht).entries

variable {f : Table → Option Table}

/-- A change that keeps keys distinct does so in the last table of an array of tables. -/
theorem put_last (hf : ∀ {t t'}, DistinctKeys t → f t = some t' → DistinctKeys t')
    (h : DistinctKeys t) {items : List Table} (hget : Keyed.get? key t = some (.tables items))
    (hchange : (items.getLast?.bind fun last => (f last).bind fun sub =>
      some (Keyed.put key (.tables (items.dropLast ++ [sub])) t)) = some t') : DistinctKeys t' := by
  obtain ⟨last, hlast, hchange⟩ := Option.bind_eq_some_iff.1 hchange
  obtain ⟨sub, hsub, heq⟩ := Option.bind_eq_some_iff.1 hchange
  obtain rfl := Option.some.inj heq
  obtain ⟨hown, hall⟩ := of_tables (h.of_get? hget) hlast
  exact h.put (hall sub (hf hown hsub)) key

/-- To give a dotted key a value keeps keys distinct. -/
theorem insert {v : Json} (hv : v.DistinctKeys) {path : List String} (h : DistinctKeys t)
    (hinsert : Table.insert v path t = some t') : DistinctKeys t' := by
  -- the path is followed from the outermost key, and what comes back from below is put in its place
  induction path generalizing t t' with
  | nil => exact nomatch hinsert
  | cons key rest ih =>
    cases rest with
    | nil =>
      rw [Table.insert] at hinsert
      split at hinsert
      · exact nomatch hinsert
      · rename_i hnew
        obtain rfl := Option.some.inj hinsert
        exact h.append (by simpa using hnew) (.value hv)
    | cons next rest =>
      rw [Table.insert] at hinsert
      split at hinsert
      · rename_i hget
        obtain ⟨sub, hsub, rfl⟩ := Option.map_eq_some_iff.1 hinsert
        exact h.append hget ((ih nil hsub).table _)
      · exact nomatch hinsert
      · rename_i hget
        obtain ⟨sub, hsub, rfl⟩ := Option.map_eq_some_iff.1 hinsert
        exact h.put ((ih (of_table (h.of_get? hget)) hsub).table _) key
      · rename_i hget
        split at hinsert
        · exact nomatch hinsert
        · exact h.put_last ih hget hinsert
      · exact nomatch hinsert

/-- A change that keeps keys distinct does so in the table under a key. -/
theorem within (hf : ∀ {t t'}, DistinctKeys t → f t = some t' → DistinctKeys t')
    (h : DistinctKeys t) (hwithin : Table.within f key t = some t') : DistinctKeys t' := by
  rw [Table.within] at hwithin
  -- the table is opened empty, or is there, or is the last of an array
  split at hwithin
  · rename_i hget
    obtain ⟨sub, hsub, rfl⟩ := Option.map_eq_some_iff.1 hwithin
    exact h.append hget ((hf nil hsub).table _)
  · rename_i hget
    obtain ⟨sub, hsub, rfl⟩ := Option.map_eq_some_iff.1 hwithin
    exact h.put ((hf (of_table (h.of_get? hget)) hsub).table _) key
  · rename_i hget
    exact h.put_last hf hget hwithin
  · exact nomatch hwithin

/-- A change that keeps keys distinct does so in the table that a path leads to. -/
theorem inside (hf : ∀ {t t'}, DistinctKeys t → f t = some t' → DistinctKeys t')
    {path : List String} (h : DistinctKeys t) (hinside : Table.inside f path t = some t') :
    DistinctKeys t' := by
  induction path generalizing t t' with
  | nil => exact hf h hinside
  | cons key rest ih => exact h.within ih hinside

/-- To open a table keeps keys distinct. -/
theorem openTable (h : DistinctKeys t) (hopen : Table.openTable key t = some t') :
    DistinctKeys t' := by
  rw [Table.openTable] at hopen
  split at hopen
  · rename_i hget
    obtain rfl := Option.some.inj hopen
    exact h.append hget (nil.table _)
  · rename_i hget
    obtain rfl := Option.some.inj hopen
    exact h.put ((of_table (h.of_get? hget)).table _) key
  · exact nomatch hopen

/-- To add a table to an array of tables keeps keys distinct. -/
theorem openItem (h : DistinctKeys t) (hopen : Table.openItem key t = some t') :
    DistinctKeys t' := by
  rw [Table.openItem] at hopen
  -- an array is started with one table, or gets one more
  split at hopen
  · rename_i hget
    obtain rfl := Option.some.inj hopen
    exact h.append hget (.tables (by simp) (by simp))
  · rename_i items hget
    obtain rfl := Option.some.inj hopen
    cases h.of_get? hget with
    | tables hkeys hentries =>
      refine h.put (.tables ?_ ?_) key
      · simpa [or_imp, forall_and] using hkeys
      · simpa [or_imp, forall_and] using hentries
  · exact nomatch hopen

end Table.DistinctKeys

/-! ## Documents -/

/-- All tables of a document have distinct keys. -/
abbrev Document.DistinctKeys (d : Document) : Prop := d.root.DistinctKeys

/-- A statement gives a value that has distinct keys. -/
def Statement.DistinctKeys : Statement → Prop
  | .pair _ v => v.DistinctKeys
  | .table _ | .item _ => True

/-- A statement keeps the keys of a document distinct. -/
theorem Document.DistinctKeys.add {d d' : Document} (h : d.DistinctKeys) {statement : Statement}
    (hstatement : statement.DistinctKeys) (hadd : d.add statement = some d') : d'.DistinctKeys := by
  -- every statement works inside the table that its path or the last heading leads to
  cases statement with
  | pair path v =>
    obtain ⟨root, hroot, heq⟩ := Option.bind_eq_some_iff.1 hadd
    obtain rfl := Option.some.inj heq
    exact Table.DistinctKeys.inside (fun ht => ht.insert hstatement) h hroot
  | table path =>
    obtain ⟨key, _, hadd⟩ := Option.bind_eq_some_iff.1 hadd
    obtain ⟨root, hroot, heq⟩ := Option.bind_eq_some_iff.1 hadd
    obtain rfl := Option.some.inj heq
    exact Table.DistinctKeys.inside (fun ht => ht.openTable) h hroot
  | item path =>
    obtain ⟨key, _, hadd⟩ := Option.bind_eq_some_iff.1 hadd
    obtain ⟨root, hroot, heq⟩ := Option.bind_eq_some_iff.1 hadd
    obtain rfl := Option.some.inj heq
    exact Table.DistinctKeys.inside (fun ht => ht.openItem) h hroot

/-! ## Reading -/

/-- An integer is no table. -/
theorem distinctKeys_intOf? {i : Int} {v : Json} (h : intOf? i = some v) : v.DistinctKeys := by
  unfold intOf? at h
  split at h
  · obtain rfl := Option.some.inj h
    exact .scalar nofun nofun
  · exact nomatch h

/-- Nor is a number in another base than ten. -/
theorem distinctKeys_inBase? {base : Nat} {cs : List Char} {v : Json}
    (h : inBase? base cs = some v) : v.DistinctKeys := by
  obtain ⟨ds, -, h⟩ := Option.bind_eq_some_iff.1 h
  exact distinctKeys_intOf? h

/-- Nor is a decimal. -/
theorem distinctKeys_readFloat? {cs : List Char} {v : Json} (h : readFloat? cs = some v) :
    v.DistinctKeys := by
  unfold readFloat? at h
  generalize Decimal.takeSign cs = signed at h
  obtain ⟨negative, body⟩ := signed
  obtain ⟨ws, -, h⟩ := Option.bind_eq_some_iff.1 h
  obtain ⟨fs, -, h⟩ := Option.bind_eq_some_iff.1 h
  obtain ⟨e, -, h⟩ := Option.bind_eq_some_iff.1 h
  dsimp only at h
  split at h
  · exact nomatch h
  · obtain rfl := Option.some.inj h
    exact .scalar nofun nofun

/-- Nor is a special number. -/
theorem distinctKeys_readSpecial? {cs : List Char} {v : Json} (h : readSpecial? cs = some v) :
    v.DistinctKeys := by
  unfold readSpecial? at h
  simp only at h
  split at h
  · obtain rfl := Option.some.inj h
    exact .scalar nofun nofun
  · obtain rfl := Option.some.inj h
    exact .scalar nofun nofun
  · exact nomatch h

/-- The value of a word is no table and no array. -/
theorem distinctKeys_readWord? {cs : List Char} {v : Json} (h : readWord? cs = some v) :
    v.DistinctKeys := by
  unfold readWord? at h
  -- whatever the word spells, it is a truth value, a number or a date
  split at h
  · obtain rfl := Option.some.inj h
    exact .scalar nofun nofun
  · obtain rfl := Option.some.inj h
    exact .scalar nofun nofun
  · exact distinctKeys_inBase? h
  · exact distinctKeys_inBase? h
  · exact distinctKeys_inBase? h
  · split at h
    · exact distinctKeys_intOf? h
    · simp only [Option.orElse_eq_orElse, Option.orElse_eq_or, Option.or_eq_some_iff] at h
      obtain h | ⟨-, h | ⟨-, h⟩⟩ := h
      · exact distinctKeys_readFloat? h
      · exact distinctKeys_readSpecial? h
      · obtain ⟨s, -, rfl⟩ := Option.map_eq_some_iff.1 h
        exact .scalar nofun nofun

/-- A word on a line, be it with the time of day behind a date, is no table. -/
theorem distinctKeys_readBare? {cs rest : List Char} {v : Json}
    (h : readBare? cs = some (v, rest)) : v.DistinctKeys := by
  have hword : ∀ {word rest' : List Char},
      (readWord? word).map (·, rest') = some (v, rest) → v.DistinctKeys := by
    intro word rest' h
    obtain ⟨w, hw, heq⟩ := Option.map_eq_some_iff.1 h
    obtain ⟨rfl, -⟩ := Prod.mk.inj heq
    exact distinctKeys_readWord? hw
  unfold readBare? at h
  simp only at h
  split at h
  · split at h
    · exact hword h
    · exact hword h
  · exact hword h

/-- What holds of values, of items and of pairs in braces that are read in so many steps. -/
structure ReadDistinct (fuel : Nat) : Prop where
  value : ∀ {room cs v rest}, readValueIn? fuel room cs = some (v, rest) → v.DistinctKeys
  items : ∀ {room out cs v rest}, (∀ w ∈ out, w.DistinctKeys) →
    readItems? fuel room out cs = some (v, rest) → v.DistinctKeys
  pairs : ∀ {room t cs t' rest}, t.DistinctKeys →
    readPairs? fuel room t cs = some (t', rest) → t'.DistinctKeys

/-- The values in an array are those before its last and what is read. -/
theorem distinctKeys_arr_reverse {out : List Json} (h : ∀ w ∈ out, w.DistinctKeys) :
    (Json.arr out.reverse).DistinctKeys :=
  .arr fun v hv => h v (List.mem_reverse.1 hv)

/-- Values that are read have distinct keys, whatever the bound on the steps. -/
theorem readDistinct (fuel : Nat) : ReadDistinct fuel := by
  induction fuel with
  | zero => exact ⟨nofun, nofun, nofun⟩
  | succ fuel ih =>
    constructor
    case value =>
      -- a text, an array, a table in braces or a word
      intro room cs v rest h
      unfold readValueIn? at h
      split at h
      · obtain ⟨p, -, heq⟩ := Option.map_eq_some_iff.1 h
        obtain ⟨rfl, -⟩ := Prod.mk.inj heq
        exact .scalar nofun nofun
      · obtain ⟨p, -, heq⟩ := Option.map_eq_some_iff.1 h
        obtain ⟨rfl, -⟩ := Prod.mk.inj heq
        exact .scalar nofun nofun
      · exact ih.items (by simp) h
      · obtain ⟨⟨t, rest'⟩, ht, heq⟩ := Option.map_eq_some_iff.1 h
        obtain ⟨rfl, -⟩ := Prod.mk.inj heq
        exact (Table.DistinctKeys.table (ih.pairs .nil ht) .dotted).toJson
      · exact distinctKeys_readBare? h
    case items =>
      -- the array ends at once, or behind a value, or goes on
      intro room out cs v rest hout h
      rw [readItems?] at h
      obtain ⟨cs', -, h⟩ := Option.bind_eq_some_iff.1 h
      split at h
      · obtain ⟨rfl, -⟩ := Prod.mk.inj (Option.some.inj h)
        exact distinctKeys_arr_reverse hout
      · obtain ⟨⟨w, cs''⟩, hw, h⟩ := Option.bind_eq_some_iff.1 h
        have hout' : ∀ x ∈ w :: out, x.DistinctKeys :=
          List.forall_mem_cons.2 ⟨ih.value hw, hout⟩
        obtain ⟨more, -, h⟩ := Option.bind_eq_some_iff.1 h
        split at h
        · exact ih.items hout' h
        · obtain ⟨rfl, -⟩ := Prod.mk.inj (Option.some.inj h)
          exact distinctKeys_arr_reverse hout'
        · exact nomatch h
    case pairs =>
      -- the table ends at once, or behind a pair, or goes on
      intro room t cs t' rest ht h
      rw [readPairs?] at h
      obtain ⟨cs', -, h⟩ := Option.bind_eq_some_iff.1 h
      split at h
      · obtain ⟨rfl, -⟩ := Prod.mk.inj (Option.some.inj h)
        exact ht
      · obtain ⟨⟨path, cs''⟩, -, h⟩ := Option.bind_eq_some_iff.1 h
        obtain ⟨behind, -, h⟩ := Option.bind_eq_some_iff.1 h
        split at h
        · obtain ⟨start, -, h⟩ := Option.bind_eq_some_iff.1 h
          obtain ⟨⟨w, more⟩, hw, h⟩ := Option.bind_eq_some_iff.1 h
          obtain ⟨next, hnext, h⟩ := Option.bind_eq_some_iff.1 h
          -- the pair goes into the table, and the value was read with one step less
          have ht' := ht.insert (ih.value hw) hnext
          obtain ⟨more', -, h⟩ := Option.bind_eq_some_iff.1 h
          split at h
          · exact ih.pairs ht' h
          · obtain ⟨rfl, -⟩ := Prod.mk.inj (Option.some.inj h)
            exact ht'
          · exact nomatch h
        · exact nomatch h

/-- The value that a statement gives is one that is read. -/
theorem distinctKeys_readStatement? {cs rest : List Char} {statement : Statement}
    (h : readStatement? cs = some (statement, rest)) : statement.DistinctKeys := by
  unfold readStatement? at h
  -- two kinds of heading, and a key with its value: only the last gives a value
  split at h
  · obtain ⟨⟨path, cs'⟩, -, h⟩ := Option.bind_eq_some_iff.1 h
    dsimp only at h
    split at h
    · obtain ⟨rfl, -⟩ := Prod.mk.inj (Option.some.inj h)
      trivial
    · exact nomatch h
  · obtain ⟨⟨path, cs'⟩, -, h⟩ := Option.bind_eq_some_iff.1 h
    dsimp only at h
    split at h
    · obtain ⟨rfl, -⟩ := Prod.mk.inj (Option.some.inj h)
      trivial
    · exact nomatch h
  · obtain ⟨⟨path, cs'⟩, -, h⟩ := Option.bind_eq_some_iff.1 h
    dsimp only at h
    split at h
    · obtain ⟨⟨v, more⟩, hv, h⟩ := Option.bind_eq_some_iff.1 h
      obtain ⟨rfl, -⟩ := Prod.mk.inj (Option.some.inj h)
      -- the value is the one read behind the sign
      exact (readDistinct _).value hv
    · exact nomatch h

/-- The lines of a document keep its keys distinct. -/
theorem Document.DistinctKeys.readLines? {count : Nat} {d d' : Document} (h : d.DistinctKeys)
    {cs : List Char} (hread : Toml.readLines? count d cs = some d') : d'.DistinctKeys := by
  -- the induction is on the number of lines, and carries the document as read so far
  induction count generalizing d cs with
  | zero => exact nomatch hread
  | succ count ih =>
    cases cs with
    | nil =>
      obtain rfl := Option.some.inj hread
      exact h
    | cons c cs =>
      rw [Toml.readLines?] at hread
      · split at hread
        · exact ih h hread
        · obtain ⟨⟨statement, rest⟩, hstatement, hread⟩ := Option.bind_eq_some_iff.1 hread
          obtain ⟨next, hnext, hread⟩ := Option.bind_eq_some_iff.1 hread
          obtain ⟨more, -, hread⟩ := Option.bind_eq_some_iff.1 hread
          exact ih (h.add (distinctKeys_readStatement? hstatement) hnext) hread
      · exact nofun

/-- All tables of a TOML document have distinct keys. -/
theorem distinctKeys_read? {s : String} {v : Json} (h : read? s = some v) : v.DistinctKeys := by
  obtain ⟨d, hd, rfl⟩ := Option.map_eq_some_iff.1 h
  have hdistinct : d.DistinctKeys := Document.DistinctKeys.readLines? .nil hd
  exact (Table.DistinctKeys.table hdistinct .header).toJson

end Toml

end Plugboard
