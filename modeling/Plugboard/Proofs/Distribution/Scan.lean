import Plugboard.Distribution.Scan
import Plugboard.Proofs.Files
import Plugboard.Proofs.Text.Order

/-!
# What a scan finds

A scan finds the distributions of those folders whose names say that they have one and whose files
can be read (`Installed`), in order of the names. The order in which the file system lists them and
what else there is do not matter: to read one distribution is to look at its own folder only
(`read_congr`), and sorting the names undoes the order of the listing (`folders_congr`).
-/

namespace Plugboard.Distribution

/-! ## Names -/

/-- The file with the headers in a folder with a name. -/
inductive HeaderFile : String → String → Prop where
  | distInfo (stem : String) : HeaderFile (stem ++ ".dist-info") "METADATA"
  | eggInfo (stem : String) : HeaderFile (stem ++ ".egg-info") "PKG-INFO"

/-- No folder name has both endings. -/
theorem endsWith_distInfo_of_eggInfo (stem : String) :
    Text.endsWith ".dist-info" (stem ++ ".egg-info") = false := by
  rw [Bool.eq_false_iff]
  intro h
  obtain ⟨other, hother⟩ := Text.endsWith_iff.1 h
  have hchars := congrArg String.toList hother
  rw [String.toList_append, String.toList_append] at hchars
  -- nine characters from the end one name has a dot and the other a letter
  have hsplit : stem.toList ++ ".egg-info".toList
      = (other.toList ++ ['.']) ++ "dist-info".toList := by
    rw [hchars, List.append_assoc]
    rfl
  have hends : ".egg-info".toList = "dist-info".toList :=
    List.append_inj_right' hsplit (by decide)
  exact absurd hends (by decide)

/-- The file of headers goes by the ending of the folder's name. -/
theorem headerFile?_eq_some_iff {name file : String} :
    headerFile? name = some file ↔ HeaderFile name file := by
  -- the two endings exclude each other, so the order of the tests does not matter
  constructor
  · intro h
    unfold headerFile? at h
    split at h
    · rename_i hend
      obtain ⟨stem, rfl⟩ := Text.endsWith_iff.1 hend
      cases h
      exact .distInfo stem
    · split at h
      · rename_i hend
        obtain ⟨stem, rfl⟩ := Text.endsWith_iff.1 hend
        cases h
        exact .eggInfo stem
      · cases h
  · rintro (stem | stem)
    · rw [headerFile?, if_pos (Text.endsWith_iff.2 ⟨stem, rfl⟩)]
    · rw [headerFile?, endsWith_distInfo_of_eggInfo, if_neg Bool.false_ne_true,
        if_pos (Text.endsWith_iff.2 ⟨stem, rfl⟩)]

/-- A folder has one file of headers at most. -/
theorem HeaderFile.unique {name file file' : String} (h : HeaderFile name file)
    (h' : HeaderFile name file') : file = file' := by
  have heq := headerFile?_eq_some_iff.2 h
  rw [headerFile?_eq_some_iff.2 h'] at heq
  exact (Option.some.inj heq).symm

/-- A folder with headers is none of those that a path names without looking. -/
theorem HeaderFile.name_ne {name file : String} (h : HeaderFile name file) :
    name ≠ "" ∧ name ≠ "." ∧ name ≠ ".." := by
  -- the shorter of the two endings has nine characters
  have hlength : 9 ≤ name.length := by
    cases h <;> rw [String.length_append] <;> exact Nat.le_add_left _ _
  refine ⟨?_, ?_, ?_⟩ <;> rintro rfl <;> exact absurd hlength (by decide)

/-- The path to the file of headers does not leave the folder. -/
theorem HeaderFile.file_plain {name file : String} (h : HeaderFile name file) :
    '/' ∉ file.toList ∧ file ≠ ".." := by
  cases h <;> decide

/-! ## One folder -/

/-- A folder among the entries of a folder has a distribution that can be read. -/
def Installed (files : Files) (root : String) (entries : List (String × Node)) (name : String)
    (d : Distribution) : Prop :=
  ∃ inner file, (name, Node.folder inner) ∈ entries ∧ HeaderFile name file ∧
    read files (joinPath root name) file = .ok d

/-- An entry of a folder has no distribution, or one that cannot be read. -/
inductive Disregarded (files : Files) (root : String) : String × Node → Prop where
  | file (name : String) (contents : ByteArray) : Disregarded files root (name, .file contents)
  | otherName {name : String} (inner : List (String × Node)) (h : ∀ file, ¬HeaderFile name file) :
      Disregarded files root (name, .folder inner)
  | unreadable {name file : String} {e : PluginError} (inner : List (String × Node))
      (h : HeaderFile name file) (hread : read files (joinPath root name) file = .error e) :
      Disregarded files root (name, .folder inner)

/-- Reading a distribution looks at its folder and at nothing else in the file system. -/
theorem read_congr {files files' : Files} {root : String} {entries entries' : List (String × Node)}
    (hlist : files.list root = .ok entries) (hlist' : files'.list root = .ok entries')
    (h : Files.Listing entries) (h' : Files.Listing entries') {name file : String} {node : Node}
    (hmem : (name, node) ∈ entries) (hmem' : (name, node) ∈ entries')
    (hheaders : HeaderFile name file) :
    read files (joinPath root name) file = read files' (joinPath root name) file := by
  -- the headers and the entry points are two files in the one folder
  have htext : ∀ file : String, '/' ∉ file.toList → file ≠ ".." →
      files.readText (joinPath (joinPath root name) file)
        = files'.readText (joinPath (joinPath root name) file) := fun _ =>
    Files.readText_congr hlist hlist' h h' hmem hmem' hheaders.name_ne
  have hentryPoints : readEntryPoints files (joinPath root name)
      = readEntryPoints files' (joinPath root name) := by
    have hfile := htext "entry_points.txt" (by decide) (by decide)
    unfold readEntryPoints
    dsimp only
    rw [hfile]
  have hfile := htext file hheaders.file_plain.1 hheaders.file_plain.2
  unfold read
  dsimp only
  rw [hfile, hentryPoints]

/-- What is left without the error is the value. -/
theorem toOption_eq_some_iff {ε α : Type} {x : Except ε α} {a : α} :
    x.toOption = some a ↔ x = .ok a := by
  cases x <;> simp [Except.toOption]

/-- A visit finds what can be read, and what goes wrong is only noted. -/
theorem visit_result (files : Files) (path headerFile : String) :
    (visit files path headerFile).result = (read files path headerFile).toOption := by
  unfold visit
  cases read files path headerFile <;> rfl

/-! ## All folders -/

/-- Picking things that keep their labels keeps what is between the labels. -/
theorem pairwise_map_filterMap {α β γ : Type} {R : γ → γ → Prop} {f : α → Option β} {g : α → γ}
    {g' : β → γ} (hf : ∀ a b, f a = some b → g' b = g a) {xs : List α}
    (h : (xs.map g).Pairwise R) : ((xs.filterMap f).map g').Pairwise R := by
  rw [List.pairwise_map] at h ⊢
  rw [List.pairwise_filterMap]
  refine h.imp fun hab b hb c hc => ?_
  rwa [hf _ b hb, hf _ c hc]

/-- The folders looked at are those with the name of a distribution. -/
theorem mem_folders_iff {entries : List (String × Node)} {name file : String} :
    (name, file) ∈ folders entries ↔
      HeaderFile name file ∧ ∃ inner, (name, Node.folder inner) ∈ entries := by
  rw [folders, (Text.sortOn_perm _ _).mem_iff, List.mem_filterMap]
  constructor
  · rintro ⟨⟨listed, node⟩, hmem, hsome⟩
    -- a file is passed over, whatever it is called
    cases node with
    | file contents => cases hsome
    | folder inner =>
      obtain ⟨headers, hheaders, heq⟩ := Option.map_eq_some_iff.1 hsome
      cases heq
      exact ⟨headerFile?_eq_some_iff.1 hheaders, inner, hmem⟩
  · rintro ⟨hheaders, inner, hmem⟩
    refine ⟨(name, .folder inner), hmem, ?_⟩
    show (headerFile? name).map (name, ·) = some (name, file)
    rw [headerFile?_eq_some_iff.2 hheaders]
    rfl

/-- They are looked at in order of their names. -/
theorem ascending_folders {entries : List (String × Node)} (h : Files.Listing entries) :
    Text.Ascending ((folders entries).map (·.1)) := by
  refine Text.ascending_sortOn (pairwise_map_filterMap ?_ h.distinct)
  rintro ⟨name, node⟩ folder hsome
  cases node with
  | file contents => cases hsome
  | folder inner =>
    obtain ⟨headers, -, rfl⟩ := Option.map_eq_some_iff.1 hsome
    rfl

/-- The folders of distributions are the same in whatever order they are listed. -/
theorem folders_congr {entries entries' : List (String × Node)} (h : Files.Listing entries)
    (hperm : entries'.Perm entries) : folders entries' = folders entries := by
  refine Text.eq_of_ascending (ascending_folders (h.of_perm hperm)) (ascending_folders h) ?_
  rintro ⟨name, file⟩
  simp only [mem_folders_iff, hperm.mem_iff]

/-- What comes of reading the distributions of a folder one after another. -/
def visits (files : Files) (root : String) (entries : List (String × Node)) :
    List (Traced (Option Distribution)) :=
  (folders entries).map fun (name, file) => visit files (joinPath root name) file

/-- A scan joins what is found and noted on all visits. -/
theorem scan_eq {files : Files} {root : String} {entries : List (String × Node)}
    (hlist : files.list root = .ok entries) :
    scan files root =
      { result := (visits files root entries).filterMap (·.result)
        events := (visits files root entries).flatMap (·.events) } := by
  unfold scan
  rw [hlist]
  rfl

/-- The distributions that a scan finds, with the names of their folders. -/
def found (files : Files) (root : String) (entries : List (String × Node)) :
    List (String × Distribution) :=
  (folders entries).filterMap fun (name, file) =>
    (read files (joinPath root name) file).toOption.map (name, ·)

/-- A scan finds the distributions of the folders that can be read. -/
theorem scan_result {files : Files} {root : String} {entries : List (String × Node)}
    (hlist : files.list root = .ok entries) :
    (scan files root).result = (found files root entries).map (·.2) := by
  rw [scan_eq hlist]
  simp [visits, found, List.filterMap_map, List.map_filterMap, Function.comp_def, visit_result]

/-- They are found in order of the names of their folders. -/
theorem ascending_found (files : Files) (root : String) {entries : List (String × Node)}
    (h : Files.Listing entries) : Text.Ascending ((found files root entries).map (·.1)) := by
  refine pairwise_map_filterMap ?_ (ascending_folders h)
  rintro ⟨name, file⟩ pair hsome
  obtain ⟨d, -, rfl⟩ := Option.map_eq_some_iff.1 hsome
  rfl

/-- What is found is what is installed. -/
theorem mem_found_iff {files : Files} {root : String} {entries : List (String × Node)}
    {name : String} {d : Distribution} :
    (name, d) ∈ found files root entries ↔ Installed files root entries name d := by
  rw [found, List.mem_filterMap]
  constructor
  · rintro ⟨⟨listed, file⟩, hmem, hsome⟩
    obtain ⟨hheaders, inner, hfolder⟩ := mem_folders_iff.1 hmem
    obtain ⟨_, hread, heq⟩ := Option.map_eq_some_iff.1 hsome
    cases heq
    exact ⟨inner, file, hfolder, hheaders, toOption_eq_some_iff.1 hread⟩
  · rintro ⟨inner, file, hfolder, hheaders, hread⟩
    refine ⟨(name, file), mem_folders_iff.2 ⟨hheaders, inner, hfolder⟩, ?_⟩
    show (read files (joinPath root name) file).toOption.map (name, ·) = some (name, d)
    rw [hread]
    rfl

/-- What is disregarded has no distribution. -/
theorem Disregarded.not_installed {files : Files} {root : String} {extra : List (String × Node)}
    (h : ∀ entry ∈ extra, Disregarded files root entry) {name : String} {d : Distribution} :
    ¬Installed files root extra name d := by
  rintro ⟨inner, file, hmem, hheaders, hread⟩
  cases h _ hmem with
  | otherName _ hother => exact hother file hheaders
  | unreadable _ hunread herror =>
    rw [hheaders.unique hunread, herror] at hread
    cases hread

/-- Reading one folder after another goes the same way however they are listed. -/
theorem visits_congr {files files' : Files} {root : String}
    {entries entries' : List (String × Node)} (hlist : files.list root = .ok entries)
    (hlist' : files'.list root = .ok entries') (h : Files.Listing entries)
    (hperm : entries'.Perm entries) :
    visits files' root entries' = visits files root entries := by
  unfold visits
  rw [folders_congr h hperm]
  refine List.map_congr_left ?_
  -- the same folders are visited in the same order, and each is read the same
  rintro ⟨name, file⟩ hfolder
  obtain ⟨hheaders, inner, hmem⟩ := mem_folders_iff.1 hfolder
  have hmem' : (name, Node.folder inner) ∈ entries' := hperm.mem_iff.2 hmem
  show visit files' (joinPath root name) file = visit files (joinPath root name) file
  unfold visit
  rw [read_congr hlist' hlist (h.of_perm hperm) h hmem' hmem hheaders]

/-- Entries without a readable distribution do not change what is found. -/
theorem found_congr {files files' : Files} {root : String}
    {entries entries' extra : List (String × Node)} (hlist : files.list root = .ok entries)
    (hlist' : files'.list root = .ok entries') (h : Files.Listing entries)
    (h' : Files.Listing entries') (hperm : entries'.Perm (extra ++ entries))
    (hextra : ∀ entry ∈ extra, Disregarded files' root entry) :
    found files' root entries' = found files root entries := by
  -- both lists are ascending, so that what is in them is all there is to compare
  refine Text.eq_of_ascending (ascending_found files' root h') (ascending_found files root h) ?_
  rintro ⟨name, d⟩
  rw [mem_found_iff, mem_found_iff]
  constructor
  · rintro ⟨inner, file, hmem', hheaders, hread⟩
    -- a folder that is new and has a distribution is among those that have none
    rcases List.mem_append.1 (hperm.mem_iff.1 hmem') with hmem | hmem
    · exact absurd ⟨inner, file, hmem, hheaders, hread⟩ (Disregarded.not_installed hextra)
    · rw [read_congr hlist' hlist h' h hmem' hmem hheaders] at hread
      exact ⟨inner, file, hmem, hheaders, hread⟩
  · rintro ⟨inner, file, hmem, hheaders, hread⟩
    have hmem' : (name, Node.folder inner) ∈ entries' :=
      hperm.mem_iff.2 (List.mem_append_right _ hmem)
    rw [read_congr hlist hlist' h h' hmem hmem' hheaders] at hread
    exact ⟨inner, file, hmem', hheaders, hread⟩

/-- A scan of a folder finds the distributions of those folders in it that are named for one and can
    be read, in bytewise order of the names. However the folder is listed, the scan goes the same
    way, and entries without a readable distribution do not change what it finds. -/
theorem scan_by_names (files : Files) (root : String) (entries : List (String × Node))
    (hlist : files.list root = .ok entries) (h : Files.Listing entries) :
    (∃ found : List (String × Distribution),
      (scan files root).result = found.map (·.2) ∧ Text.Ascending (found.map (·.1)) ∧
        ∀ name d, (name, d) ∈ found ↔ Installed files root entries name d) ∧
    (∀ (files' : Files) (entries' : List (String × Node)), files'.list root = .ok entries' →
      entries'.Perm entries → scan files' root = scan files root) ∧
    ∀ (files' : Files) (entries' extra : List (String × Node)), files'.list root = .ok entries' →
      Files.Listing entries' → entries'.Perm (extra ++ entries) →
      (∀ entry ∈ extra, Disregarded files' root entry) →
      (scan files' root).result = (scan files root).result := by
  refine ⟨⟨found files root entries, scan_result hlist, ascending_found files root h,
    fun _ _ => mem_found_iff⟩, ?_, ?_⟩
  · intro files' entries' hlist' hperm
    rw [scan_eq hlist, scan_eq hlist', visits_congr hlist hlist' h hperm]
  · intro files' entries' extra hlist' h' hperm hextra
    rw [scan_result hlist, scan_result hlist', found_congr hlist hlist' h h' hperm hextra]

/-- The files of a program that has one folder, for plugins, with some entries. -/
def shelf (entries : List (String × Node)) : Files :=
  { root := .folder [("plugins", .folder entries)] }

/-- A folder with a distribution of a name. -/
def zetaFolder : String × Node :=
  ("zeta-1.dist-info", .folder [("METADATA", .file "Name: zeta\nVersion: 1\n".toUTF8)])

/-- A folder with a distribution of another name, as older tools leave it. -/
def alphaFolder : String × Node :=
  ("alpha-2.egg-info", .folder [("PKG-INFO", .file "Name: alpha\nVersion: 2\n".toUTF8)])

/-- A folder that is named for a distribution and is empty. -/
def emptyFolder : String × Node := ("gone-3.dist-info", .folder [])

/-- A file beside the folders. -/
def noteFile : String × Node := ("notes.txt", .file "see above".toUTF8)

/-- The two distributions of a shelf are found however it is listed, and no others beside them. -/
theorem scan_by_names_shelf :
    (shelf [zetaFolder, alphaFolder]).list "plugins" = .ok [zetaFolder, alphaFolder] ∧
      Files.Listing [zetaFolder, alphaFolder] ∧
      (scan (shelf [noteFile, zetaFolder, emptyFolder, alphaFolder]) "plugins").result
        = (scan (shelf [zetaFolder, alphaFolder]) "plugins").result ∧
      ∃ d ∈ (scan (shelf [zetaFolder, alphaFolder]) "plugins").result, d.name = "zeta" := by
  have hlist : (shelf [zetaFolder, alphaFolder]).list "plugins"
      = .ok [zetaFolder, alphaFolder] := rfl
  have h : Files.Listing [zetaFolder, alphaFolder] := ⟨by decide, by decide⟩
  have h' : Files.Listing [noteFile, zetaFolder, emptyFolder, alphaFolder] :=
    ⟨by decide, by decide⟩
  have hunread : read (shelf [noteFile, zetaFolder, emptyFolder, alphaFolder])
      (joinPath "plugins" "gone-3.dist-info") "METADATA"
      = .error (.badMetadata "plugins/gone-3.dist-info/METADATA" FileError.notFound.message) := rfl
  -- a file, and a folder without headers: nothing comes of either
  have hextra : ∀ entry ∈ [noteFile, emptyFolder],
      Disregarded (shelf [noteFile, zetaFolder, emptyFolder, alphaFolder]) "plugins" entry :=
    List.forall_mem_cons.2 ⟨.file _ _,
      List.forall_mem_singleton.2 (.unreadable [] (.distInfo "gone-3") hunread)⟩
  have hname : (read (shelf [zetaFolder, alphaFolder]) (joinPath "plugins" "zeta-1.dist-info")
      "METADATA").toOption.map (·.name) = some "zeta" := by decide +kernel
  obtain ⟨d, hread, hd⟩ := Option.map_eq_some_iff.1 hname
  obtain ⟨⟨found, hresult, -, hmem⟩, -, hadd⟩ :=
    scan_by_names (shelf [zetaFolder, alphaFolder]) "plugins" _ hlist h
  have hzeta : ("zeta-1.dist-info", d) ∈ found :=
    (hmem _ d).2 ⟨_, _, List.mem_cons_self, .distInfo "zeta-1", toOption_eq_some_iff.1 hread⟩
  refine ⟨hlist, h, hadd _ _ [noteFile, emptyFolder] rfl h' (.cons _ (.swap _ _ _)) hextra, d, ?_,
    hd⟩
  rw [hresult]
  exact List.mem_map.2 ⟨_, hzeta, rfl⟩

end Plugboard.Distribution
