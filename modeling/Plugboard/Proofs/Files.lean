import Mathlib.Tactic.SplitIfs
import Plugboard.Files
import Plugboard.Proofs.Text.Lines

/-!
# Paths below a folder

A path that goes on below a folder is followed from that folder. How the folder was reached matters
only to a path that goes back up (`Node.walk_append`); what any other path leads to is told by the
text of the path and by what the folder lists (`Files.find_joinPath`).
-/

namespace Plugboard

namespace Node

/-- What a folder has under a name. -/
def child (entries : List (String × Node)) (name : String) : Except FileError Node :=
  if 255 < name.utf8ByteSize then .error .nameTooLong
  else match entries.lookup name with
    | some node => .ok node
    | none => .error .notFound

/-- A step of a walk stays in the folder, goes up or goes down. -/
theorem walk_folder_cons (above : List Node) (entries : List (String × Node)) (part : String)
    (rest : List String) :
    walk above (.folder entries) (part :: rest) =
      if part = "" ∨ part = "." then walk above (.folder entries) rest
      else if part = ".." then walk above.tail (above.headD (.folder entries)) rest
      else (child entries part).bind (walk (.folder entries :: above) · rest) := by
  simp only [walk, child]
  split
  · rfl
  · split
    · cases above <;> rfl
    · split
      · rfl
      · cases entries.lookup part <;> rfl

/-- The folders above do not matter to a path that does not go back up. -/
theorem walk_congr {names : List String} (h : ".." ∉ names) (above above' : List Node)
    (node : Node) : walk above node names = walk above' node names := by
  induction names generalizing above above' node with
  | nil => rfl
  | cons name rest ih =>
    obtain ⟨hname, hrest⟩ := List.ne_and_not_mem_of_not_mem_cons h
    -- a file ends the walk, and a folder is only ever gone into
    cases node with
    | file contents => rfl
    | folder entries =>
      rw [walk_folder_cons, walk_folder_cons, if_neg hname.symm, if_neg hname.symm]
      split
      · exact ih hrest _ _ _
      · cases child entries name with
        | error e => rfl
        | ok node => exact ih hrest _ _ _

/-- A path is followed up to where its first part leads, and its second part from there. -/
theorem walk_append {names : List String} (h : ".." ∉ names) (above : List Node) (node : Node)
    (parts : List String) :
    walk above node (parts ++ names) = (walk above node parts).bind (walk [] · names) := by
  -- induction on the first part, which may go up and down as it likes
  induction parts generalizing above node with
  | nil => exact walk_congr h above [] node
  | cons part rest ih =>
    cases node with
    | file contents => rfl
    | folder entries =>
      rw [List.cons_append, walk_folder_cons, walk_folder_cons]
      split
      · exact ih _ _
      · split
        · exact ih _ _
        · cases child entries part with
          | error e => rfl
          | ok node => exact ih _ _

/-- What a name leads to is told by what the folder has under it. -/
theorem walk_folder_congr {entries entries' : List (String × Node)} {name : String}
    (hname : name ≠ "" ∧ name ≠ "." ∧ name ≠ "..")
    (hlookup : entries.lookup name = entries'.lookup name) {rest : List String}
    (hrest : ".." ∉ rest) :
    walk [] (.folder entries) (name :: rest) = walk [] (.folder entries') (name :: rest) := by
  obtain ⟨hempty, hdot, hup⟩ := hname
  have hchild : child entries name = child entries' name := by
    rw [child, child, hlookup]
  -- a name that stays or goes up would show more of the folder than what is under it
  rw [walk_folder_cons, walk_folder_cons, if_neg (not_or.2 ⟨hempty, hdot⟩), if_neg hup,
    if_neg (not_or.2 ⟨hempty, hdot⟩), if_neg hup, hchild]
  cases child entries' name with
  | error e => rfl
  | ok node => exact walk_congr hrest _ _ _

/-- An empty name stays in the folder. -/
theorem eq_of_bind_walk_empty {found : Except FileError Node} {entries : List (String × Node)}
    (h : found.bind (walk [] · [""]) = .ok (.folder entries)) : found = .ok (.folder entries) := by
  cases found with
  | error e => cases h
  | ok node =>
    cases node with
    | file contents => cases h
    | folder listed => exact h

end Node

/-! ## Joining paths -/

/-- A text without slashes does not start with one. -/
theorem startsWith_slash_of_not_mem {s : String} (h : '/' ∉ s.toList) :
    Text.startsWith "/" s = false := by
  unfold Text.startsWith
  cases hcs : s.toList with
  | nil => rfl
  | cons c rest =>
    -- only the first character counts
    have hc : '/' ≠ c := fun hc => h (hcs ▸ hc ▸ List.mem_cons_self)
    show ('/' == c && List.isPrefixOf [] rest) = false
    simp [hc]

/-- What a text begins with is not changed by what is put after it. -/
theorem startsWith_slash_append {s : String} (hs : s ≠ "") (t : String) :
    Text.startsWith "/" (s ++ t) = Text.startsWith "/" s := by
  unfold Text.startsWith
  cases hcs : s.toList with
  | nil => exact absurd (String.toList_eq_nil_iff.1 hcs) hs
  | cons c rest =>
    rw [String.toList_append, hcs]
    show ('/' == c && List.isPrefixOf [] (rest ++ t.toList)) = ('/' == c && List.isPrefixOf [] rest)
    rw [List.isPrefixOf, List.isPrefixOf]

/-- What a text ends with is not changed by what is put before it. -/
theorem endsWith_slash_append {t : String} (ht : t ≠ "") (hslash : '/' ∉ t.toList) (s : String) :
    Text.endsWith "/" (s ++ t) = false := by
  rw [Bool.eq_false_iff]
  intro h
  obtain ⟨stem, hstem⟩ := Text.endsWith_iff.1 h
  have hstem := congrArg String.toList hstem
  rw [String.toList_append, String.toList_append] at hstem
  -- the last character of both sides is that of the second text
  have hlast : t.toList.getLast? = some '/' := by
    have happend := congrArg List.getLast? hstem
    rw [List.getLast?_append, List.getLast?_append] at happend
    cases hts : t.toList.getLast? with
    | none => exact absurd (String.toList_eq_nil_iff.1 (List.getLast?_eq_none_iff.1 hts)) ht
    | some c => simpa [hts] using happend
  exact hslash (List.mem_of_getLast? hlast)

/-- A path to a folder with the separator that stands before what is in the folder. -/
def asFolder (path : String) : String :=
  if path = "" ∨ Text.endsWith "/" path = true then path else path ++ "/"

/-- A relative path is put after the path of its folder. -/
theorem joinPath_eq {more : String} (h : Text.startsWith "/" more = false) (path : String) :
    joinPath path more = asFolder path ++ more := by
  unfold joinPath asFolder
  by_cases hempty : path = ""
  · simp [hempty]
  · cases Text.endsWith "/" path <;> simp [h, hempty]

/-- A path that ends in a name gets a slash behind it. -/
theorem asFolder_append {name : String} (hname : name ≠ "") (hslash : '/' ∉ name.toList)
    (before : String) : asFolder (before ++ name) = before ++ name ++ "/" := by
  have hne : before ++ name ≠ "" := fun h => hname (String.append_eq_empty_iff.1 h).2
  simp [asFolder, hne, endsWith_slash_append hname hslash]

/-- Two names are joined by one slash. -/
theorem joinPath_names {name file : String} (hname : name ≠ "") (hslash : '/' ∉ name.toList)
    (hfile : '/' ∉ file.toList) : joinPath name file = name ++ "/" ++ file := by
  have hfolder : asFolder ("" ++ name) = "" ++ name ++ "/" := asFolder_append hname hslash ""
  rw [String.empty_append] at hfolder
  rw [joinPath_eq (startsWith_slash_of_not_mem hfile), hfolder]

/-- Names joined are no path from the root. -/
theorem startsWith_slash_joinPath_names {name file : String} (hname : name ≠ "")
    (hslash : '/' ∉ name.toList) (hfile : '/' ∉ file.toList) :
    Text.startsWith "/" (joinPath name file) = false := by
  rw [joinPath_names hname hslash hfile, String.append_assoc, startsWith_slash_append hname,
    startsWith_slash_of_not_mem hslash]

/-- To go on by a name and then by another is to go on by the path of the two. -/
theorem joinPath_joinPath {name file : String} (hname : name ≠ "") (hslash : '/' ∉ name.toList)
    (hfile : '/' ∉ file.toList) (path : String) :
    joinPath (joinPath path name) file = joinPath path (joinPath name file) := by
  have hstart := startsWith_slash_joinPath_names hname hslash hfile
  calc joinPath (joinPath path name) file
      = asFolder (asFolder path ++ name) ++ file := by
        rw [joinPath_eq (startsWith_slash_of_not_mem hfile),
          joinPath_eq (startsWith_slash_of_not_mem hslash)]
    _ = asFolder path ++ (name ++ "/" ++ file) := by
        simp only [asFolder_append hname hslash, String.append_assoc]
    _ = joinPath path (joinPath name file) := by
        rw [joinPath_eq hstart, joinPath_names hname hslash hfile]

/-- Names joined by a slash are the parts at the slash. -/
theorem splitAll_joinPath_names {name file : String} (hname : name ≠ "")
    (hslash : '/' ∉ name.toList) (hfile : '/' ∉ file.toList) :
    Text.splitAll '/' (joinPath name file) = [name, file] := by
  have hchars : (joinPath name file).toList = name.toList ++ '/' :: file.toList := by
    simp [joinPath_names hname hslash hfile]
  rw [Text.splitAll, hchars, Text.splitChars_append_cons, Text.splitChars_of_not_mem hslash,
    Text.splitChars_of_not_mem hfile]
  simp

/-- A path ends with the separator or can do without it. -/
theorem toList_asFolder {path : String} (h : path ≠ "") :
    ∃ stem, (asFolder path).toList = stem ++ ['/'] ∧
      (path.toList = stem ∨ path.toList = stem ++ ['/']) := by
  unfold asFolder
  by_cases hend : Text.endsWith "/" path = true
  · obtain ⟨stem, hstem⟩ := Text.endsWith_iff.1 hend
    rw [if_pos (.inr hend), hstem, String.toList_append]
    exact ⟨stem.toList, rfl, .inr rfl⟩
  · refine ⟨path.toList, ?_, .inl rfl⟩
    rw [if_neg (not_or.2 ⟨h, hend⟩), String.toList_append]
    rfl

/-- What goes on below a folder starts from the root if the folder does. -/
theorem startsWith_slash_asFolder_append {path : String} (h : path ≠ "") (more : String) :
    Text.startsWith "/" (asFolder path ++ more) = Text.startsWith "/" path := by
  unfold asFolder
  split_ifs
  · exact startsWith_slash_append h more
  · rw [String.append_assoc, startsWith_slash_append h]

/-! ## Following paths -/

namespace Files

/-- Why a path is not followed at all, if it is not. -/
def refusal? (path : String) : Option FileError :=
  if path.toList.contains '\x00' then some .zeroInName
  else if path = "" then some .notFound
  else if 4096 ≤ path.utf8ByteSize then some .nameTooLong
  else none

/-- The names that lead to where a path begins. -/
def start (files : Files) (path : String) : List String :=
  if Text.startsWith "/" path then [] else files.current

/-- A path that is not refused is walked from its start, part by part. -/
theorem find_eq (files : Files) (path : String) :
    files.find path = match refusal? path with
      | some e => .error e
      | none => Node.walk [] files.root (files.start path ++ Text.splitAll '/' path) := by
  unfold find refusal? start
  split_ifs <;> rfl

/-- What is listed is a folder. -/
theorem list_eq_ok_iff {files : Files} {path : String} {entries : List (String × Node)} :
    files.list path = .ok entries ↔ files.find path = .ok (.folder entries) := by
  unfold list
  cases files.find path with
  | error e => simp
  | ok node => cases node <;> simp

section Listed

variable {files : Files} {path : String} {entries : List (String × Node)}
  (hlist : files.list path = .ok entries)
include hlist

/-- The path of a folder that is listed is not refused. -/
theorem refusal?_of_list : refusal? path = none := by
  have hfind := list_eq_ok_iff.1 hlist
  rw [find_eq] at hfind
  cases h : refusal? path with
  | none => rfl
  | some e => simp [h] at hfind

/-- Nor is it empty. -/
theorem ne_empty_of_list : path ≠ "" := by
  rintro rfl
  exact absurd (refusal?_of_list hlist) (by decide)

/-- A path that leads to a folder consists of parts that lead there, and what goes on from it has
    these before its own. -/
theorem exists_parts_of_list :
    ∃ parts, Node.walk [] files.root (files.start path ++ parts) = .ok (.folder entries) ∧
      ∀ more, Text.splitAll '/' (asFolder path ++ more) = parts ++ Text.splitAll '/' more := by
  have hfind := list_eq_ok_iff.1 hlist
  rw [find_eq, refusal?_of_list hlist] at hfind
  obtain ⟨stem, hfolder, hstem⟩ := toList_asFolder (ne_empty_of_list hlist)
  refine ⟨(Text.splitChars '/' stem).map .ofList, ?_, fun more => ?_⟩
  · rcases hstem with hstem | hstem
    · rwa [Text.splitAll, hstem] at hfind
    · -- a slash at the end leaves an empty part behind, which stays where it is
      have hparts : Text.splitAll '/' path = (Text.splitChars '/' stem).map .ofList ++ [""] := by
        simp [Text.splitAll, hstem, Text.splitChars_append_cons, Text.splitChars]
      rw [hparts, ← List.append_assoc, Node.walk_append (by decide)] at hfind
      exact Node.eq_of_bind_walk_empty hfind
  · simp [Text.splitAll, hfolder, Text.splitChars_append_cons]

/-- What a path leads to that goes on from a folder and not back up. -/
theorem find_joinPath {more : String} (hstart : Text.startsWith "/" more = false)
    (hup : ".." ∉ Text.splitAll '/' more) :
    files.find (joinPath path more) = match refusal? (joinPath path more) with
      | some e => .error e
      | none => Node.walk [] (.folder entries) (Text.splitAll '/' more) := by
  obtain ⟨parts, hwalk, hsplit⟩ := exists_parts_of_list hlist
  have hbegin : files.start (asFolder path ++ more) = files.start path := by
    rw [start, start, startsWith_slash_asFolder_append (ne_empty_of_list hlist)]
  rw [joinPath_eq hstart, find_eq, hbegin, hsplit, ← List.append_assoc, Node.walk_append hup, hwalk]
  rfl

end Listed

/-- What a folder holds as a file system lists it: each name is there once, and none has the
    separator of a path in it. -/
structure Listing (entries : List (String × Node)) : Prop where
  distinct : (entries.map (·.1)).Nodup
  plain : ∀ entry ∈ entries, '/' ∉ entry.1.toList

/-- In a listing every entry is found under its name. -/
theorem Listing.lookup_eq {entries : List (String × Node)} (h : Listing entries) {name : String}
    {node : Node} (hmem : (name, node) ∈ entries) : entries.lookup name = some node := by
  obtain ⟨before, after, rfl⟩ := List.append_of_mem hmem
  -- no entry before this one has the name, so that the search gets here
  have hname : name ∉ before.map (·.1) := fun hbefore => by
    have hnodup := h.distinct
    rw [List.map_append, List.nodup_append] at hnodup
    exact hnodup.2.2 name hbefore name List.mem_cons_self rfl
  refine List.lookup_eq_some_iff.2 ⟨before, after, rfl, fun entry hentry => ?_⟩
  simpa using fun heq => hname (List.mem_map.2 ⟨entry, hentry, heq.symm⟩)

/-- The same entries in another order are a listing too. -/
theorem Listing.of_perm {entries entries' : List (String × Node)} (h : Listing entries)
    (hperm : entries'.Perm entries) : Listing entries' where
  distinct := (hperm.map _).nodup_iff.2 h.distinct
  plain entry hentry := h.plain entry (hperm.mem_iff.1 hentry)

/-- The text of a file in a folder in a listed folder is told by the path and by the folder that is
    listed under the name. -/
theorem readText_congr {files files' : Files} {path : String}
    {entries entries' : List (String × Node)} (hlist : files.list path = .ok entries)
    (hlist' : files'.list path = .ok entries') (h : Listing entries) (h' : Listing entries')
    {name : String} {node : Node} (hmem : (name, node) ∈ entries) (hmem' : (name, node) ∈ entries')
    (hname : name ≠ "" ∧ name ≠ "." ∧ name ≠ "..") {file : String} (hfile : '/' ∉ file.toList)
    (hup : file ≠ "..") :
    files.readText (joinPath (joinPath path name) file)
      = files'.readText (joinPath (joinPath path name) file) := by
  have hslash : '/' ∉ name.toList := h.plain _ hmem
  -- seen from the listed folder the file is two names away, and only the first looks at the list
  have hsplit := splitAll_joinPath_names hname.1 hslash hfile
  have hstart := startsWith_slash_joinPath_names hname.1 hslash hfile
  have hnoUp : ".." ∉ Text.splitAll '/' (joinPath name file) := by
    simp [hsplit, hname.2.2.symm, hup.symm]
  have hwalk : Node.walk [] (.folder entries) [name, file]
      = Node.walk [] (.folder entries') [name, file] :=
    Node.walk_folder_congr hname ((h.lookup_eq hmem).trans (h'.lookup_eq hmem').symm)
      (by simp [hup.symm])
  have hfind : files.find (joinPath (joinPath path name) file)
      = files'.find (joinPath (joinPath path name) file) := by
    rw [joinPath_joinPath hname.1 hslash hfile, find_joinPath hlist hstart hnoUp,
      find_joinPath hlist' hstart hnoUp, hsplit, hwalk]
  unfold readText readBytes
  rw [hfind]

end Files

end Plugboard
