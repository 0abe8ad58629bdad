import Mathlib
import TextChunking.Proofs.Files.Dots
import TextChunking.Proofs.Files.Reordering
import TextChunking.Proofs.Ingest.Delivery
/-!
# Which files are found

`Discovery.IsFoundAt` says of the place of a file below a root whether the file is found: from the directories on the
way and from the file itself, without a word on how the tree is searched. **Theorem** (`files_spec`): of every
directory exactly these files are found, each once and in the order of their paths (`Discovery.Finds`); a file that is
an input itself is taken as it is; and the order in which directories are listed makes no difference.

The search is a recursion over entries, and so is its account (`mem_foundIn`): a place below a directory is one of its
entries, or a place below one of them (`isFoundAt_cons`). There is only one list of such files (`Finds.unique`), and
what it holds is not changed by another order of entries (`IsFoundAt.of_reordered`).
-/

namespace TextChunking

namespace Discovery

/-! ### Directories and files -/

/-- A directory that is entered: it is not hidden, no pattern excludes it, and it can be listed. -/
structure IsEntered (discovery : Discovery) (tree : Tree) (path : Path) (name : String) : Prop where
  visible : name.toList.head? ≠ some '.'
  kept : ∀ glob ∈ discovery.excluded, glob.isMatch path = false
  listable : tree.faultBelow? .list path = none

/-- A file that is selected: it is not too large, as far as it can be looked at to tell, its path or its name is
included, and no pattern excludes it. -/
structure IsSelected (discovery : Discovery) (tree : Tree) (path : Path) (name : String) (id : Nat) : Prop where
  size_le : tree.faultBelow? .look path = none → (tree.bytesOf id).size ≤ discovery.maxBytes
  included : discovery.included = [] ∨
    ∃ glob ∈ discovery.included, glob.isMatch path = true ∨ glob.isMatch name = true
  kept : ∀ glob ∈ discovery.excluded, glob.isMatch path = false

/-- A place below a root with a selected file, such that all directories on the way to it are entered. The root itself
is not asked. -/
structure IsFoundAt (discovery : Discovery) (tree : Tree) (root : Path) (entries : Entries)
    (directory : List String) (name : String) : Prop where
  entered : ∀ outer inner, outer ++ [inner] <+: directory →
    discovery.IsEntered tree (root.below (outer ++ [inner])) inner
  selected : ∃ id, entries.node? directory name = some (.file id) ∧
    discovery.IsSelected tree (root.below (directory ++ [name])) name id

variable {discovery : Discovery} {tree : Tree} {root path : Path} {entries : Entries} {name : String}

/-- A path is not excluded exactly if none of the patterns matches it. -/
theorem excludes_eq_false_iff :
    discovery.excludes path = false ↔ ∀ glob ∈ discovery.excluded, glob.isMatch path = false := by
  simp [excludes]

/-- A directory is entered exactly if the search would enter it by its name and the system lets it be listed. -/
theorem isEntered_iff :
    discovery.IsEntered tree path name ↔
      discovery.enters path name = true ∧ tree.faultBelow? .list path = none := by
  simp only [enters, Bool.and_eq_true, bne_iff_ne, Bool.not_eq_true', excludes_eq_false_iff]
  exact ⟨fun h => ⟨⟨h.visible, h.kept⟩, h.listable⟩, fun h => ⟨h.1.1, h.1.2, h.2⟩⟩

/-- The declared selection is the test that the search makes of a file. -/
theorem isSelected_iff {id : Nat} :
    discovery.IsSelected tree path name id ↔ discovery.selects path name (tree.sizeBelow? path id) = true := by
  have hsize : (tree.sizeBelow? path id).all (fun size => size ≤ discovery.maxBytes) = true ↔
      (tree.faultBelow? .look path = none → (tree.bytesOf id).size ≤ discovery.maxBytes) := by
    rw [Tree.sizeBelow?]
    cases tree.faultBelow? .look path <;> simp
  simp only [selects, includes, Bool.and_eq_true, Bool.not_eq_true', excludes_eq_false_iff, hsize]
  simp only [Bool.or_eq_true, List.isEmpty_iff, List.any_eq_true]
  exact ⟨fun h => ⟨⟨h.size_le, h.included⟩, h.kept⟩, fun h => ⟨h.1.1, h.1.2, h.2⟩⟩

/-! ### Places below entries -/

/-- A file among the entries of the root. -/
theorem isFoundAt_nil : discovery.IsFoundAt tree root entries [] name ↔
    ∃ id, entries.get? name = some (.file id) ∧ discovery.IsSelected tree (root.join name) name id := by
  refine ⟨fun h => h.selected, fun h => ⟨fun outer inner hprefix => ?_, h⟩⟩
  simp at hprefix

/-- A file below an entry of the root. -/
theorem isFoundAt_cons {first : String} {rest : List String} :
    discovery.IsFoundAt tree root entries (first :: rest) name ↔
      ∃ inner, entries.get? first = some (.directory inner) ∧ discovery.IsEntered tree (root.join first) first ∧
        discovery.IsFoundAt tree (root.join first) inner rest name := by
  constructor
  · rintro ⟨hentered, id, hnode, hselected⟩
    rw [Entries.node?_cons] at hnode
    split at hnode
    · rename_i inner hinner
      refine ⟨inner, hinner, hentered [] first (by simp), fun outer next hprefix => ?_, id, hnode, hselected⟩
      exact hentered (first :: outer) next (by simpa using hprefix)
    · cases hnode
  · rintro ⟨inner, hinner, hfirst, hrest⟩
    obtain ⟨id, hnode, hselected⟩ := hrest.selected
    refine ⟨fun outer next hprefix => ?_, id, ?_, hselected⟩
    · cases outer with
      | nil =>
        obtain rfl : next = first := by simpa using hprefix
        exact hfirst
      | cons other outer =>
        rw [List.cons_append] at hprefix
        obtain ⟨rfl, hinside⟩ := List.cons_prefix_cons.mp hprefix
        exact hrest.entered outer next hinside
    · rw [Entries.node?_cons, hinner]
      exact hnode

/-- The name of the first entry on the way to a place. -/
theorem IsFoundAt.isSome_get? {directory : List String} (h : discovery.IsFoundAt tree root entries directory name) :
    (entries.get? ((directory ++ [name]).head (by simp))).isSome := by
  cases directory with
  | nil =>
    obtain ⟨id, hfile, -⟩ := isFoundAt_nil.mp h
    simp [hfile]
  | cons first rest =>
    obtain ⟨inner, hinner, -⟩ := isFoundAt_cons.mp h
    simp [hinner]

/-! ### The search -/

/-- The files that are found below a root, in the order of the listings. -/
def foundIn (discovery : Discovery) (tree : Tree) (root : Path) (entries : Entries) : List Path :=
  (discovery.findingsIn tree root entries).filterMap Finding.file?

/-- What is found at or below one entry. -/
def foundAt (discovery : Discovery) (tree : Tree) (root : Path) (name : String) (node : Node) : List Path :=
  (discovery.findingsAt tree (root.join name) name node).filterMap Finding.file?

/-- What is found among entries is found at the first one or among the others. -/
theorem foundIn_cons (node : Node) (rest : Entries) :
    discovery.foundIn tree root ((name, node) :: rest) =
      discovery.foundAt tree root name node ++ discovery.foundIn tree root rest := by
  rw [foundIn, findingsIn, List.filterMap_append]
  rfl

/-- At a file, it is the file that is found, if it is selected. -/
theorem foundAt_file (id : Nat) : discovery.foundAt tree root name (.file id) =
    if discovery.selects (root.join name) name (tree.sizeBelow? (root.join name) id) then [root.join name] else [] := by
  rw [foundAt, findingsAt]
  split <;> rfl

/-- At a directory, all is found that is found in it, if it is entered at all. -/
theorem foundAt_directory (inner : Entries) : discovery.foundAt tree root name (.directory inner) =
    if discovery.enters (root.join name) name && (tree.faultBelow? .list (root.join name)).isNone then
      discovery.foundIn tree (root.join name) inner
    else [] := by
  rw [foundAt, findingsAt]
  cases discovery.enters (root.join name) name with
  | false => rfl
  | true => cases tree.faultBelow? .list (root.join name) <;> rfl

/-- At a link nothing is found, since links are not followed. -/
theorem foundAt_link (target : Path) : discovery.foundAt tree root name (.link target) = [] := by
  rw [foundAt, findingsAt]
  rfl

/-- Membership in what is found at a file. -/
theorem mem_foundAt_file {id : Nat} : path ∈ discovery.foundAt tree root name (.file id) ↔
    path = root.join name ∧ discovery.IsSelected tree (root.join name) name id := by
  rw [foundAt_file, isSelected_iff]
  split <;> simp_all

/-- Membership in what is found at a directory. -/
theorem mem_foundAt_directory {inner : Entries} : path ∈ discovery.foundAt tree root name (.directory inner) ↔
    discovery.IsEntered tree (root.join name) name ∧ path ∈ discovery.foundIn tree (root.join name) inner := by
  rw [foundAt_directory, isEntered_iff]
  split <;> simp_all

/-! ### What is found -/

/-- A place below entries is one below the first of them, or one below the others. -/
theorem isFoundAt_entries_cons {node : Node} {rest : Entries} (hfresh : rest.get? name = none)
    {directory : List String} {last : String} :
    discovery.IsFoundAt tree root ((name, node) :: rest) directory last ↔
      discovery.IsFoundAt tree root [(name, node)] directory last ∨
        discovery.IsFoundAt tree root rest directory last := by
  have hget : ∀ other found, Entries.get? other ((name, node) :: rest) = some found ↔
      Entries.get? other [(name, node)] = some found ∨ Entries.get? other rest = some found := by
    intro other found
    rw [Entries.get?_singleton_eq_some_iff, Entries.get?_cons]
    split
    · rename_i heq
      simp [← heq, hfresh]
    · rename_i hne
      simp [hne]
  cases directory with
  | nil => simp only [isFoundAt_nil, hget, or_and_right, exists_or]
  | cons first rest => simp only [isFoundAt_cons, hget, or_and_right, exists_or]

/-- What is found at one entry is what is to be found below it alone, if that is so of a directory. -/
theorem mem_foundAt {node : Node}
    (hinside : ∀ inner, node = .directory inner → ∀ root path, path ∈ discovery.foundIn tree root inner ↔
      ∃ directory last, path = root.below (directory ++ [last]) ∧
        discovery.IsFoundAt tree root inner directory last) :
    path ∈ discovery.foundAt tree root name node ↔ ∃ directory last, path = root.below (directory ++ [last]) ∧
      discovery.IsFoundAt tree root [(name, node)] directory last := by
  constructor
  · intro h
    cases node with
    | file id =>
      obtain ⟨rfl, hselected⟩ := mem_foundAt_file.mp h
      exact ⟨[], name, rfl, isFoundAt_nil.mpr ⟨id, Entries.get?_singleton_eq_some_iff.mpr ⟨rfl, rfl⟩, hselected⟩⟩
    | directory inner =>
      obtain ⟨hentered, hpath⟩ := mem_foundAt_directory.mp h
      obtain ⟨directory, last, rfl, hfound⟩ := (hinside inner rfl _ _).mp hpath
      exact ⟨name :: directory, last, rfl,
        isFoundAt_cons.mpr ⟨inner, Entries.get?_singleton_eq_some_iff.mpr ⟨rfl, rfl⟩, hentered, hfound⟩⟩
    | link target =>
      rw [foundAt_link] at h
      cases h
  · rintro ⟨directory, last, rfl, hfound⟩
    cases directory with
    | nil =>
      obtain ⟨id, hfile, hselected⟩ := isFoundAt_nil.mp hfound
      obtain ⟨rfl, rfl⟩ := Entries.get?_singleton_eq_some_iff.mp hfile
      exact mem_foundAt_file.mpr ⟨rfl, hselected⟩
    | cons first rest =>
      obtain ⟨inner, hinner, hentered, hrest⟩ := isFoundAt_cons.mp hfound
      obtain ⟨rfl, rfl⟩ := Entries.get?_singleton_eq_some_iff.mp hinner
      exact mem_foundAt_directory.mpr ⟨hentered, (hinside inner rfl _ _).mpr ⟨rest, last, rfl, hrest⟩⟩

/-- Files are found at the places where they are to be found, and nowhere else. -/
theorem mem_foundIn (hproper : entries.IsProper) : path ∈ discovery.foundIn tree root entries ↔
    ∃ directory last, path = root.below (directory ++ [last]) ∧
      discovery.IsFoundAt tree root entries directory last := by
  induction hproper generalizing root path with
  | nil =>
    constructor
    · intro h
      cases h
    · rintro ⟨directory, last, -, hfound⟩
      simpa [Entries.get?] using hfound.isSome_get?
  | cons _ fresh _ _ ihInside ih =>
    rw [foundIn_cons, List.mem_append, ih, mem_foundAt fun inner heq root path => ihInside inner heq]
    simp only [isFoundAt_entries_cons fresh, and_or_left, exists_or]

/-- All names on the way to a file that is found are names of files. -/
theorem IsFoundAt.forall_isFileName {directory : List String} (hproper : entries.IsProper)
    (h : discovery.IsFoundAt tree root entries directory name) :
    ∀ other ∈ directory ++ [name], Path.IsFileName other := by
  obtain ⟨id, hnode, -⟩ := h.selected
  exact hproper.forall_isFileName hnode

/-- Files with the same path are at the same place. -/
theorem IsFoundAt.eq_of_below_eq {others : Entries} {directory outer : List String} {other : String}
    (hproper : entries.IsProper) (hothers : others.IsProper)
    (h : discovery.IsFoundAt tree root entries directory name)
    (hother : discovery.IsFoundAt tree root others outer other)
    (heq : root.below (directory ++ [name]) = root.below (outer ++ [other])) :
    directory ++ [name] = outer ++ [other] :=
  Path.eq_of_components_below (h.forall_isFileName hproper) (hother.forall_isFileName hothers)
    (congrArg Path.components heq)

/-- No file is found twice. -/
theorem nodup_foundIn (hproper : entries.IsProper) : (discovery.foundIn tree root entries).Nodup := by
  induction hproper generalizing root with
  | nil => exact .nil
  | @cons name node rest valid fresh inside hrest ihInside ih =>
    rw [foundIn_cons, List.nodup_append]
    refine ⟨?_, ih, ?_⟩
    · cases node with
      | file id =>
        rw [foundAt_file]
        split <;> simp
      | directory inner =>
        rw [foundAt_directory]
        split
        · exact ihInside inner rfl
        · exact .nil
      | link target => simp [foundAt_link]
    · -- a file below the first entry and one below another entry have different first names
      rintro path hfirst _ hother rfl
      obtain ⟨directory, last, rfl, hfound⟩ :=
        (mem_foundAt fun inner heq root path => mem_foundIn (inside inner heq)).mp hfirst
      obtain ⟨outer, other, heq, hfoundOther⟩ := (mem_foundIn hrest).mp hother
      have hsame := hfound.eq_of_below_eq (.cons valid rfl inside .nil) hrest hfoundOther heq
      have hname := hfound.isSome_get?
      have hnone := hfoundOther.isSome_get?
      simp only [← hsame] at hnone
      obtain ⟨found, hget⟩ := Option.isSome_iff_exists.mp hname
      rw [← (Entries.get?_singleton_eq_some_iff.mp hget).1, fresh] at hnone
      cases hnone

/-! ### The files of a directory -/

/-- All files that are to be found below a root, each once and in the order of their paths. -/
structure Finds (discovery : Discovery) (tree : Tree) (root : Path) (entries : Entries) (found : List Path) :
    Prop where
  mem_iff : ∀ path, path ∈ found ↔ ∃ directory name, path = root.below (directory ++ [name]) ∧
    discovery.IsFoundAt tree root entries directory name
  nodup : found.Nodup
  sorted : found.Pairwise fun a b => Path.le a b = true

/-- Below a directory that may be listed, what is found is put in the order of paths. -/
theorem result_filesBelow (hlisted : tree.faultBelow? .list root = none) :
    (discovery.filesBelow tree root entries).result = (discovery.foundIn tree root entries).mergeSort Path.le := by
  rw [filesBelow, findingsBelow, hlisted]
  rfl

/-- Below a directory that may not be listed, nothing is found. -/
theorem result_filesBelow_of_fault {fault : FileFault} (h : tree.faultBelow? .list root = some fault) :
    (discovery.filesBelow tree root entries).result = [] := by
  rw [filesBelow, findingsBelow, h]
  exact List.mergeSort_nil

/-- The files of a directory that can be listed are all that are to be found below it. -/
theorem finds_filesBelow (hproper : entries.IsProper) (hlisted : tree.faultBelow? .list root = none) :
    discovery.Finds tree root entries (discovery.filesBelow tree root entries).result := by
  rw [result_filesBelow hlisted]
  constructor
  · intro path
    rw [List.mem_mergeSort]
    exact mem_foundIn hproper
  · exact (List.mergeSort_perm _ _).nodup_iff.mpr (nodup_foundIn hproper)
  · exact Path.pairwise_mergeSort _

/-- There is one list of the files that are to be found. -/
theorem Finds.unique {found others : List Path} (hproper : entries.IsProper)
    (h : discovery.Finds tree root entries found) (hothers : discovery.Finds tree root entries others) :
    found = others := by
  have hperm : found.Perm others := (List.perm_ext_iff_of_nodup h.nodup hothers.nodup).mpr fun path =>
    (h.mem_iff path).trans (hothers.mem_iff path).symm
  refine hperm.eq_of_pairwise (fun a b ha hb hle hge => ?_) h.sorted hothers.sorted
  obtain ⟨directory, name, rfl, hfound⟩ := (h.mem_iff a).mp ha
  obtain ⟨outer, other, rfl, hother⟩ := (hothers.mem_iff b).mp hb
  rw [Path.eq_of_le_of_le (hfound.forall_isFileName hproper) (hother.forall_isFileName hproper) hle hge]

/-! ### The order of listings -/

/-- What the system refuses does not depend on anything else in the tree. -/
theorem faultBelow?_congr {other : Tree} (h : other.refusal? = tree.refusal?) (access : Access) (path : Path) :
    other.faultBelow? access path = tree.faultBelow? access path := by
  rw [Tree.faultBelow?, Tree.faultBelow?, h]

/-- A file is found at the same place when entries are reordered, since it is looked up by its names. -/
theorem IsFoundAt.of_reordered {other : Tree} {others : Entries} {directory : List String}
    (h : discovery.IsFoundAt tree root entries directory name) (hproper : entries.IsProper)
    (hreordered : entries.Reordered others) (hcontents : other.contents = tree.contents)
    (hrefusal : other.refusal? = tree.refusal?) : discovery.IsFoundAt other root others directory name := by
  obtain ⟨id, hnode, hsize, hincluded, hkept⟩ := h.selected
  obtain ⟨node, hother, hsame⟩ := hreordered.node? hproper hnode
  cases hsame
  refine ⟨fun outer inner hprefix => ?_, id, hother, ?_, hincluded, hkept⟩
  · obtain ⟨hvisible, hkept, hlistable⟩ := h.entered outer inner hprefix
    exact ⟨hvisible, hkept, (faultBelow?_congr hrefusal ..).trans hlistable⟩
  · rw [faultBelow?_congr hrefusal, Tree.bytesOf, hcontents]
    exact hsize

/-- So the same files are found in the same order. -/
theorem Finds.of_reordered {other : Tree} {others : Entries} {found : List Path}
    (h : discovery.Finds tree root entries found) (hproper : entries.IsProper)
    (hreordered : entries.Reordered others) (hcontents : other.contents = tree.contents)
    (hrefusal : other.refusal? = tree.refusal?) : discovery.Finds other root others found where
  mem_iff path := by
    obtain ⟨hothers, -⟩ := hreordered.isProper_and_same?_get? hproper
    rw [h.mem_iff]
    refine exists_congr fun directory => exists_congr fun name => and_congr_right fun _ => ?_
    exact ⟨fun hfound => hfound.of_reordered hproper hreordered hcontents hrefusal, fun hfound =>
      hfound.of_reordered hothers hreordered.symm hcontents.symm hrefusal.symm⟩
  nodup := h.nodup
  sorted := h.sorted

/-! ### Inputs -/

/-- What is found for an input: a file as it is, of a directory all files that are to be found below it, and nothing
if the directory cannot be listed. -/
inductive Answers (discovery : Discovery) (tree : Tree) : Path → List Path → Prop
  | file {input : Path} (h : tree.isFile input = true) : Answers discovery tree input [input]
  | directory {input : Path} {entries : Entries} {found : List Path} (h : tree.entries? input = some entries)
      (hlisted : tree.faultBelow? .list input = none) (hfound : discovery.Finds tree input entries found) :
      Answers discovery tree input found
  | unlisted {input : Path} {entries : Entries} {fault : FileFault} (h : tree.entries? input = some entries)
      (hfault : tree.faultBelow? .list input = some fault) : Answers discovery tree input []

/-- The entries that a path leads to in a proper tree are proper. -/
theorem isProper_of_entries? (hproper : tree.root.IsProper) (h : tree.entries? path = some entries) :
    entries.IsProper := by
  obtain ⟨directory, -, hentries⟩ := Tree.entries?_eq_some_iff.mp h
  exact (hproper.at? hentries).2

/-- Where an input is searched without an error, the search answers it as declared: a file by itself, a directory by
what is found in it. -/
theorem answers_of_filesOf (hproper : tree.root.IsProper) {found : Reported (List Path)}
    (h : discovery.filesOf tree path = .ok found) : discovery.Answers tree path found.result := by
  rw [filesOf] at h
  split at h
  · rename_i hfile
    cases h
    exact .file hfile
  · split at h
    · rename_i entries hentries
      cases h
      cases hlist : tree.faultBelow? .list path with
      | none =>
        exact .directory hentries hlist (finds_filesBelow (isProper_of_entries? hproper hentries) hlist)
      | some fault =>
        rw [result_filesBelow_of_fault hlist]
        exact .unlisted hentries hlist
    · cases h

/-- Inputs that exist are answered one after another. -/
theorem exists_answers (hproper : tree.root.IsProper) {paths : List Path}
    (h : ∀ path ∈ paths, tree.isInput path = true) : ∃ found : List (List Path),
      (discovery.files tree paths).result = .ok found.flatten ∧
        List.Forall₂ (discovery.Answers tree) paths found := by
  induction paths with
  | nil => exact ⟨[], rfl, .nil⟩
  | cons path rest ih =>
    rw [List.forall_mem_cons] at h
    obtain ⟨first, hfirst⟩ := discovery.exists_filesOf_eq_ok h.1
    obtain ⟨found, hfound, hanswers⟩ := ih h.2
    refine ⟨first.result :: found, ?_, .cons (answers_of_filesOf hproper hfirst) hanswers⟩
    rw [files_cons_of_ok hfirst, hfound, Except.map, List.flatten_cons]

/-- One input is answered in the same way however directories are listed. -/
theorem result_filesOf_of_reordered {other : Tree} (hproper : tree.root.IsProper) (h : tree.Reordered other)
    (path : Path) : (discovery.filesOf other path).map Reported.result =
      (discovery.filesOf tree path).map Reported.result := by
  have hshape := h.sameShape hproper
  rw [filesOf, filesOf, hshape.isFile_eq]
  split
  · rfl
  · cases hentries : tree.entries? path with
    | none =>
      have hnone : other.entries? path = none := by simpa [hentries] using hshape.isSome_entries?_eq path
      rw [hnone]
    | some entries =>
      obtain ⟨directory, hreach, hat⟩ := Tree.entries?_eq_some_iff.mp hentries
      obtain ⟨others, hothers, hreordered⟩ := h.root.at? hproper hat
      have hproperInner := (hproper.at? hat).2
      obtain ⟨hproperOthers, -⟩ := hreordered.isProper_and_same?_get? hproperInner
      rw [Tree.entries?_eq_some_iff.mpr ⟨directory, hshape.reach_eq_ok hreach, hothers⟩]
      refine congrArg Except.ok ?_
      have hfault : other.faultBelow? .list path = tree.faultBelow? .list path := faultBelow?_congr h.refusal? ..
      cases hlist : tree.faultBelow? .list path with
      | some fault =>
        exact (result_filesBelow_of_fault (hfault.trans hlist)).trans (result_filesBelow_of_fault hlist).symm
      | none =>
        have hfinds : discovery.Finds tree path entries _ := finds_filesBelow hproperInner hlist
        have hothers := hfinds.of_reordered hproperInner hreordered h.contents h.refusal?
        exact (finds_filesBelow hproperOthers (hfault.trans hlist)).unique hproperOthers hothers

/-- What is found for inputs is decided by what is found for each of them. -/
theorem result_files_congr {other : Tree} (h : ∀ path, (discovery.filesOf other path).map Reported.result =
    (discovery.filesOf tree path).map Reported.result) (paths : List Path) :
    (discovery.files other paths).result = (discovery.files tree paths).result := by
  induction paths with
  | nil => rfl
  | cons path rest ih =>
    have hpath := h path
    rw [files, files]
    cases hother : discovery.filesOf other path with
    | error fault =>
      cases htree : discovery.filesOf tree path with
      | error _ =>
        rw [hother, htree] at hpath
        cases hpath
        rfl
      | ok _ =>
        rw [hother, htree] at hpath
        cases hpath
    | ok found =>
      cases htree : discovery.filesOf tree path with
      | error _ =>
        rw [hother, htree] at hpath
        cases hpath
      | ok others =>
        rw [hother, htree] at hpath
        have hsame : found.result = others.result := Except.ok.inj hpath
        simp only [ih, hsame]

/-- **The search is exact.** If all inputs exist then their answers are given in the order of the inputs: a file as
it is, whatever the patterns and its size, and of a directory exactly the files that are to be found, each once and in
the order of their paths. A directory that is an input is not asked whether it is entered. And however directories
are listed, the result is the same. -/
theorem files_spec (discovery : Discovery) {tree : Tree} (hproper : tree.root.IsProper) (paths : List Path) :
    ((∀ path ∈ paths, tree.isInput path = true) → ∃ found : List (List Path),
      (discovery.files tree paths).result = .ok found.flatten ∧
        List.Forall₂ (discovery.Answers tree) paths found) ∧
    ∀ other, tree.Reordered other →
      (discovery.files other paths).result = (discovery.files tree paths).result :=
  ⟨exists_answers hproper, fun _ h => result_files_congr (result_filesOf_of_reordered hproper h) paths⟩

/-- A file that is too large is taken as it is, since it is an input itself. Below the other input, which is hidden,
there are a hidden directory and a file that is too large; two files are left, and they come in the order of their
paths however they are listed. -/
theorem files_spec_two_left :
    let back : Entries := [(".g", .directory [("a", .file 0)]), ("d", .file 1)]
    let tree : Tree :=
      { root := [("h", .file 1), (".r", .directory (("b", .file 0) :: ("c", .file 0) :: back))]
        contents := #["1".toUTF8, "22".toUTF8] }
    let other : Tree :=
      { root := [("h", .file 1), (".r", .directory (("c", .file 0) :: ("b", .file 0) :: back))]
        contents := #["1".toUTF8, "22".toUTF8] }
    let discovery : Discovery := { included := [], excluded := [[.sequence, .char 'x']], maxBytes := 1 }
    tree.root.IsProper ∧ tree.Reordered other ∧ (∀ path ∈ ["h", ".r"], tree.isInput path = true) ∧
      discovery.Finds tree ".r" (("b", .file 0) :: ("c", .file 0) :: back) [".r/b", ".r/c"] ∧
      (discovery.files tree ["h", ".r"]).result = .ok ["h", ".r/b", ".r/c"] ∧
      (discovery.files other ["h", ".r"]).result = .ok ["h", ".r/b", ".r/c"] := by
  intro back tree other discovery
  have hback : Entries.IsProper back := by
    refine .cons (by decide) rfl ?_ (.cons (by decide) rfl nofun .nil)
    rintro _ ⟨⟩
    exact .cons (by decide) rfl nofun .nil
  have hinner : Entries.IsProper (("b", .file 0) :: ("c", .file 0) :: back) :=
    .cons (by decide) rfl nofun (.cons (by decide) rfl nofun hback)
  have hproper : tree.root.IsProper := by
    refine .cons (by decide) rfl nofun (.cons (by decide) rfl ?_ .nil)
    rintro _ ⟨⟩
    exact hinner
  have hreordered : tree.Reordered other := ⟨.cons _ (.inside _ (.swap _ _ _) .nil), rfl, rfl, rfl⟩
  have hfile : tree.isFile "h" = true := by cbv
  have hdirectory : tree.isFile ".r" = false := by cbv
  have hentries : tree.entries? ".r" = some (("b", .file 0) :: ("c", .file 0) :: back) := by cbv
  have hinputs : ∀ path ∈ ["h", ".r"], tree.isInput path = true := by
    simp [Tree.isInput, hfile, hentries]
  have hfound : discovery.foundIn tree ".r" (("b", .file 0) :: ("c", .file 0) :: back) = [".r/b", ".r/c"] := by cbv
  have hsorted : ([".r/b", ".r/c"] : List Path).mergeSort Path.le = [".r/b", ".r/c"] :=
    List.mergeSort_of_pairwise (List.pairwise_pair.mpr (by cbv))
  have hbelow : (discovery.filesBelow tree ".r" (("b", .file 0) :: ("c", .file 0) :: back)).result =
      [".r/b", ".r/c"] := (result_filesBelow rfl).trans ((congrArg (List.mergeSort · Path.le) hfound).trans hsorted)
  have hresult : (discovery.files tree ["h", ".r"]).result = .ok ["h", ".r/b", ".r/c"] := by
    simp [files, filesOf, hfile, hdirectory, hentries, hbelow, Except.map]
  obtain ⟨hanswered, hsame⟩ := files_spec discovery hproper ["h", ".r"]
  refine ⟨hproper, hreordered, hinputs, ?_, hresult, (hsame other hreordered).trans hresult⟩
  obtain ⟨found, hfiles, hanswers⟩ := hanswered hinputs
  obtain _ | ⟨hfirst, _ | ⟨hsecond, ⟨⟩⟩⟩ := hanswers
  have hnone : tree.entries? "h" = none := by cbv
  cases hfirst with
  | directory h => cases hnone.symm.trans h
  | unlisted h => cases hnone.symm.trans h
  | file =>
    cases hsecond with
    | file h => cases hdirectory.symm.trans h
    | unlisted _ hfault => cases hfault
    | directory h _ hfinds =>
      cases hentries.symm.trans h
      have hlist := hfiles.symm.trans hresult
      simp only [List.flatten_cons, List.flatten_nil, List.append_nil, List.singleton_append, Except.ok.injEq,
        List.cons.injEq, true_and] at hlist
      exact hlist ▸ hfinds

/-- A file with two bytes where one is allowed, in a directory that is named behind so many dots that the path of the
file is too long to tell its size. The file is found. -/
theorem files_oversized :
    let tree : Tree := { root := [("d", .directory [("a", .file 0)])], contents := #["xy".toUTF8] }
    let discovery : Discovery := { included := [], excluded := [], maxBytes := 1 }
    let root := Path.behindDots "d" 2047
    tree.entries? root = some [("a", .file 0)] ∧ discovery.maxBytes < (tree.bytesOf 0).size ∧
      (discovery.files tree [root]).result = .ok [root.join "a"] := by
  intro tree discovery root
  have hd : Path.IsFileName "d" := by decide
  have ha : Path.IsFileName "a" := by decide
  have hdSize : ("d" : String).utf8ByteSize = 1 := by decide
  have haSize : ("a" : String).utf8ByteSize = 1 := by decide
  have hentries : tree.entries? root = some [("a", .file 0)] := by
    refine Tree.entries?_behindDots hd rfl (by decide) (by decide) ?_ rfl
    rw [hdSize, Tree.maxPathBytes]
    omega
  have hlisted : tree.faultBelow? .list root = none := by
    have hshort : Tree.isTooLong root = false := by
      rw [Tree.isTooLong, Path.utf8ByteSize_behindDots, hdSize, Tree.maxPathBytes, decide_eq_false_iff_not]
      omega
    rw [Tree.faultBelow?, hshort]
    rfl
  have hlong : Tree.isTooLong (root.join "a") = true := by
    rw [Tree.isTooLong, Path.utf8ByteSize_join_behindDots hd ha, hdSize, haSize, Tree.maxPathBytes,
      decide_eq_true_iff]
    omega
  clear_value root
  have hfile : tree.isFile root = false := by
    obtain ⟨directory, hreach, -⟩ := Tree.entries?_eq_some_iff.mp hentries
    rw [Tree.isFile, hreach]
  have hselected : discovery.selects (root.join "a") "a" (tree.sizeBelow? (root.join "a") 0) = true := by
    refine isSelected_iff.mp ⟨fun h => ?_, .inl rfl, List.forall_mem_nil _⟩
    rw [Tree.faultBelow?, hlong] at h
    cases h
  have hfound : discovery.foundIn tree root [("a", .file 0)] = [root.join "a"] := by
    rw [foundIn_cons, foundAt_file, hselected]
    rfl
  have hbelow : (discovery.filesBelow tree root [("a", .file 0)]).result = [root.join "a"] :=
    (result_filesBelow hlisted).trans
      ((congrArg (List.mergeSort · Path.le) hfound).trans (List.mergeSort_singleton _))
  have hone : discovery.filesOf tree root =
      .ok (discovery.filesBelow tree root [("a", .file 0)]) := by
    simp [filesOf, hfile, hentries]
  refine ⟨hentries, by decide, ?_⟩
  rw [files_cons_of_ok hone, hbelow]
  rfl

end Discovery

end TextChunking
