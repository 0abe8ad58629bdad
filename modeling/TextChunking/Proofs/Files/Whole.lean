import Mathlib
import TextChunking.Proofs.Files.Contents
/-!
# Trees stay whole

That the working directory exists and that no contents are missing is kept by everything that is done to a
tree: files are written and opened, directories and links are made, and files are taken away. All of them
change the entries of one directory, so that it is enough to look at this directory
(`Entries.all_update`, `Entries.isSome_at?_update`).
-/

namespace TextChunking

namespace Entries

/-! ### What is kept by a change of one directory -/

/-- A property of all nodes in some directory or other. -/
def All (p : Node → Prop) (entries : Entries) : Prop :=
  ∀ directory name node, entries.node? directory name = some node → p node

variable {p : Node → Prop} {entries : Entries}

/-- Where there are no entries, all are as they should be. -/
theorem all_nil : All p [] := by
  intro directory name node hnode
  cases directory <;> cases hnode

/-- What holds of all nodes holds of those in a directory among them. -/
theorem All.inner (h : All p entries) {first : String} {inner : Entries}
    (hfirst : entries.get? first = some (.directory inner)) : All p inner := by
  intro directory name node hnode
  refine h (first :: directory) name node ?_
  rw [node?_cons, hfirst]
  exact hnode

/-- A node that is set has to be as it should be, and so does everything below it. -/
theorem All.set (h : All p entries) {node : Node} (hnode : p node)
    (hinner : ∀ inner, node = .directory inner → All p inner) (name : String) :
    All p (entries.set name node) := by
  intro directory other found hfound
  cases directory with
  | nil =>
    replace hfound : get? other (entries.set name node) = some found := hfound
    by_cases hname : name = other
    · rw [hname, get?_set_self] at hfound
      cases hfound
      exact hnode
    · rw [get?_set_of_ne hname] at hfound
      exact h [] other found hfound
  | cons first rest =>
    rw [node?_cons] at hfound
    by_cases hname : name = first
    · rw [hname, get?_set_self] at hfound
      cases node with
      | directory inner => exact hinner inner rfl rest other found hfound
      | _ => cases hfound
    · rw [get?_set_of_ne hname, ← node?_cons] at hfound
      exact h (first :: rest) other found hfound

/-- Only the name that was removed is gone. -/
theorem get?_remove (name other : String) (entries : Entries) :
    get? other (entries.remove name) = if other = name then none else get? other entries := by
  induction entries with
  | nil => simp [remove, get?]
  | cons entry rest ih =>
    rw [remove] at ih ⊢
    by_cases hname : entry.1 = name
    · rw [List.filter_cons_of_neg (by simp [hname]), ih, get?_cons, hname]
      by_cases hother : other = name
      · rw [if_pos hother, if_pos hother]
      · rw [if_neg hother, if_neg hother, if_neg (Ne.symm hother)]
    · rw [List.filter_cons_of_pos (by simp [hname]), get?_cons, ih, get?_cons]
      by_cases hother : other = name
      · rw [if_pos hother, if_pos hother, if_neg (hother ▸ hname)]
      · rw [if_neg hother, if_neg hother]

/-- Nothing is spoiled by removing an entry. -/
theorem All.remove (h : All p entries) (name : String) : All p (entries.remove name) := by
  intro directory other found hfound
  have hold : ∀ first node, get? first (entries.remove name) = some node →
      get? first entries = some node := by
    intro first node hnode
    rw [get?_remove] at hnode
    split at hnode
    · cases hnode
    · exact hnode
  cases directory with
  | nil => exact h [] other found (hold other found hfound)
  | cons first rest =>
    rw [node?_cons] at hfound
    split at hfound
    · rename_i inner hinner
      exact h.inner (hold first _ hinner) rest other found hfound
    · cases hfound

/-- A change in one directory spoils nothing if it spoils nothing there and directories are as they should be
whatever they hold. -/
theorem all_update (hdirectory : ∀ inner, p (.directory inner)) {change : Entries → Entries}
    (hchange : ∀ target, All p target → All p (change target)) (h : All p entries)
    (directory : List String) : All p (entries.update change directory) := by
  induction directory generalizing entries with
  | nil => exact hchange entries h
  | cons first rest ih =>
    rw [update]
    split
    · rename_i inner hfirst
      refine h.set (hdirectory _) (fun changed hchanged => ?_) first
      cases hchanged
      exact ih (h.inner hfirst)
    · exact h

/-- Directories stay where they are as long as those of the changed directory do. -/
theorem isSome_at?_update {change : Entries → Entries} {directory : List String} {target : Entries}
    (htarget : entries.at? directory = some target)
    (hchange : ∀ name inner, get? name target = some (.directory inner) →
      get? name (change target) = some (.directory inner))
    {other : List String} (h : (entries.at? other).isSome) :
    ((entries.update change directory).at? other).isSome := by
  induction directory generalizing entries other with
  | nil =>
    cases htarget
    cases other with
    | nil => rfl
    | cons name rest =>
      rw [at?] at h
      split at h
      · rename_i inner hinner
        rw [update, at?, hchange name inner hinner]
        exact h
      · cases h
  | cons first rest ih =>
    rw [at?] at htarget
    split at htarget
    · rename_i inner hfirst
      rw [update, hfirst]
      cases other with
      | nil => rfl
      | cons name more =>
        rw [at?] at h ⊢
        by_cases hname : first = name
        · rw [← hname, hfirst] at h
          rw [← hname, get?_set_self]
          exact ih htarget h
        · rw [get?_set_of_ne hname]
          exact h
    · cases htarget

end Entries

namespace Tree

/-! ### Operations -/

variable {tree : Tree}

/-- A node that may stand in a tree with a number of contents. -/
def HasContents (count : Nat) (node : Node) : Prop := ∀ id, node = .file id → id < count

/-- A directory has no contents to be missing. -/
theorem hasContents_directory (count : Nat) (inner : Entries) : HasContents count (.directory inner) :=
  fun _ => nofun

/-- A tree is whole if there is a working directory and all files have contents. -/
theorem isWhole_iff : tree.IsWhole ↔
    (tree.root.at? tree.working).isSome ∧ tree.root.All (HasContents tree.contents.size) :=
  ⟨fun h => ⟨h.working, fun directory name _ hnode id hid => h.contents directory name id (hid ▸ hnode)⟩,
    fun h => ⟨h.1, fun directory name id hnode => h.2 directory name _ hnode id rfl⟩⟩

/-- The empty tree is whole. -/
theorem isWhole_empty : ({} : Tree).IsWhole := isWhole_iff.mpr ⟨rfl, Entries.all_nil⟩

/-- A change of one directory keeps a tree whole if no contents get lost and no directory is moved. -/
theorem IsWhole.update (h : tree.IsWhole) {contents : Array ByteArray}
    (hsize : tree.contents.size ≤ contents.size) {change : Entries → Entries} {directory : List String}
    {target : Entries} (htarget : tree.root.at? directory = some target)
    (hdirectories : ∀ name inner, Entries.get? name target = some (.directory inner) →
      Entries.get? name (change target) = some (.directory inner))
    (hchange : ∀ target : Entries, target.All (HasContents contents.size) →
      (change target).All (HasContents contents.size)) :
    IsWhole { tree with root := tree.root.update change directory, contents } := by
  obtain ⟨hworking, hall⟩ := isWhole_iff.mp h
  refine isWhole_iff.mpr ⟨Entries.isSome_at?_update htarget hdirectories hworking, ?_⟩
  refine Entries.all_update (hasContents_directory _) hchange ?_ directory
  exact fun inside name node hnode id hid => Nat.lt_of_lt_of_le (hall inside name node hnode id hid) hsize

/-- A node with contents can be put in any place that there is. -/
theorem IsWhole.put (h : tree.IsWhole) {contents : Array ByteArray}
    (hsize : tree.contents.size ≤ contents.size) {directory : List String} {name : String} {node : Node}
    (hplace : tree.HasPlace (.vacant directory name)) (hnode : HasContents contents.size node)
    (hempty : ∀ inner, node = .directory inner → inner = []) :
    IsWhole { tree.put directory name node with contents } := by
  obtain ⟨hdirectory, hfree⟩ := hplace
  obtain ⟨target, htarget⟩ := Option.isSome_iff_exists.mp hdirectory
  rw [Entries.node?, htarget, Option.bind_some] at hfree
  refine h.update hsize htarget (fun other inner hother => ?_) fun target hall => ?_
  · have hne : name ≠ other := by
      rintro rfl
      cases hfree.symm.trans hother
    rw [Entries.get?_set_of_ne hne, hother]
  · refine hall.set hnode (fun inner hinner => ?_) name
    rw [hempty inner hinner]
    exact Entries.all_nil

/-- Writing changes what the contents are, and not how many there are. -/
theorem IsWhole.writeAt (h : tree.IsWhole) (id offset : Nat) (bytes : ByteArray) :
    (tree.writeAt id offset bytes).IsWhole := by
  obtain ⟨hworking, hall⟩ := isWhole_iff.mp h
  refine isWhole_iff.mpr ⟨hworking, ?_⟩
  simpa only [Tree.writeAt, Array.size_setIfInBounds] using hall

/-- Creating a file leaves a tree whole: a new file gets contents of its own. -/
theorem IsWhole.create (h : tree.IsWhole) {path : Path} {made : Tree} {id : Nat}
    (hmade : tree.create path = .ok (made, id)) : made.IsWhole := by
  obtain ⟨directory, name, hfollow, rfl⟩ | ⟨directory, name, hfollow, rfl, rfl⟩ := create_cases hmade
  · obtain ⟨hworking, hall⟩ := isWhole_iff.mp h
    refine isWhole_iff.mpr ⟨hworking, ?_⟩
    simpa only [Array.size_setIfInBounds] using hall
  · refine h.put ?_ (h.hasPlace hfollow) ?_ nofun
    · simp
    · intro id hid
      cases hid
      simp

/-- Making directories leaves a tree whole, by induction on their names. -/
theorem IsWhole.makeDirectoriesBelow (h : tree.IsWhole) {path : Path} {names : List String} {made : Tree}
    (hmade : tree.makeDirectoriesBelow path names = .ok made) : made.IsWhole := by
  induction names generalizing tree path with
  | nil =>
    cases hmade
    exact h
  | cons name names ih =>
    rw [Tree.makeDirectoriesBelow] at hmade
    split at hmade
    · rename_i directory name hfollow
      have hput := h.put (Nat.le_refl _) (h.hasPlace hfollow) (hasContents_directory _ []) fun inner hinner =>
        (Node.directory.inj hinner).symm
      exact ih hput hmade
    · exact ih h hmade
    · cases hmade
    · cases hmade

/-- A file is written into directories that are there or made. -/
theorem writeFile_cases {path : Path} {bytes : ByteArray} {made : Tree}
    (h : tree.writeFile path bytes = .ok made) :
    ∃ inside opened, tree.makeDirectories path path.names.dropLast = .ok inside ∧
      inside.create path = .ok opened ∧ made = opened.1.writeAt opened.2 0 bytes := by
  rw [Tree.writeFile] at h
  cases hdirectories : tree.makeDirectories path path.names.dropLast with
  | error fault => rw [hdirectories] at h; cases h
  | ok inside =>
    rw [hdirectories] at h
    cases hcreate : inside.create path with
    | error fault => simp only [bind, Except.bind, hcreate] at h; cases h
    | ok opened =>
      simp only [bind, Except.bind, hcreate] at h
      cases h
      exact ⟨inside, opened, rfl, hcreate, rfl⟩

/-- A link is made where there is room for it. -/
theorem makeLink_cases {path target : Path} {made : Tree} (h : tree.makeLink path target = .ok made) :
    ∃ inside directory name, tree.makeDirectories path path.names.dropLast = .ok inside ∧
      inside.follow .name path = .ok (.vacant directory name) ∧
      made = inside.put directory name (.link target) := by
  rw [Tree.makeLink] at h
  cases hdirectories : tree.makeDirectories path path.names.dropLast with
  | error fault => rw [hdirectories] at h; cases h
  | ok inside =>
    rw [hdirectories] at h
    cases hfollow : inside.follow .name path with
    | error fault => simp only [bind, Except.bind, hfollow] at h; cases h
    | ok place =>
      simp only [bind, Except.bind, hfollow] at h
      split at h
      · rename_i directory name
        cases h
        exact ⟨inside, directory, name, rfl, hfollow, rfl⟩
      · cases h

/-- A file or a link is taken out of its directory. -/
theorem removeFile_cases {path : Path} {made : Tree} (h : tree.removeFile path = .ok made) :
    ∃ directory name node, tree.follow .name path = .ok (.node directory name node) ∧
      made = { tree with root := tree.root.update (Entries.remove name) directory } := by
  rw [Tree.removeFile] at h
  cases hfollow : tree.follow .name path with
  | error fault => rw [hfollow] at h; cases h
  | ok place =>
    simp only [bind, Except.bind, hfollow] at h
    split at h
    · rename_i directory name node
      cases h
      exact ⟨directory, name, node, rfl, rfl⟩
    · cases h
    · cases h

/-- Writing a file leaves a tree whole, as creating and writing do. -/
theorem IsWhole.writeFile (h : tree.IsWhole) {path : Path} {bytes : ByteArray} {made : Tree}
    (hmade : tree.writeFile path bytes = .ok made) : made.IsWhole := by
  obtain ⟨inside, opened, hdirectories, hcreate, rfl⟩ := writeFile_cases hmade
  exact ((h.makeDirectoriesBelow hdirectories).create hcreate).writeAt _ _ _

/-- Making a directory leaves a tree whole. -/
theorem IsWhole.makeDirectory (h : tree.IsWhole) {path : Path} {made : Tree}
    (hmade : tree.makeDirectory path = .ok made) : made.IsWhole :=
  h.makeDirectoriesBelow hmade

/-- Making a link leaves a tree whole, wherever it points to. -/
theorem IsWhole.makeLink (h : tree.IsWhole) {path target : Path} {made : Tree}
    (hmade : tree.makeLink path target = .ok made) : made.IsWhole := by
  obtain ⟨inside, directory, name, hdirectories, hfollow, rfl⟩ := makeLink_cases hmade
  have hinside : inside.IsWhole := h.makeDirectoriesBelow hdirectories
  exact hinside.put (Nat.le_refl _) (hinside.hasPlace hfollow) (fun _ => nofun) nofun

/-- Removing a file leaves a tree whole; its contents stay, and nothing refers to them. -/
theorem IsWhole.removeFile (h : tree.IsWhole) {path : Path} {made : Tree}
    (hmade : tree.removeFile path = .ok made) : made.IsWhole := by
  obtain ⟨directory, name, node, hfollow, rfl⟩ := removeFile_cases hmade
  obtain ⟨hnode, hleaf⟩ := h.hasPlace hfollow
  obtain ⟨target, htarget, hname⟩ := Option.bind_eq_some_iff.mp hnode
  refine h.update (Nat.le_refl _) htarget (fun other inner hother => ?_) fun _ hall => hall.remove name
  have hne : other ≠ name := by
    rintro rfl
    exact hleaf inner (Option.some.inj (hname.symm.trans hother))
  rw [Entries.get?_remove, if_neg hne, hother]

end Tree

end TextChunking
