import Mathlib
import TextChunking.Proofs.Files.Reordering
import TextChunking.Proofs.Files.Whole
/-!
# Trees stay proper

Whatever is done to a tree, its directories keep entries with different names, all of them names of files.
**Theorem** (`Tree.isProper_of_steps`): so every tree that is made of the empty one is proper, and whole besides.

What is made gets the last name of a path, or of the target of a link. What stands between the slashes of a path is not
empty and has no slash in it (`Path.isPart_of_mem_names`), and the dots are used up on the way
(`Tree.Leads.isFileName`); so this name is one that a file can have.
-/

namespace TextChunking

/-! ### Names of paths -/

namespace Path

/-- What can stand between the slashes of a path. -/
def IsPart (name : String) : Prop := name ≠ "" ∧ '/' ∉ name.toList

/-- A part with more than one character has no slash, since a slash is cut off from both neighbours. -/
theorem slash_notMem_of_isChain {a b : Char} {rest : List Char}
    (h : (a :: b :: rest).IsChain fun a b => (a != '/' && b != '/') = true) : '/' ∉ a :: b :: rest := by
  induction rest generalizing a b with
  | nil =>
    rw [List.isChain_pair] at h
    intro hslash
    obtain rfl | rfl : '/' = a ∨ '/' = b := by simpa using hslash
    · simp at h
    · simp at h
  | cons c rest ih =>
    obtain ⟨hab, hrest⟩ := List.isChain_cons_cons.mp h
    intro hslash
    obtain rfl | hslash := List.mem_cons.mp hslash
    · simp at hab
    · exact ih hrest hslash

/-- Every name of a path has a character and no slash. -/
theorem isPart_of_mem_names {path : Path} {name : String} (h : name ∈ names path) : IsPart name := by
  obtain ⟨part, hpart, rfl⟩ := List.mem_map.mp h
  obtain ⟨hsplit, hslash⟩ := List.mem_filter.mp hpart
  have hchain := List.isChain_of_mem_splitBy hsplit
  match part with
  | [] => exact absurd rfl (List.ne_nil_of_mem_splitBy hsplit)
  | [a] =>
    refine ⟨by simp, ?_⟩
    rw [String.toList_ofList]
    intro hmem
    obtain rfl := List.mem_singleton.mp hmem
    simp at hslash
  | a :: b :: rest =>
    refine ⟨by simp, ?_⟩
    rw [String.toList_ofList]
    exact slash_notMem_of_isChain hchain

end Path

/-! ### Entries -/

namespace Entries

variable {entries : Entries}

/-- Entries stay proper when a node is set under the name of a file, if what is in it is proper. -/
theorem IsProper.set (h : entries.IsProper) {name : String} {node : Node} (hname : Path.IsFileName name)
    (hnode : ∀ inner, node = .directory inner → IsProper inner) : IsProper (entries.set name node) := by
  induction h with
  | nil => exact .cons hname rfl hnode .nil
  | @cons first found rest valid fresh inside others _ ih =>
    rw [Entries.set]
    split
    · rename_i heq
      obtain rfl : first = name := by simpa using heq
      exact .cons hname fresh hnode others
    · rename_i hne
      have hother : name ≠ first := fun heq => hne (by simp [heq])
      refine .cons valid ?_ inside ih
      rw [get?_set_of_ne hother, fresh]

/-- Entries stay proper when one is removed. -/
theorem IsProper.remove (h : entries.IsProper) (name : String) : IsProper (entries.remove name) := by
  induction h with
  | nil => exact .nil
  | @cons first found rest valid fresh inside others _ ih =>
    rw [Entries.remove] at ih ⊢
    by_cases hname : first = name
    · rw [List.filter_cons_of_neg (by simp [hname])]
      exact ih
    · rw [List.filter_cons_of_pos (by simp [hname])]
      refine .cons valid ?_ inside ih
      have hfree := get?_remove name first rest
      rw [fresh, ite_self] at hfree
      exact hfree

/-- Entries stay proper when a directory among them is changed in a way that keeps all entries proper. -/
theorem IsProper.update {change : Entries → Entries} (hchange : ∀ target, IsProper target → IsProper (change target))
    (h : entries.IsProper) (directory : List String) : IsProper (entries.update change directory) := by
  induction directory generalizing entries with
  | nil => exact hchange entries h
  | cons first rest ih =>
    rw [Entries.update]
    split
    · rename_i inner hinner
      obtain ⟨hfirst, hproper⟩ := h.get? hinner
      refine h.set hfirst fun changed hchanged => ?_
      cases hchanged
      exact ih (hproper inner rfl)
    · exact h

end Entries

namespace Tree

variable {tree made : Tree} {purpose : Purpose} {path : Path}

/-! ### Operations -/

/-- The name of a place for a new node is the name of a file. -/
theorem Leads.isFileName {links : Nat} {asDirectory : Bool} {directory todo parent : List String} {name : String}
    (h : Leads tree purpose links asDirectory directory todo (.vacant parent name))
    (htodo : ∀ part ∈ todo, Path.IsPart part) : Path.IsFileName name := by
  generalize hplace : Place.vacant parent name = place at h
  induction h with
  | inside => cases hplace
  | here _ ih => exact ih (List.forall_mem_cons.mp htodo).2 hplace
  | above _ ih => exact ih (List.forall_mem_cons.mp htodo).2 hplace
  | vacant valid _ =>
    cases hplace
    obtain ⟨hempty, hslash⟩ := htodo name List.mem_cons_self
    exact ⟨hempty, valid.ne_here, valid.ne_above, hslash⟩
  | file => cases hplace
  | link => cases hplace
  | enter _ _ _ _ ih => exact ih (List.forall_mem_cons.mp htodo).2 hplace
  | through _ _ _ _ _ ih =>
    refine ih (List.forall_mem_append.mpr ⟨fun part => ?_, (List.forall_mem_cons.mp htodo).2⟩) hplace
    exact Path.isPart_of_mem_names

/-- The name of a vacant place is one that a file can have. -/
theorem isFileName_of_follow {parent : List String} {name : String}
    (h : tree.follow purpose path = .ok (.vacant parent name)) : Path.IsFileName name :=
  (follow_eq_ok_iff.mp h).2.isFileName fun _ => Path.isPart_of_mem_names

/-- A node that is put in a vacant place leaves the tree proper, if there is nothing below it yet. -/
theorem isProper_put (h : tree.root.IsProper) {parent : List String} {name : String} {node : Node}
    (hfollow : tree.follow purpose path = .ok (.vacant parent name))
    (hnode : ∀ inner, node = .directory inner → inner = []) : (tree.put parent name node).root.IsProper := by
  refine h.update (fun target htarget => htarget.set (isFileName_of_follow hfollow) fun inner hinner => ?_) parent
  rw [hnode inner hinner]
  exact .nil

/-- Creating a file leaves the tree proper, whether the file is new, or old and emptied. -/
theorem isProper_create {id : Nat} (h : tree.root.IsProper) (hmade : tree.create path = .ok (made, id)) :
    made.root.IsProper := by
  obtain ⟨directory, name, hfollow, rfl⟩ | ⟨directory, name, hfollow, rfl, rfl⟩ := create_cases hmade
  · exact h
  · refine isProper_put h hfollow ?_
    intro inner hinner
    cases hinner

/-- Making directories leaves the tree proper, by induction on their names. -/
theorem isProper_makeDirectoriesBelow {names : List String} (h : tree.root.IsProper)
    (hmade : tree.makeDirectoriesBelow path names = .ok made) : made.root.IsProper := by
  induction names generalizing tree path with
  | nil =>
    cases hmade
    exact h
  | cons name names ih =>
    rw [makeDirectoriesBelow] at hmade
    split at hmade
    · rename_i directory name hfollow
      exact ih (isProper_put h hfollow fun inner hinner => (Node.directory.inj hinner).symm) hmade
    · exact ih h hmade
    · cases hmade
    · cases hmade

/-- Writing a file leaves the tree proper, since writing itself changes no entries. -/
theorem isProper_writeFile {bytes : ByteArray} (h : tree.root.IsProper)
    (hmade : tree.writeFile path bytes = .ok made) : made.root.IsProper := by
  obtain ⟨inside, opened, hdirectories, hcreate, rfl⟩ := writeFile_cases hmade
  have hopened : opened.1.root.IsProper := isProper_create (isProper_makeDirectoriesBelow h hdirectories) hcreate
  exact hopened

/-- Making a link leaves the tree proper. -/
theorem isProper_makeLink {target : Path} (h : tree.root.IsProper)
    (hmade : tree.makeLink path target = .ok made) : made.root.IsProper := by
  obtain ⟨inside, directory, name, hdirectories, hfollow, rfl⟩ := makeLink_cases hmade
  refine isProper_put (isProper_makeDirectoriesBelow h hdirectories) hfollow ?_
  intro inner hinner
  cases hinner

/-- Removing a file leaves the tree proper. -/
theorem isProper_removeFile (h : tree.root.IsProper) (hmade : tree.removeFile path = .ok made) :
    made.root.IsProper := by
  obtain ⟨directory, name, node, hfollow, rfl⟩ := removeFile_cases hmade
  exact h.update (fun target htarget => htarget.remove name) directory

/-! ### Whatever is done -/

/-- One thing is done to a tree. -/
inductive Step (tree : Tree) : Tree → Prop
  | writeFile {path : Path} {bytes : ByteArray} {made : Tree} (h : tree.writeFile path bytes = .ok made) :
      Step tree made
  | makeDirectory {path : Path} {made : Tree} (h : tree.makeDirectory path = .ok made) : Step tree made
  | makeLink {path target : Path} {made : Tree} (h : tree.makeLink path target = .ok made) : Step tree made
  | removeFile {path : Path} {made : Tree} (h : tree.removeFile path = .ok made) : Step tree made
  | create {path : Path} {made : Tree} {id : Nat} (h : tree.create path = .ok (made, id)) : Step tree made
  | writeAt (id offset : Nat) (bytes : ByteArray) : Step tree (tree.writeAt id offset bytes)
  | work {directory : List String} (h : (tree.root.at? directory).isSome) :
      Step tree { tree with working := directory }
  | refuse (refusal? : Access → Path → Option FileFault) (writeFault? : Nat → Nat → Option FileFault) :
      Step tree { tree with refusal?, writeFault? }

/-- Any one operation leaves a proper tree proper. -/
theorem Step.isProper (h : tree.Step made) (hproper : tree.root.IsProper) : made.root.IsProper := by
  cases h with
  | writeFile h => exact isProper_writeFile hproper h
  | makeDirectory h => exact isProper_makeDirectoriesBelow hproper h
  | makeLink h => exact isProper_makeLink hproper h
  | removeFile h => exact isProper_removeFile hproper h
  | create h => exact isProper_create hproper h
  | writeAt => exact hproper
  | work => exact hproper
  | refuse => exact hproper

/-- Any one operation leaves a whole tree whole. -/
theorem Step.isWhole (h : tree.Step made) (hwhole : tree.IsWhole) : made.IsWhole := by
  cases h with
  | writeFile h => exact hwhole.writeFile h
  | makeDirectory h => exact hwhole.makeDirectory h
  | makeLink h => exact hwhole.makeLink h
  | removeFile h => exact hwhole.removeFile h
  | create h => exact hwhole.create h
  | writeAt => exact hwhole.writeAt _ _ _
  | work h => exact ⟨h, hwhole.contents⟩
  | refuse => exact ⟨hwhole.working, hwhole.contents⟩

/-- Every tree that is made of the empty one is proper and whole. -/
theorem isProper_of_steps (h : Relation.ReflTransGen Step {} tree) : tree.root.IsProper ∧ tree.IsWhole := by
  induction h with
  | refl => exact ⟨.nil, isWhole_empty⟩
  | tail _ hstep ih => exact ⟨hstep.isProper ih.1, hstep.isWhole ih.2⟩

end Tree

end TextChunking
