import Mathlib
import TextChunking.Proofs.Files.Leads
/-!
# Trees of one shape

Two trees have the same shape if their nodes are in the same places, whatever the order of the entries of a
directory and the contents of the files. **Theorem** (`Tree.SameShape.follow_eq_ok`): a path leads to the same
place in both.

The order of entries can be told by listing them only, so the proof is an induction over the ways in which a
name is used (`Tree.Leads.of_sameShape`), each of which asks for the node with a name.
-/

namespace TextChunking

namespace Entries

variable {entries others : Entries}

/-- A directory is the node under its last name. -/
theorem node?_of_at?_concat {directory : List String} {name : String} {inner : Entries}
    (h : entries.at? (directory ++ [name]) = some inner) :
    entries.node? directory name = some (.directory inner) := by
  rw [at?_append] at h
  obtain ⟨outer, houter, hinner⟩ := Option.bind_eq_some_iff.mp h
  rw [node?, houter, Option.bind_some]
  rw [at?] at hinner
  split at hinner
  · rename_i found hfound
    rw [hfound]
    cases hinner
    rfl
  · cases hinner

/-- What extends entries has all their directories. -/
theorem Extend.isSome_at? (h : entries.Extend others) {directory : List String}
    (hdirectory : (entries.at? directory).isSome) : (others.at? directory).isSome := by
  obtain rfl | ⟨outer, name, rfl⟩ := List.eq_nil_or_concat directory
  · rfl
  · rw [List.concat_eq_append] at hdirectory ⊢
    obtain ⟨inner, hinner⟩ := Option.isSome_iff_exists.mp hdirectory
    obtain ⟨node, hnode, hkind⟩ := h _ _ _ (node?_of_at?_concat hinner)
    cases hkind
    rw [at?_concat_of_node? hnode]
    rfl

/-- What is free in an extension is free. -/
theorem Extend.node?_eq_none (h : entries.Extend others) {directory : List String} {name : String}
    (hfree : others.node? directory name = none) : entries.node? directory name = none := by
  cases hnode : entries.node? directory name with
  | none => rfl
  | some node =>
    obtain ⟨other, hother, -⟩ := h _ _ _ hnode
    cases hfree.symm.trans hother

end Entries

namespace Tree

/-- The nodes of two trees are in the same places, and the system refuses the same. -/
structure SameShape (tree other : Tree) : Prop where
  working : other.working = tree.working
  refusal? : other.refusal? = tree.refusal?
  there : tree.root.Extend other.root
  back : other.root.Extend tree.root

variable {tree other : Tree} {purpose : Purpose} {path : Path} {place : Place}

/-- Shapes are the same in both directions. -/
theorem SameShape.symm (h : tree.SameShape other) : other.SameShape tree := 
  ⟨h.working.symm, h.refusal?.symm, h.back, h.there⟩

/-- A path leads to the same place in a tree of the same shape, step by step. -/
theorem Leads.of_sameShape {links : Nat} {asDirectory : Bool} {directory todo : List String}
    (h : Leads tree purpose links asDirectory directory todo place) (hshape : tree.SameShape other) :
    Leads other purpose links asDirectory directory todo place := by
  induction h with
  | inside => exact .inside
  | here _ ih => exact .here ih
  | above _ ih => exact .above ih
  | vacant valid free => exact .vacant valid (hshape.back.node?_eq_none free)
  | file valid found =>
    obtain ⟨node, hnode, hkind⟩ := hshape.there _ _ _ found
    cases hkind
    exact .file valid hnode
  | link valid found isName =>
    obtain ⟨node, hnode, hkind⟩ := hshape.there _ _ _ found
    cases hkind
    exact .link valid hnode isName
  | enter valid allowed found _ ih =>
    obtain ⟨node, hnode, hkind⟩ := hshape.there _ _ _ found
    cases hkind
    exact .enter valid allowed hnode ih
  | through valid allowed found passed _ ih =>
    obtain ⟨node, hnode, hkind⟩ := hshape.there _ _ _ found
    cases hkind
    exact .through valid allowed hnode passed ih

/-- A path leads to the same place in trees of one shape. -/
theorem SameShape.follow_eq_ok (hshape : tree.SameShape other) (h : tree.follow purpose path = .ok place) :
    other.follow purpose path = .ok place := by
  obtain ⟨hpath, hleads⟩ := follow_eq_ok_iff.mp h
  have hstart : other.startOf path = tree.startOf path := by rw [startOf, startOf, hshape.working]
  exact follow_eq_ok_iff.mpr ⟨hpath, hstart ▸ hleads.of_sameShape hshape⟩

/-- The same is reached in trees of one shape. -/
theorem SameShape.reach_eq_ok (hshape : tree.SameShape other) {access : Access}
    (h : tree.reach access path = .ok place) : other.reach access path = .ok place := by
  obtain ⟨hallowed, hfollow⟩ := reach_eq_ok_iff.mp h
  exact reach_eq_ok_iff.mpr ⟨hshape.refusal? ▸ hallowed, hshape.follow_eq_ok hfollow⟩

/-- There is a file at a path exactly if the path leads to one. -/
theorem isFile_eq_true_iff :
    tree.isFile path = true ↔ ∃ directory name id, tree.reach .look path = .ok (.node directory name (.file id)) := by
  rw [isFile]
  split
  · rename_i directory name id hreach
    simpa using ⟨directory, name, id, hreach⟩
  · rename_i hother
    simpa using fun directory name id => hother directory name id

/-- Trees of the same shape have files at the same paths. -/
theorem SameShape.isFile_eq (hshape : tree.SameShape other) (path : Path) :
    other.isFile path = tree.isFile path := by
  refine Bool.eq_iff_iff.mpr ⟨fun h => ?_, fun h => ?_⟩
  · obtain ⟨directory, name, id, hreach⟩ := isFile_eq_true_iff.mp h
    exact isFile_eq_true_iff.mpr ⟨directory, name, id, hshape.symm.reach_eq_ok hreach⟩
  · obtain ⟨directory, name, id, hreach⟩ := isFile_eq_true_iff.mp h
    exact isFile_eq_true_iff.mpr ⟨directory, name, id, hshape.reach_eq_ok hreach⟩

/-- A directory can be listed exactly if the path leads into it. -/
theorem entries?_eq_some_iff {entries : Entries} :
    tree.entries? path = some entries ↔
      ∃ directory, tree.reach .look path = .ok (.inside directory) ∧ tree.root.at? directory = some entries := by
  rw [entries?]
  split
  · rename_i directory hreach
    rw [hreach]
    constructor
    · intro h
      exact ⟨directory, rfl, h⟩
    · rintro ⟨other, hsame, h⟩
      cases hsame
      exact h
  · rename_i hother
    refine ⟨nofun, ?_⟩
    rintro ⟨directory, hreach, -⟩
    exact absurd hreach (hother directory)

/-- A directory that can be listed in one of two trees can be listed in the other. -/
theorem SameShape.isSome_entries? (hshape : tree.SameShape other) (h : (tree.entries? path).isSome) :
    (other.entries? path).isSome := by
  obtain ⟨entries, hentries⟩ := Option.isSome_iff_exists.mp h
  obtain ⟨directory, hreach, hat⟩ := entries?_eq_some_iff.mp hentries
  have hsome : (other.root.at? directory).isSome := hshape.there.isSome_at? (by rw [hat]; rfl)
  obtain ⟨inner, hinner⟩ := Option.isSome_iff_exists.mp hsome
  rw [entries?_eq_some_iff.mpr ⟨directory, hshape.reach_eq_ok hreach, hinner⟩]
  rfl

/-- Trees of the same shape have directories that can be listed at the same paths. -/
theorem SameShape.isSome_entries?_eq (hshape : tree.SameShape other) (path : Path) :
    (other.entries? path).isSome = (tree.entries? path).isSome :=
  Bool.eq_iff_iff.mpr ⟨hshape.symm.isSome_entries?, hshape.isSome_entries?⟩

end Tree

end TextChunking
