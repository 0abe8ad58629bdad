import Mathlib
import TextChunking.Proofs.Files.Contents
/-!
# Opening a file that is there

What a path leads to depends on what it is followed for: no slash may stand behind the name of a file that is to
be made. The path of a file has no such slash in its way (`Leads.create_of_use`). So it opens this file for
writing, unless the system refuses that (`Tree.create_of_holds`), and what the file held is gone with that, whatever
happens afterwards (`Tree.holds_of_create`).
-/

namespace TextChunking

namespace Tree

variable {tree : Tree} {purpose : Purpose} {links : Nat} {asDirectory : Bool}
  {directory todo : List String} {place : Place}

/-- Behind a slash there are directories only. -/
theorem Leads.exists_eq_inside (h : Leads tree purpose links asDirectory directory todo place)
    (hslash : asDirectory = true) : ∃ inside, place = .inside inside := by
  induction h with
  | inside => exact ⟨_, rfl⟩
  | here _ ih => exact ih hslash
  | above _ ih => exact ih hslash
  | vacant => cases hslash
  | file => cases hslash
  | link => cases hslash
  | enter _ _ _ _ ih => exact ih hslash
  | through _ _ _ _ _ ih => exact ih (by rw [hslash, Bool.true_or])

/-- A row of names that leads to a node, and not to a directory, has no slash behind its last name. -/
theorem Leads.isLast_eq_false (h : Leads tree purpose links asDirectory directory todo place)
    (hplace : ∀ inside, place ≠ .inside inside) : (todo.isEmpty && asDirectory) = false := by
  refine Bool.eq_false_iff.mpr fun hlast => ?_
  obtain ⟨-, hslash⟩ := Bool.and_eq_true_iff.mp hlast
  obtain ⟨inside, rfl⟩ := h.exists_eq_inside hslash
  exact hplace inside rfl

/-- The names of a file that is there can be used to make it. -/
theorem Leads.create_of_use (h : Leads tree .use links asDirectory directory todo place)
    (hplace : ∀ inside, place ≠ .inside inside) :
    Leads tree .create links asDirectory directory todo place := by
  induction h with
  | inside => exact absurd rfl (hplace _)
  | here _ ih => exact .here (ih hplace)
  | above _ ih => exact .above (ih hplace)
  | vacant valid free => exact .vacant valid free
  | file valid found => exact .file valid found
  | link _ _ isName => cases isName
  | enter valid _ found hrest ih =>
    refine .enter valid ?_ found (ih hplace)
    rw [hrest.isLast_eq_false hplace, Bool.false_and]
  | @through links asDirectory directory todo name target place valid _ found _ hrest ih =>
    refine .through valid ?_ found ?_ (ih hplace)
    · refine Bool.eq_false_iff.mpr fun hlast => ?_
      obtain ⟨hlast, -⟩ := Bool.and_eq_true_iff.mp hlast
      obtain ⟨-, hslash⟩ := Bool.and_eq_true_iff.mp hlast
      obtain ⟨inside, rfl⟩ := hrest.exists_eq_inside (by rw [hslash, Bool.true_or])
      exact hplace inside rfl
    · rw [show (Purpose.create == Purpose.name) = false from rfl, Bool.and_false]

/-! ### Files by their paths -/

variable {path : Path} {old : ByteArray}

/-- A file that is there is opened for writing, unless the system refuses that. -/
theorem create_of_isFileAt {id : Nat} (hallowed : tree.refusal? .create path = none) (h : tree.IsFileAt path id) :
    tree.create path = .ok ({ tree with contents := tree.contents.setIfInBounds id ByteArray.empty }, id) := by
  obtain ⟨directory, name, hfollow⟩ := h
  obtain ⟨hpath, hleads⟩ := follow_eq_ok_iff.mp hfollow
  have hcreate : tree.follow .create path = .ok (.node directory name (.file id)) :=
    follow_eq_ok_iff.mpr ⟨hpath, hleads.create_of_use nofun⟩
  rw [create, reach_eq_ok_iff.mpr ⟨hallowed, hcreate⟩]

/-- What is refused is not opened. -/
theorem create_of_refusal? {fault : FileFault} (h : tree.refusal? .create path = some fault) :
    tree.create path = .error fault := by
  rw [create, reach, h]

/-- A file that is there can be opened for writing, unless the system refuses that. -/
theorem create_of_holds (hallowed : tree.refusal? .create path = none) (h : tree.Holds path old) :
    ∃ opened, tree.create path = .ok opened := by
  obtain ⟨id, hfile, -⟩ := h
  exact ⟨_, create_of_isFileAt hallowed hfile⟩

/-- A file that was there and is opened for writing is empty. -/
theorem holds_of_create {opened : Tree × Nat} (h : tree.Holds path old)
    (hopen : tree.create path = .ok opened) : opened.1.Holds path ByteArray.empty := by
  obtain ⟨id, ⟨directory, name, hfollow⟩, -⟩ := h
  cases hrefused : tree.refusal? .create path with
  | some fault => cases (create_of_refusal? hrefused).symm.trans hopen
  | none =>
  rw [create_of_isFileAt hrefused ⟨directory, name, hfollow⟩] at hopen
  cases hopen
  refine ⟨id, ?_, ?_⟩
  · apply isFileAt_of_follow hfollow nofun
    · rfl
    · exact .refl _
    · exact .inr rfl
  · by_cases hbound : id < tree.contents.size <;> simp [bytesOf, hbound]

end Tree

end TextChunking
