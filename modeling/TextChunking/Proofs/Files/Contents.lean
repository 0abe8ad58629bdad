import Mathlib
import TextChunking.Proofs.Files.Leads
/-!
# The contents of files

A file that is opened for writing is empty and is where its path leads (`Tree.create_spec`), provided that the
working directory exists and no contents are missing (`Tree.IsWhole`). What is written at its end is put
behind what it holds (`Tree.bytesOf_writeAt_size`) and moves no file (`Tree.IsFileAt.writeAt`). What the file at a
path holds (`Tree.Holds`) is what is read there unless the system refuses that (`Tree.readBytes_eq_ok_iff`).
-/

namespace TextChunking

namespace Tree

variable {tree : Tree} {place : Place}

/-! ### Files -/

/-- What holds of every tree: the working directory exists, and the contents of every file are kept. -/
structure IsWhole (tree : Tree) : Prop where
  working : (tree.root.at? tree.working).isSome
  contents : ∀ directory name id, tree.root.node? directory name = some (.file id) →
    id < tree.contents.size

/-- A path leads to the file with a number. -/
def IsFileAt (tree : Tree) (path : Path) (id : Nat) : Prop :=
  ∃ directory name, tree.follow .use path = .ok (.node directory name (.file id))

/-- What the file at a path holds, whether it may be read or not. -/
def Holds (tree : Tree) (path : Path) (bytes : ByteArray) : Prop :=
  ∃ id, tree.IsFileAt path id ∧ tree.bytesOf id = bytes

/-- A path leads to one file, which holds what it holds. -/
theorem Holds.unique {path : Path} {bytes others : ByteArray} (h : tree.Holds path bytes)
    (hothers : tree.Holds path others) : bytes = others := by
  obtain ⟨id, ⟨directory, name, hfollow⟩, rfl⟩ := h
  obtain ⟨other, ⟨outer, last, hother⟩, rfl⟩ := hothers
  cases hfollow.symm.trans hother
  rfl

/-- What is read at a path is what the file there holds, unless the system refuses it. -/
theorem readBytes_eq_ok_iff {path : Path} {bytes : ByteArray} :
    tree.readBytes path = .ok bytes ↔ tree.refusal? .read path = none ∧ tree.Holds path bytes := by
  constructor
  · intro h
    rw [readBytes] at h
    split at h
    · rename_i directory name id hreach
      obtain ⟨hallowed, hfollow⟩ := reach_eq_ok_iff.mp hreach
      cases h
      exact ⟨hallowed, id, ⟨directory, name, hfollow⟩, rfl⟩
    all_goals cases h
  · rintro ⟨hallowed, id, ⟨directory, name, hfollow⟩, rfl⟩
    rw [readBytes, reach_eq_ok_iff.mpr ⟨hallowed, hfollow⟩]

/-- Where a path starts, be it the root or the working directory, there is a directory. -/
theorem isSome_at?_startOf (h : tree.IsWhole) (path : Path) :
    (tree.root.at? (tree.startOf path).reverse).isSome := by
  rw [startOf]
  split
  · rfl
  · rw [List.reverse_reverse]
    exact h.working

/-- A path that led to a file, or to where it was then made, leads to it also in a tree with more in it. -/
theorem isFileAt_of_follow {other : Tree} {purpose : Purpose} {path : Path}
    (hfollow : tree.follow purpose path = .ok place) (hpurpose : purpose ≠ .name)
    (hworking : other.working = tree.working) (hextend : tree.root.Extend other.root)
    {parent : List String} {name : String} {id : Nat}
    (hplace : place = .vacant parent name ∧ other.root.node? parent name = some (.file id) ∨
      place = .node parent name (.file id)) : other.IsFileAt path id := by
  obtain ⟨hpath, hleads⟩ := follow_eq_ok_iff.mp hfollow
  have hstart : other.startOf path = tree.startOf path := by rw [startOf, startOf, hworking]
  refine ⟨parent, name, follow_eq_ok_iff.mpr ⟨hpath, ?_⟩⟩
  rw [hstart]
  exact hleads.use_of_extend hpurpose hextend hplace

/-- A file is opened for writing where one is, or where one can be put. -/
theorem create_cases {made : Tree} {path : Path} {id : Nat} (h : tree.create path = .ok (made, id)) :
    (∃ directory name, tree.follow .create path = .ok (.node directory name (.file id)) ∧
      made = { tree with contents := tree.contents.setIfInBounds id ByteArray.empty }) ∨
    ∃ directory name, tree.follow .create path = .ok (.vacant directory name) ∧
      id = tree.contents.size ∧
      made = { tree.put directory name (.file id) with contents := tree.contents.push ByteArray.empty } := by
  rw [create] at h
  cases hreach : tree.reach .create path with
  | error fault => rw [hreach] at h; cases h
  | ok place =>
    rw [hreach] at h
    obtain ⟨-, hfollow⟩ := reach_eq_ok_iff.mp hreach
    cases place with
    | inside directory => cases h
    | vacant directory name =>
      cases h
      exact .inr ⟨directory, name, hfollow, rfl, rfl⟩
    | node directory name node =>
      cases node with
      | file old =>
        cases h
        exact .inl ⟨directory, name, hfollow, rfl⟩
      | _ => cases h

/-- A path that leads to a place leads to one in the tree. -/
theorem IsWhole.hasPlace (h : tree.IsWhole) {purpose : Purpose} {path : Path}
    (hfollow : tree.follow purpose path = .ok place) : tree.HasPlace place :=
  (follow_eq_ok_iff.mp hfollow).2.hasPlace (isSome_at?_startOf h path)

/-- A file that is opened for writing is empty, and its path leads to it. -/
theorem create_spec {made : Tree} {path : Path} {id : Nat} (hwhole : tree.IsWhole)
    (h : tree.create path = .ok (made, id)) :
    id < made.contents.size ∧ made.bytesOf id = ByteArray.empty ∧ made.IsFileAt path id := by
  obtain ⟨directory, name, hfollow, rfl⟩ | ⟨directory, name, hfollow, rfl, rfl⟩ := create_cases h
  · have hbound : id < tree.contents.size := hwhole.contents _ _ _ (hwhole.hasPlace hfollow).1
    refine ⟨by simpa, by simp [bytesOf, hbound], ?_⟩
    apply isFileAt_of_follow hfollow nofun
    · rfl
    · exact .refl _
    · exact .inr rfl
  · obtain ⟨hdirectory, hfree⟩ := hwhole.hasPlace hfollow
    refine ⟨by simp, by simp [bytesOf], ?_⟩
    apply isFileAt_of_follow hfollow nofun
    · rfl
    · exact Entries.extend_update_set hfree _
    · exact .inl ⟨rfl, Entries.node?_update_set hdirectory name _⟩

/-! ### Writing -/

/-- What is written at an offset stands there, behind what was in front of it, with zeros where nothing was, and
before what reaches further. -/
theorem bytesOf_writeAt {id : Nat} (h : id < tree.contents.size) (offset : Nat) (bytes : ByteArray) :
    (tree.writeAt id offset bytes).bytesOf id =
      (tree.bytesOf id).extract 0 offset ++
        ByteArray.mk (Array.replicate (offset - (tree.bytesOf id).size) 0) ++ bytes ++
        (tree.bytesOf id).extract (offset + bytes.size) (tree.bytesOf id).size := by
  simp [writeAt, bytesOf, h]

/-- What is written at the end of a file is put behind what it holds. -/
theorem bytesOf_writeAt_size {id : Nat} (h : id < tree.contents.size) (bytes : ByteArray) :
    (tree.writeAt id (tree.bytesOf id).size bytes).bytesOf id = tree.bytesOf id ++ bytes := by
  have hgap : ByteArray.mk (Array.replicate 0 0) = ByteArray.empty := rfl
  have hback : (tree.bytesOf id).extract ((tree.bytesOf id).size + bytes.size) (tree.bytesOf id).size =
      ByteArray.empty := by
    rw [ByteArray.extract_eq_empty_iff]
    omega
  rw [bytesOf_writeAt h, Nat.sub_self, hgap, hback, ByteArray.extract_zero_size, ByteArray.append_empty,
    ByteArray.append_empty]

/-- Writing moves no file. -/
theorem IsFileAt.writeAt {path : Path} {found : Nat} (h : tree.IsFileAt path found) (id offset : Nat)
    (bytes : ByteArray) : (tree.writeAt id offset bytes).IsFileAt path found := by
  obtain ⟨parent, name, hfollow⟩ := h
  apply isFileAt_of_follow hfollow nofun
  · rfl
  · exact .refl _
  · exact .inr rfl

/-! ### Texts -/

/-- The bytes of a text decode to it. -/
theorem fromUTF8?_toUTF8 (s : String) : String.fromUTF8? s.toUTF8 = some s := by
  have hvalid : s.toUTF8.IsValidUTF8 := s.isValidUTF8
  rw [String.fromUTF8?, dif_pos hvalid]
  rfl

/-- A file that holds a text is read as this text, unless the system refuses it. -/
theorem Holds.readText {path : Path} {text : String} (h : tree.Holds path text.toUTF8)
    (hallowed : tree.refusal? .read path = none) : tree.readText path = .ok text := by
  simp only [Tree.readText, readBytes_eq_ok_iff.mpr ⟨hallowed, h⟩, bind, Except.bind, fromUTF8?_toUTF8]

end Tree

end TextChunking
