import Mathlib
import TextChunking.Proofs.Files.Paths
import TextChunking.Proofs.Files.Shapes
/-!
# Paths of any length

A directory has paths of any length: in front of its name there may be any number of single dots
(`Path.behindDots`). Such a path leads to the directory until it is too long (`Tree.entries?_behindDots`), and its
files have paths that are longer still.
-/

namespace TextChunking

namespace Path

variable {name : String}

/-- A name behind a number of single dots: a path as long as one likes, which leads to where the name does. -/
def behindDots (name : String) : Nat → Path
  | 0 => name
  | count + 1 => "./" ++ behindDots name count

/-- All the dots are names of their own, in front of the file. -/
theorem names_behindDots (h : IsFileName name) (count : Nat) :
    names (behindDots name count) = List.replicate count "." ++ [name] := by
  induction count with
  | zero => exact h.names_eq
  | succ count ih =>
    have hdot : names "./" = ["."] := by decide +kernel
    rw [behindDots, names_append, hdot, ih]
    · rfl
    · intro x hx y _
      left
      simpa using hx.symm

/-- Each dot with its slash takes two bytes, so that a path can be made as long as one likes. -/
theorem utf8ByteSize_behindDots (name : String) (count : Nat) :
    (behindDots name count).utf8ByteSize = 2 * count + name.utf8ByteSize := by
  induction count with
  | zero => simp [behindDots]
  | succ count ih =>
    have hdot : ("./" : String).utf8ByteSize = 2 := by decide
    rw [behindDots, String.utf8ByteSize_append, ih, hdot]
    omega

/-- The path is not empty, for the name of the file is not. -/
theorem isEmpty_behindDots (h : IsFileName name) (count : Nat) : (behindDots name count).isEmpty = false := by
  cases count with
  | zero => simpa [behindDots] using h.ne_empty
  | succ count => simp [behindDots]

/-- The path ends with the name of the file, and so in no slash. -/
theorem endsInSlash_behindDots (h : IsFileName name) (count : Nat) : (behindDots name count).endsInSlash = false := by
  rw [endsInSlash, beq_eq_false_iff_ne]
  induction count with
  | zero => exact fun hlast => h.slash_notMem (List.mem_of_getLast? hlast)
  | succ count ih =>
    have hne : (behindDots name count).toList ≠ [] := by
      simpa [String.isEmpty_iff] using isEmpty_behindDots h count
    rw [behindDots, String.toList_append, List.getLast?_append_of_ne_nil _ hne]
    exact ih

/-- The path starts with a dot or with the name, and so not at the root. -/
theorem isAbsolute_behindDots (h : IsFileName name) (count : Nat) : (behindDots name count).isAbsolute = false := by
  cases count with
  | zero => exact h.isAbsolute_eq_false
  | succ count => rw [isAbsolute, behindDots, String.toList_append]; rfl

/-- Any character but a dot and a slash occurs in the path only if it occurs in the name. -/
theorem notMem_behindDots {c : Char} (hname : c ∉ name.toList) (hdot : c ≠ '.') (hslash : c ≠ '/') (count : Nat) :
    c ∉ (behindDots name count).toList := by
  induction count with
  | zero => exact hname
  | succ count ih =>
    rw [behindDots, String.toList_append, List.mem_append, not_or]
    exact ⟨by simp [hdot, hslash], ih⟩

/-- A file below the path adds its name and one slash to the length. -/
theorem utf8ByteSize_join_behindDots (h : IsFileName name) {other : String} (hother : IsFileName other)
    (count : Nat) : ((behindDots name count).join other).utf8ByteSize =
      2 * count + name.utf8ByteSize + 1 + other.utf8ByteSize := by
  rw [join, hother.isAbsolute_eq_false, isEmpty_behindDots h, endsInSlash_behindDots h]
  have hslash : ("/" : String).utf8ByteSize = 1 := by decide
  simp only [Bool.or_self, Bool.false_eq_true, if_false, String.utf8ByteSize_append, utf8ByteSize_behindDots, hslash]

end Path

namespace Tree

variable {tree : Tree} {purpose : Purpose} {links : Nat} {asDirectory : Bool} {directory todo : List String}
  {place : Place}

/-- Single dots lead nowhere else. -/
theorem Leads.replicate_here (h : Leads tree purpose links asDirectory directory todo place) (count : Nat) :
    Leads tree purpose links asDirectory directory (List.replicate count "." ++ todo) place := by
  induction count with
  | zero => exact h
  | succ count ih => exact .here ih

/-- A directory of the working directory is found behind dots, as long as the path is not too long and the system
does not refuse it. -/
theorem entries?_behindDots {name : String} {count : Nat} {entries : Entries} (hname : Path.IsFileName name)
    (hallowed : tree.refusal? .look (Path.behindDots name count) = none)
    (hnul : '\x00' ∉ name.toList) (hbytes : name.utf8ByteSize ≤ maxNameBytes)
    (hlength : 2 * count + name.utf8ByteSize < maxPathBytes)
    (hentries : tree.root.node? tree.working name = some (.directory entries)) :
    tree.entries? (Path.behindDots name count) = some entries := by
  have hpath : pathFault? (Path.behindDots name count) = none := by
    have hcontains : (Path.behindDots name count).toList.contains '\x00' = false := by
      simpa using Path.notMem_behindDots hnul (by decide) (by decide) count
    have hlong : isTooLong (Path.behindDots name count) = false := by
      simpa [isTooLong, Path.utf8ByteSize_behindDots] using hlength
    exact pathFault?_eq_none hcontains (Path.isEmpty_behindDots hname _) hlong
  refine entries?_eq_some_iff.mpr ⟨tree.working ++ [name],
    reach_eq_ok_iff.mpr ⟨hallowed, follow_eq_ok_iff.mpr ⟨hpath, ?_⟩⟩, Entries.at?_concat_of_node? hentries⟩
  rw [Path.endsInSlash_behindDots hname, startOf, Path.isAbsolute_behindDots hname, Path.names_behindDots hname]
  have hvalid : IsName name := ⟨hname.ne_here, hname.ne_above, hbytes⟩
  have hinside : Leads tree .use maxLinks false tree.working.reverse [name]
      (.inside (name :: tree.working.reverse).reverse) := by
    have hnode : tree.root.node? tree.working.reverse.reverse name = some (.directory entries) := by
      rw [List.reverse_reverse, hentries]
    exact .enter hvalid rfl hnode .inside
  simpa [purposeOf] using hinside.replicate_here count

end Tree

end TextChunking
