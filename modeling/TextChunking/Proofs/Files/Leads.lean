import Mathlib
import TextChunking.Files.Tree
/-!
# Where paths lead

`Tree.Leads` has one rule for each way in which a name of a path is used, and says exactly when following
names leads to a place (`leads_of_followFrom`, `followFrom_of_leads`). So a proof about paths is an induction
with eight cases, none of them a fault. Two such proofs are here: names lead from a directory that exists to
places that are in the tree (`Leads.hasPlace`), and names at the end of which a file is made lead to this file
(`Leads.use_of_extend`). What is made takes nothing else away (`Entries.extend_update_set`).
-/

namespace TextChunking

/-! ### Entries -/

namespace Entries

/-- A name is looked up in the first entry, else in the others. -/
theorem get?_cons (name : String) (entry : String × Node) (rest : Entries) :
    get? name (entry :: rest) = if entry.1 = name then some entry.2 else get? name rest := by
  by_cases h : entry.1 = name <;> simp [get?, h]

/-- The node that was set is found under its name. -/
theorem get?_set_self (name : String) (node : Node) (entries : Entries) :
    get? name (set name node entries) = some node := by
  induction entries with
  | nil => simp [set, get?]
  | cons entry rest ih =>
    rw [set]
    split
    · rw [get?_cons, if_pos rfl]
    · rename_i h
      rw [get?_cons, if_neg (by simpa using h), ih]

/-- Under any other name, what is found stays the same. -/
theorem get?_set_of_ne {name other : String} (h : name ≠ other) (node : Node) (entries : Entries) :
    get? other (set name node entries) = get? other entries := by
  induction entries with
  | nil => simp [set, get?, h]
  | cons entry rest ih =>
    rw [set]
    split
    · rename_i hname
      have hname : entry.1 = name := by simpa using hname
      rw [get?_cons, if_neg h, get?_cons, if_neg (hname ▸ h)]
    · rw [get?_cons, get?_cons, ih]

/-- The node with a name in the directory that a row of names leads to. -/
def node? (entries : Entries) (directory : List String) (name : String) : Option Node :=
  (entries.at? directory).bind (get? name)

/-- A directory is found below another by descending in two parts. -/
theorem at?_append (entries : Entries) (front back : List String) :
    entries.at? (front ++ back) = (entries.at? front).bind (at? · back) := by
  induction front generalizing entries with
  | nil => rfl
  | cons name front ih =>
    rw [List.cons_append, at?, at?]
    split
    · exact ih _
    · rfl

/-- The entries of a directory in a directory that exists. -/
theorem at?_concat_of_node? {entries inner : Entries} {directory : List String} {name : String}
    (h : entries.node? directory name = some (.directory inner)) :
    entries.at? (directory ++ [name]) = some inner := by
  obtain ⟨outer, houter, hname⟩ := Option.bind_eq_some_iff.mp h
  rw [at?_append, houter, Option.bind_some, at?, hname]
  rfl

/-- Directories lie in directories. -/
theorem isSome_at?_of_append {entries : Entries} {front back : List String}
    (h : (entries.at? (front ++ back)).isSome) : (entries.at? front).isSome := by
  rw [at?_append] at h
  cases hfront : entries.at? front with
  | none => rw [hfront] at h; exact h
  | some inner => rfl

/-- A node is looked up below the first name, if that is a directory. -/
theorem node?_cons (entries : Entries) (first : String) (rest : List String) (name : String) :
    entries.node? (first :: rest) name =
      match entries.get? first with
      | some (.directory inner) => node? inner rest name
      | _ => none := by
  rw [node?, at?]
  cases entries.get? first with
  | none => rfl
  | some found => cases found <;> rfl

end Entries

/-- Nodes that only differ in what lies in a directory. -/
inductive Node.SameKind : Node → Node → Prop
  | file (id : Nat) : SameKind (.file id) (.file id)
  | directory (entries others : Entries) : SameKind (.directory entries) (.directory others)
  | link (target : Path) : SameKind (.link target) (.link target)

/-- Every node is of its own kind. -/
theorem Node.SameKind.refl (node : Node) : node.SameKind node := by
  cases node with
  | file id => exact .file id
  | directory entries => exact .directory entries entries
  | link target => exact .link target

namespace Entries

/-- All nodes of some entries have nodes of the same kind in their places among others. -/
def Extend (entries others : Entries) : Prop :=
  ∀ directory name node, entries.node? directory name = some node →
    ∃ other, others.node? directory name = some other ∧ node.SameKind other

/-- Entries extend themselves. -/
theorem Extend.refl (entries : Entries) : Extend entries entries :=
  fun _ _ node h => ⟨node, h, .refl node⟩

/-- A new node is found in its place. -/
theorem node?_update_set {entries : Entries} {directory : List String}
    (h : (entries.at? directory).isSome) (name : String) (node : Node) :
    (entries.update (set name node) directory).node? directory name = some node := by
  induction directory generalizing entries with
  | nil => exact get?_set_self name node entries
  | cons first rest ih =>
    cases hfirst : entries.get? first with
    | none => simp [at?, hfirst] at h
    | some found =>
      cases found with
      | directory inner =>
        have hinner : (at? inner rest).isSome := by simpa [at?, hfirst] using h
        simp only [update, hfirst, node?_cons, get?_set_self]
        exact ih hinner
      | _ => simp [at?, hfirst] at h

/-- A new node in a free place takes no other node away. -/
theorem extend_update_set {entries : Entries} {directory : List String} {name : String}
    (h : entries.node? directory name = none) (node : Node) :
    Extend entries (entries.update (set name node) directory) := by
  induction directory generalizing entries with
  | nil =>
    intro inside other found hfound
    refine ⟨found, ?_, .refl found⟩
    cases inside with
    | nil =>
      have hne : name ≠ other := by
        rintro rfl
        cases h.symm.trans hfound
      exact (get?_set_of_ne hne node entries).trans hfound
    | cons first rest =>
      have hne : name ≠ first := by
        rintro rfl
        rw [node?_cons, show entries.get? name = none from h] at hfound
        cases hfound
      rw [update, node?_cons, get?_set_of_ne hne]
      rwa [node?_cons] at hfound
  | cons first rest ih =>
    rw [node?_cons] at h
    rw [update]
    split
    · rename_i inner hfirst
      simp only [hfirst] at h
      intro inside other found hfound
      cases inside with
      | nil =>
        by_cases hother : first = other
        · subst hother
          have hsame : found = .directory inner := Option.some.inj (hfound.symm.trans hfirst)
          refine ⟨_, get?_set_self _ _ _, ?_⟩
          rw [hsame]
          exact .directory _ _
        · exact ⟨found, (get?_set_of_ne hother _ _).trans hfound, .refl found⟩
      | cons next more =>
        by_cases hnext : first = next
        · subst hnext
          rw [node?_cons, hfirst] at hfound
          rw [node?_cons, get?_set_self]
          exact ih h more other found hfound
        · rw [node?_cons, get?_set_of_ne hnext]
          rw [node?_cons] at hfound
          exact ⟨found, hfound, .refl found⟩
    · exact Extend.refl entries

end Entries

/-! ### Following -/

namespace Tree

/-- A name that an entry of a directory can have. -/
structure IsName (name : String) : Prop where
  ne_here : name ≠ "."
  ne_above : name ≠ ".."
  size_le : name.utf8ByteSize ≤ maxNameBytes

/-- What the names in `todo` lead to from a directory, as far as they lead anywhere: one rule for each way in
which a name is used. The arguments are those of `followFrom`. -/
inductive Leads (tree : Tree) (purpose : Purpose) :
    Nat → Bool → List String → List String → Place → Prop
  | inside {links : Nat} {asDirectory : Bool} {directory : List String} :
      Leads tree purpose links asDirectory directory [] (.inside directory.reverse)
  | here {links : Nat} {asDirectory : Bool} {directory todo : List String} {place : Place} :
      Leads tree purpose links asDirectory directory todo place →
      Leads tree purpose links asDirectory directory ("." :: todo) place
  | above {links : Nat} {asDirectory : Bool} {directory todo : List String} {place : Place} :
      Leads tree purpose links asDirectory directory.tail todo place →
      Leads tree purpose links asDirectory directory (".." :: todo) place
  | vacant {links : Nat} {directory : List String} {name : String} (valid : IsName name)
      (free : tree.root.node? directory.reverse name = none) :
      Leads tree purpose links false directory [name] (.vacant directory.reverse name)
  | file {links : Nat} {directory : List String} {name : String} {id : Nat} (valid : IsName name)
      (found : tree.root.node? directory.reverse name = some (.file id)) :
      Leads tree purpose links false directory [name] (.node directory.reverse name (.file id))
  | link {links : Nat} {directory : List String} {name : String} {target : Path} (valid : IsName name)
      (found : tree.root.node? directory.reverse name = some (.link target)) (isName : purpose = .name) :
      Leads tree purpose links false directory [name] (.node directory.reverse name (.link target))
  | enter {links : Nat} {asDirectory : Bool} {directory todo : List String} {name : String}
      {entries : Entries} {place : Place} (valid : IsName name)
      (allowed : (todo.isEmpty && asDirectory && purpose == .create) = false)
      (found : tree.root.node? directory.reverse name = some (.directory entries)) :
      Leads tree purpose links asDirectory (name :: directory) todo place →
      Leads tree purpose links asDirectory directory (name :: todo) place
  | through {links : Nat} {asDirectory : Bool} {directory todo : List String} {name : String}
      {target : Path} {place : Place} (valid : IsName name)
      (allowed : (todo.isEmpty && asDirectory && purpose == .create) = false)
      (found : tree.root.node? directory.reverse name = some (.link target))
      (passed : (todo.isEmpty && purpose == .name) = false) :
      Leads tree purpose links (asDirectory || (todo.isEmpty && target.endsInSlash))
        (if target.isAbsolute then [] else directory) (target.names ++ todo) place →
      Leads tree purpose (links + 1) asDirectory directory (name :: todo) place

variable {tree : Tree} {purpose : Purpose} {links : Nat} {asDirectory : Bool}
  {directory todo : List String} {place : Place}

/-- One proper name is followed by looking its node up; the rest of the path decides what becomes of it. -/
theorem followFrom_cons {name : String} (valid : IsName name) :
    tree.followFrom purpose links asDirectory directory (name :: todo) =
      if todo.isEmpty && asDirectory && purpose == .create then .error .isDirectory
      else match tree.root.node? directory.reverse name with
        | none =>
          if todo.isEmpty && !asDirectory then .ok (.vacant directory.reverse name)
          else .error .notFound
        | some (.directory _) => followFrom tree purpose links asDirectory (name :: directory) todo
        | some (.file id) =>
          if todo.isEmpty && !asDirectory then .ok (.node directory.reverse name (.file id))
          else .error .notDirectory
        | some (.link target) =>
          if todo.isEmpty && purpose == .name then
            if asDirectory then .error .notDirectory
            else .ok (.node directory.reverse name (.link target))
          else match links with
            | 0 => .error .tooManyLinks
            | links + 1 =>
              followFrom tree purpose links (asDirectory || (todo.isEmpty && target.endsInSlash))
                (if target.isAbsolute then [] else directory) (target.names ++ todo) := by
  obtain ⟨hhere, habove, hsize⟩ := valid
  rw [followFrom, if_neg (Nat.not_lt.mpr hsize)]
  · rfl
  · exact hhere
  · exact habove

/-- Following takes every path to the place that it leads to, by induction on its steps. -/
theorem followFrom_of_leads
    (h : Leads tree purpose links asDirectory directory todo place) :
    tree.followFrom purpose links asDirectory directory todo = .ok place := by
  induction h with
  | inside => rw [followFrom]
  | here _ ih => rw [followFrom, ih]
  | above _ ih => rw [followFrom, ih]
  | vacant valid free => simp [followFrom_cons valid, free]
  | file valid found => simp [followFrom_cons valid, found]
  | link valid found isName => simp [followFrom_cons valid, found, isName]
  | enter valid allowed found _ ih =>
    rw [followFrom_cons valid, allowed]
    simpa [found] using ih
  | through valid allowed found passed _ ih =>
    rw [followFrom_cons valid, allowed]
    simpa [found, passed] using ih

/-- A name that is followed, other than the two dotted ones, is no longer than a name may be. -/
theorem isName_of_followFrom_cons {name : String} (hhere : name ≠ ".") (habove : name ≠ "..")
    (h : tree.followFrom purpose links asDirectory directory (name :: todo) = .ok place) :
    IsName name := by
  refine ⟨hhere, habove, Nat.not_lt.mp fun hsize => ?_⟩
  rw [followFrom, if_pos hsize] at h
  · split at h <;> cases h
  · exact hhere
  · exact habove

/-- Nothing else leads anywhere. The recursion is that of `followFrom`. -/
theorem leads_of_followFrom {links : Nat} {asDirectory : Bool} {directory todo : List String}
    (h : tree.followFrom purpose links asDirectory directory todo = .ok place) :
    Leads tree purpose links asDirectory directory todo place := by
  match todo with
  | [] =>
    rw [followFrom] at h
    cases h
    exact .inside
  | name :: todo =>
    by_cases hhere : name = "."
    · subst hhere
      rw [followFrom] at h
      exact .here (leads_of_followFrom h)
    by_cases habove : name = ".."
    · subst habove
      rw [followFrom] at h
      exact .above (leads_of_followFrom h)
    have valid := isName_of_followFrom_cons hhere habove h
    rw [followFrom_cons valid] at h
    split at h
    · cases h
    rename_i hallowed
    have allowed := Bool.eq_false_iff.mpr hallowed
    split at h
    · rename_i free
      split at h
      · rename_i hlast
        simp only [Bool.and_eq_true, List.isEmpty_iff, Bool.not_eq_true'] at hlast
        obtain ⟨rfl, rfl⟩ := hlast
        cases h
        exact .vacant valid free
      · cases h
    · rename_i entries found
      exact .enter valid allowed found (leads_of_followFrom h)
    · rename_i id found
      split at h
      · rename_i hlast
        simp only [Bool.and_eq_true, List.isEmpty_iff, Bool.not_eq_true'] at hlast
        obtain ⟨rfl, rfl⟩ := hlast
        cases h
        exact .file valid found
      · cases h
    · rename_i target found
      split at h
      · rename_i hlast
        simp only [Bool.and_eq_true, List.isEmpty_iff, beq_iff_eq] at hlast
        obtain ⟨rfl, hpurpose⟩ := hlast
        split at h
        · cases h
        · rename_i hslash
          cases h
          rw [Bool.eq_false_iff.mpr hslash]
          exact .link valid found hpurpose
      · rename_i hpassed
        split at h
        · cases h
        · exact .through valid allowed found (Bool.eq_false_iff.mpr hpassed) (leads_of_followFrom h)
termination_by (links, todo.length)

/-- A path is fit to be followed if no character and no length of it is at fault. -/
theorem pathFault?_eq_none {path : Path} (hnul : path.toList.contains '\x00' = false) (hempty : path.isEmpty = false)
    (hlong : isTooLong path = false) : pathFault? path = none := by
  rw [pathFault?, hnul, hempty, hlong]
  rfl

/-- A path is followed to a place exactly if nothing is wrong with the path by itself and it leads there. -/
theorem follow_eq_ok_iff {path : Path} : tree.follow purpose path = .ok place ↔
    pathFault? path = none ∧
      Leads tree purpose maxLinks path.endsInSlash (tree.startOf path) path.names place := by
  rw [follow]
  cases pathFault? path with
  | some fault => simp
  | none => exact ⟨fun h => ⟨rfl, leads_of_followFrom h⟩, fun h => followFrom_of_leads h.2⟩

/-- What a path leads to is reached unless the system refuses that. -/
theorem reach_eq_ok_iff {access : Access} {path : Path} : tree.reach access path = .ok place ↔
    tree.refusal? access path = none ∧ tree.follow (purposeOf access) path = .ok place := by
  rw [reach]
  cases tree.refusal? access path <;> simp

/-- A place that is in the tree: its directory exists, and what the place says is in it is. A directory is
itself such a place, and no node in another one. -/
def HasPlace (tree : Tree) : Place → Prop
  | .node directory name node =>
    tree.root.node? directory name = some node ∧ ∀ entries, node ≠ .directory entries
  | .inside directory => (tree.root.at? directory).isSome
  | .vacant directory name =>
    (tree.root.at? directory).isSome ∧ tree.root.node? directory name = none

/-- Names lead from a directory that exists to places in the tree. -/
theorem Leads.hasPlace (h : Leads tree purpose links asDirectory directory todo place)
    (hdirectory : (tree.root.at? directory.reverse).isSome) : tree.HasPlace place := by
  induction h with
  | inside => exact hdirectory
  | here _ ih => exact ih hdirectory
  | @above links asDirectory directory todo place _ ih =>
    refine ih ?_
    cases directory with
    | nil => exact hdirectory
    | cons name outer =>
      rw [List.reverse_cons] at hdirectory
      exact Entries.isSome_at?_of_append hdirectory
  | vacant _ free => exact ⟨hdirectory, free⟩
  | file _ found => exact ⟨found, nofun⟩
  | link _ found _ => exact ⟨found, nofun⟩
  | enter _ _ found _ ih =>
    refine ih ?_
    rw [List.reverse_cons, Entries.at?_concat_of_node? found]
    rfl
  | through _ _ found _ _ ih =>
    refine ih ?_
    split
    · rfl
    · exact hdirectory

/-- Names that lead to a file, or to where it is then made, lead to it also in a tree with more in it. -/
theorem Leads.use_of_extend {other : Tree} (h : Leads tree purpose links asDirectory directory todo place)
    (hpurpose : purpose ≠ .name) (hextend : tree.root.Extend other.root) {parent : List String}
    {name : String} {id : Nat}
    (hplace : place = .vacant parent name ∧ other.root.node? parent name = some (.file id) ∨
      place = .node parent name (.file id)) :
    Leads other .use links asDirectory directory todo (.node parent name (.file id)) := by
  induction h with
  | inside => simp at hplace
  | here _ ih => exact .here (ih hplace)
  | above _ ih => exact .above (ih hplace)
  | vacant valid _ =>
    obtain ⟨⟨rfl, rfl⟩, hfile⟩ : (_ = parent ∧ _ = name) ∧ _ := by simpa using hplace
    exact .file valid hfile
  | file valid found =>
    obtain ⟨rfl, rfl, rfl⟩ : _ = parent ∧ _ = name ∧ _ = id := by simpa using hplace
    obtain ⟨node, hnode, hkind⟩ := hextend _ _ _ found
    cases hkind
    exact .file valid hnode
  | link _ _ isName => exact absurd isName hpurpose
  | enter valid _ found _ ih =>
    obtain ⟨node, hnode, hkind⟩ := hextend _ _ _ found
    cases hkind
    exact .enter valid (by simp) hnode (ih hplace)
  | through valid _ found _ _ ih =>
    obtain ⟨node, hnode, hkind⟩ := hextend _ _ _ found
    cases hkind
    exact .through valid (by simp) hnode (by simp) (ih hplace)

end Tree

end TextChunking
