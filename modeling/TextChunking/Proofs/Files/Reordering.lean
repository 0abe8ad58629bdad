import Mathlib
import TextChunking.Proofs.Files.Paths
import TextChunking.Proofs.Files.Shapes
/-!
# The order of entries

A directory lists its entries in any order. Two trees may differ in nothing but these orders, at any depth
(`Tree.Reordered`). As the entries of a directory have different names (`Entries.IsProper`), the order cannot be told
by looking a name up (`Entries.Reordered.isProper_and_same?_get?`): the trees have the same shape
(`Tree.Reordered.sameShape`).
-/

namespace TextChunking

namespace Entries

/-- Entries as a file system has them: names of files, no name twice, and so in every directory below. -/
inductive IsProper : Entries → Prop
  | nil : IsProper []
  | cons {name : String} {node : Node} {rest : Entries} (valid : Path.IsFileName name)
      (fresh : get? name rest = none) (inside : ∀ inner, node = .directory inner → IsProper inner)
      (others : IsProper rest) : IsProper ((name, node) :: rest)

/-- Entries that differ in the order of their listing only, in all directories below too. -/
inductive Reordered : Entries → Entries → Prop
  | nil : Reordered [] []
  | cons (entry : String × Node) {entries others : Entries} : Reordered entries others →
      Reordered (entry :: entries) (entry :: others)
  | inside (name : String) {inner changed entries others : Entries} : Reordered inner changed →
      Reordered entries others →
      Reordered ((name, .directory inner) :: entries) ((name, .directory changed) :: others)
  | swap (first second : String × Node) (rest : Entries) :
      Reordered (first :: second :: rest) (second :: first :: rest)
  | trans {entries others third : Entries} : Reordered entries others → Reordered others third →
      Reordered entries third

/-- Entries are in one of their own orders. -/
theorem Reordered.refl (entries : Entries) : Reordered entries entries := by
  induction entries with
  | nil => exact .nil
  | cons entry rest ih => exact .cons entry ih

/-- Reordering can be undone. -/
theorem Reordered.symm {entries others : Entries} (h : Reordered entries others) :
    Reordered others entries := by
  induction h with
  | nil => exact .nil
  | cons entry _ ih => exact .cons entry ih
  | inside name _ _ ihInner ih => exact .inside name ihInner ih
  | swap first second rest => exact .swap second first rest
  | trans _ _ ihFirst ihSecond => exact .trans ihSecond ihFirst

end Entries

/-- Nodes that differ in the order of listings only. -/
inductive Node.Reordered : Node → Node → Prop
  | same (node : Node) : Node.Reordered node node
  | directory {inner changed : Entries} (h : inner.Reordered changed) :
      Node.Reordered (.directory inner) (.directory changed)

/-- Nodes may be reordered twice. -/
theorem Node.Reordered.trans {a b c : Node} (hab : a.Reordered b) (hbc : b.Reordered c) : a.Reordered c := by
  cases hab with
  | same => exact hbc
  | directory hab =>
    cases hbc with
    | same => exact .directory hab
    | directory hbc => exact .directory (.trans hab hbc)

/-- Two nodes, or two places without a node, that differ in the order of listings only. -/
abbrev Node.Same? : Option Node → Option Node → Prop := Option.Rel Node.Reordered

/-- What is found is the same as itself. -/
theorem Node.Same?.refl (found : Option Node) : Node.Same? found found := by
  cases found with
  | none => exact .none
  | some node => exact .some (.same node)

/-- Sameness of what is found is transitive. -/
theorem Node.Same?.trans {a b c : Option Node} (hab : Node.Same? a b) (hbc : Node.Same? b c) :
    Node.Same? a c := by
  cases hab with
  | none => exact hbc
  | some hab =>
    cases hbc with
    | some hbc => exact .some (hab.trans hbc)

/-- Where nothing is found, nothing is found after reordering. -/
theorem Node.Same?.eq_none {b : Option Node} (h : Node.Same? none b) : b = none := by
  cases h with
  | none => rfl

/-- Where a node is found, one that differs in order alone is found after reordering. -/
theorem Node.Same?.exists_eq_some {a : Node} {b : Option Node} (h : Node.Same? (some a) b) :
    ∃ node, b = some node ∧ a.Reordered node := by
  cases h with
  | some h => exact ⟨_, rfl, h⟩

/-- Reordering does not change the kind of a node. -/
theorem Node.Reordered.sameKind {a b : Node} (h : a.Reordered b) : a.SameKind b := by
  cases h with
  | same => exact .refl a
  | directory => exact .directory _ _

namespace Entries

variable {entries others : Entries}

/-! ### Proper entries -/

/-- What is found among proper entries has the name of a file, and a directory is proper again. -/
theorem IsProper.get? (h : entries.IsProper) {name : String} {node : Node}
    (hname : entries.get? name = some node) :
    Path.IsFileName name ∧ ∀ inner, node = .directory inner → IsProper inner := by
  induction h with
  | nil => cases hname
  | cons valid _ inside _ _ ih =>
    rw [get?_cons] at hname
    split at hname
    · rename_i heq
      cases hname
      exact ⟨heq ▸ valid, inside⟩
    · exact ih hname

/-- A directory far below proper entries is proper, and all names on the way are names of files. -/
theorem IsProper.at? (h : entries.IsProper) {directory : List String} {inner : Entries}
    (hinner : entries.at? directory = some inner) :
    (∀ name ∈ directory, Path.IsFileName name) ∧ inner.IsProper := by
  induction directory generalizing entries with
  | nil =>
    cases hinner
    exact ⟨nofun, h⟩
  | cons first rest ih =>
    rw [Entries.at?] at hinner
    split at hinner
    · rename_i found hfound
      obtain ⟨hfirst, hproper⟩ := h.get? hfound
      obtain ⟨hrest, hinner⟩ := ih (hproper found rfl) hinner
      exact ⟨List.forall_mem_cons.mpr ⟨hfirst, hrest⟩, hinner⟩
    · cases hinner

/-- The names that lead to a node are names of files. -/
theorem IsProper.forall_isFileName (h : entries.IsProper) {directory : List String} {name : String} {node : Node}
    (hnode : entries.node? directory name = some node) : ∀ other ∈ directory ++ [name], Path.IsFileName other := by
  obtain ⟨inner, hinner, hname⟩ := Option.bind_eq_some_iff.mp hnode
  obtain ⟨hdirectory, hproper⟩ := h.at? hinner
  exact List.forall_mem_append.mpr ⟨hdirectory, List.forall_mem_singleton.mpr (hproper.get? hname).1⟩

/-! ### Looking names up -/

/-- A single entry is found under its own name only. -/
theorem get?_singleton_eq_some_iff {name other : String} {node found : Node} :
    get? other [(name, node)] = some found ↔ name = other ∧ node = found := by
  rw [get?_cons]
  split <;> simp_all [Entries.get?]

/-- An entry in front of others that are the same keeps them the same, if it differs in order alone. -/
theorem same?_get?_cons {name other : String} {node changed : Node} (hnode : node.Reordered changed)
    (h : Node.Same? (entries.get? other) (others.get? other)) :
    Node.Same? (get? other ((name, node) :: entries)) (get? other ((name, changed) :: others)) := by
  rw [get?_cons, get?_cons]
  split
  · exact .some hnode
  · exact h

/-- Entries with different names can change places. -/
theorem get?_swap {first second : String} (h : first ≠ second) (a b : Node) (name : String) :
    get? name ((first, a) :: (second, b) :: entries) = get? name ((second, b) :: (first, a) :: entries) := by
  simp only [get?_cons]
  by_cases hname : first = name
  · rw [if_pos hname, if_neg fun hsecond => h (hname.trans hsecond.symm), if_pos hname]
  · rw [if_neg hname, if_neg hname]

/-- Entries in another order are proper too, and have the same nodes under the same names. -/
theorem Reordered.isProper_and_same?_get? (h : entries.Reordered others) (hproper : entries.IsProper) :
    others.IsProper ∧ ∀ name, Node.Same? (entries.get? name) (others.get? name) := by
  induction h with
  | nil => exact ⟨.nil, fun _ => .none⟩
  | cons _ _ ih =>
    cases hproper with
    | cons valid fresh inside hrest =>
      obtain ⟨hothers, hsame⟩ := ih hrest
      refine ⟨.cons valid ?_ inside hothers, fun name => same?_get?_cons (.same _) (hsame name)⟩
      exact Node.Same?.eq_none (fresh ▸ hsame _)
  | inside _ hinner _ ihInner ih =>
    cases hproper with
    | cons valid fresh inside hrest =>
      obtain ⟨hothers, hsame⟩ := ih hrest
      obtain ⟨hchanged, -⟩ := ihInner (inside _ rfl)
      refine ⟨.cons valid ?_ (fun other heq => ?_) hothers, fun name =>
        same?_get?_cons (.directory hinner) (hsame name)⟩
      · exact Node.Same?.eq_none (fresh ▸ hsame _)
      · cases heq
        exact hchanged
  | swap =>
    cases hproper with
    | @cons name _ _ valid fresh inside hrest =>
      cases hrest with
      | @cons other _ _ validOther freshOther insideOther hrest =>
        rw [get?_cons] at fresh
        have hne : other ≠ name := fun heq => by simp [heq] at fresh
        rw [if_neg hne] at fresh
        refine ⟨.cons validOther ?_ insideOther (.cons valid fresh inside hrest), fun looked => ?_⟩
        · rw [get?_cons, if_neg hne.symm, freshOther]
        · rw [get?_swap hne.symm]
          exact .refl _
  | trans _ _ ihFirst ihSecond =>
    obtain ⟨hothers, hfirst⟩ := ihFirst hproper
    obtain ⟨hthird, hsecond⟩ := ihSecond hothers
    exact ⟨hthird, fun name => (hfirst name).trans (hsecond name)⟩

/-- The same directories are in entries in another order. -/
theorem Reordered.at? (h : entries.Reordered others) (hproper : entries.IsProper) {directory : List String}
    {inner : Entries} (hinner : entries.at? directory = some inner) :
    ∃ changed, others.at? directory = some changed ∧ inner.Reordered changed := by
  induction directory generalizing entries others with
  | nil =>
    cases hinner
    exact ⟨others, rfl, h⟩
  | cons first rest ih =>
    obtain ⟨-, hsame⟩ := h.isProper_and_same?_get? hproper
    rw [Entries.at?] at hinner
    split at hinner
    · rename_i found hfound
      have hnext : ∃ next, others.get? first = some (.directory next) ∧ Reordered found next := by
        obtain ⟨node, hnode, hreordered⟩ := Node.Same?.exists_eq_some (hfound ▸ hsame first)
        cases hreordered with
        | same => exact ⟨found, hnode, .refl found⟩
        | directory hinside => exact ⟨_, hnode, hinside⟩
      obtain ⟨next, hnext, hreordered⟩ := hnext
      obtain ⟨changed, hchanged, hend⟩ := ih hreordered ((hproper.get? hfound).2 found rfl) hinner
      refine ⟨changed, ?_, hend⟩
      rw [Entries.at?, hnext]
      exact hchanged
    · cases hinner

/-- The same nodes are in the same places of entries in another order. -/
theorem Reordered.node? (h : entries.Reordered others) (hproper : entries.IsProper) {directory : List String}
    {name : String} {node : Node} (hnode : entries.node? directory name = some node) :
    ∃ other, others.node? directory name = some other ∧ node.Reordered other := by
  obtain ⟨inner, hinner, hname⟩ := Option.bind_eq_some_iff.mp hnode
  obtain ⟨changed, hchanged, hreordered⟩ := h.at? hproper hinner
  obtain ⟨-, hsame⟩ := hreordered.isProper_and_same?_get? (hproper.at? hinner).2
  rw [Entries.node?, hchanged, Option.bind_some]
  exact Node.Same?.exists_eq_some (hname ▸ hsame name)

/-- Entries in another order extend those in the first, as far as looking them up can tell. -/
theorem Reordered.extend (h : entries.Reordered others) (hproper : entries.IsProper) : entries.Extend others := by
  intro directory name node hnode
  obtain ⟨other, hother, hreordered⟩ := h.node? hproper hnode
  exact ⟨other, hother, hreordered.sameKind⟩

end Entries

/-- Trees that differ in the order in which directories are listed, and in nothing else. -/
structure Tree.Reordered (tree other : Tree) : Prop where
  root : tree.root.Reordered other.root
  working : other.working = tree.working
  contents : other.contents = tree.contents
  refusal? : other.refusal? = tree.refusal?

/-- A tree stays proper when its entries are reordered. -/
theorem Tree.Reordered.isProper {tree other : Tree} (h : tree.Reordered other) (hproper : tree.root.IsProper) :
    other.root.IsProper := (h.root.isProper_and_same?_get? hproper).1

/-- Paths lead to the same places however directories are listed. -/
theorem Tree.Reordered.sameShape {tree other : Tree} (h : tree.Reordered other) (hproper : tree.root.IsProper) :
    tree.SameShape other :=
  ⟨h.working, h.refusal?, h.root.extend hproper, h.root.symm.extend (h.isProper hproper)⟩

end TextChunking
