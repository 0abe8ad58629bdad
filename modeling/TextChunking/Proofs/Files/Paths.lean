import Mathlib
import TextChunking.Files.Path
/-!
# Paths below a directory

A name in a directory is one component of a path (`IsFileName`), so that joining it to any path puts one component
behind those of the path (`components_join`). The path of what lies below a root therefore tells where it lies
(`eq_of_components_below`), and in the order of paths no two such paths share a place (`eq_of_le_of_le`).
-/

namespace TextChunking

namespace Path

/-- A name that something in a directory can have. -/
structure IsFileName (name : String) : Prop where
  ne_empty : name ≠ ""
  ne_here : name ≠ "."
  ne_above : name ≠ ".."
  slash_notMem : '/' ∉ name.toList

instance (name : String) : Decidable (IsFileName name) :=
  decidable_of_iff (name ≠ "" ∧ name ≠ "." ∧ name ≠ ".." ∧ '/' ∉ name.toList)
    ⟨fun h => ⟨h.1, h.2.1, h.2.2.1, h.2.2.2⟩, fun h => ⟨h.1, h.2, h.3, h.4⟩⟩

variable {name : String} {path : Path}

/-! ### Names -/

/-- Two paths that meet at a slash are split into names one after the other. -/
theorem names_append {front back : Path}
    (h : ∀ x ∈ front.toList.getLast?, ∀ y ∈ back.toList.head?, x = '/' ∨ y = '/') :
    names (front ++ back) = names front ++ names back := by
  have hsplit : ((front ++ back).toList.splitBy fun a b => a != '/' && b != '/') =
      (front.toList.splitBy fun a b => a != '/' && b != '/') ++
        back.toList.splitBy fun a b => a != '/' && b != '/' := by
    rw [String.toList_append]
    refine List.splitBy_append fun x hx y hy => ?_
    obtain rfl | rfl := h x hx y hy
    · rfl
    · exact Bool.and_false _
  rw [names, hsplit, List.filter_append, List.map_append, names, names]

/-- The name of a file has some character. -/
theorem IsFileName.toList_ne_nil (h : IsFileName name) : name.toList ≠ [] := by
  simpa using h.ne_empty

/-- The name of a file does not begin with a slash. -/
theorem IsFileName.isAbsolute_eq_false (h : IsFileName name) : isAbsolute name = false := by
  rw [isAbsolute, beq_eq_false_iff_ne]
  intro hhead
  exact h.slash_notMem (List.mem_of_head? hhead)

/-- A name in a directory is the only name of itself. -/
theorem IsFileName.names_eq (h : IsFileName name) : names name = [name] := by
  have hchain : name.toList.IsChain fun a b => (a != '/' && b != '/') = true := by
    refine List.isChain_iff_getElem.mpr fun i hi => ?_
    have hne : ∀ j (hj : j < name.toList.length), name.toList[j] ≠ '/' := fun j hj hslash =>
      h.slash_notMem (hslash ▸ List.getElem_mem hj)
    simp [hne]
  have hslash : name.toList ≠ ['/'] := fun hname => h.slash_notMem (by rw [hname]; exact List.mem_cons_self)
  rw [names, List.splitBy_of_isChain h.toList_ne_nil hchain, List.filter_cons_of_pos (by simpa using hslash)]
  simp

/-- The root by itself has no names. -/
theorem names_slash : names "/" = [] := by decide +kernel

/-- Joining a name puts one name behind those of the path. -/
theorem names_join (path : Path) (h : IsFileName name) : names (path.join name) = names path ++ [name] := by
  rw [join, h.isAbsolute_eq_false]
  simp only [Bool.false_eq_true, if_false]
  split
  · rename_i hends
    rw [names_append, h.names_eq]
    intro x hx y _
    left
    obtain hempty | hslash := Bool.or_eq_true_iff.mp hends
    · simp [String.isEmpty_iff.mp hempty] at hx
    · rw [endsInSlash, beq_iff_eq] at hslash
      exact Option.some.inj (hx.symm.trans hslash)
  · rw [names_append, names_append, names_slash, List.append_nil, h.names_eq]
    · intro x _ y hy
      right
      simpa using hy.symm
    · intro x hx y _
      left
      simpa using hx.symm

/-- A file below a path starts where the path does. -/
theorem isAbsolute_join (path : Path) (h : IsFileName name) : (path.join name).isAbsolute = path.isAbsolute := by
  rw [join, h.isAbsolute_eq_false]
  simp only [Bool.false_eq_true, if_false]
  by_cases hempty : path = ""
  · subst hempty
    exact h.isAbsolute_eq_false
  · obtain ⟨first, rest, hpath⟩ : ∃ first rest, path.toList = first :: rest :=
      List.exists_cons_of_ne_nil (by simpa using hempty)
    split <;> simp [isAbsolute, hpath]

/-- The name of a file is a component as it stands. -/
theorem IsFileName.component?_eq (h : IsFileName name) : component? name = some (.name name) := by
  rw [component?]
  · exact h.ne_here
  · exact h.ne_above

/-! ### Components -/

/-- The components of a path that starts nowhere in particular, by its names. -/
def relativeComponents : List String → List Component
  | "." :: rest => .current :: rest.filterMap component?
  | names => names.filterMap component?

/-- The components of a path are those of its names, behind the root if it starts there. -/
theorem components_eq (path : Path) : components path =
    if path.isAbsolute then .root :: path.names.filterMap component? else relativeComponents path.names := rfl

/-- A single dot counts only if it comes first. -/
theorem relativeComponents_cons (first : String) (rest : List String) :
    relativeComponents (first :: rest) =
      (if first = "." then [.current] else (component? first).toList) ++ rest.filterMap component? := by
  by_cases hfirst : first = "."
  · rw [if_pos hfirst, hfirst]
    rfl
  · rw [if_neg hfirst, relativeComponents]
    · cases h : component? first <;> simp [h]
    · intro other hcons
      exact hfirst (List.cons.inj hcons).1

/-- Joining a name puts one component behind those of the path. -/
theorem components_join (path : Path) (h : IsFileName name) :
    components (path.join name) = components path ++ [.name name] := by
  have hlast : [name].filterMap component? = [.name name] := by simp [h.component?_eq]
  rw [components_eq, components_eq, names_join path h, isAbsolute_join path h]
  cases path.isAbsolute with
  | true => simp only [if_true, List.filterMap_append, hlast, List.cons_append]
  | false =>
    simp only [Bool.false_eq_true, if_false]
    cases names path with
    | nil =>
      rw [List.nil_append, relativeComponents_cons, if_neg h.ne_here, h.component?_eq]
      rfl
    | cons first rest =>
      rw [List.cons_append, relativeComponents_cons, relativeComponents_cons, List.filterMap_append, hlast,
        List.append_assoc]

/-- The path of what names lead to from a root. -/
def below (root : Path) (names : List String) : Path := names.foldl join root

/-- One name after another is joined to the path. -/
theorem below_cons (root : Path) (first : String) (rest : List String) :
    below root (first :: rest) = below (root.join first) rest := rfl

/-- Files below a path have its components, and then their names. -/
theorem components_below {names : List String} (h : ∀ name ∈ names, IsFileName name) (root : Path) :
    components (below root names) = components root ++ names.map .name := by
  induction names generalizing root with
  | nil => simp [below]
  | cons first rest ih =>
    rw [List.forall_mem_cons] at h
    rw [below_cons, ih h.2, components_join root h.1, List.append_assoc]
    rfl

/-- The paths of different things below a root have different components. -/
theorem eq_of_components_below {names others : List String} {root : Path}
    (hnames : ∀ name ∈ names, IsFileName name) (hothers : ∀ name ∈ others, IsFileName name)
    (h : components (below root names) = components (below root others)) : names = others := by
  rw [components_below hnames, components_below hothers] at h
  exact List.map_injective_iff.mpr (fun a b hab => Component.name.inj hab) (List.append_cancel_left h)

/-! ### Order -/

namespace Component

/-- Of two components, one comes first. -/
theorem le_total (a b : Component) : (a.le b || b.le a) = true := by
  cases a <;> cases b <;> simp [le, rank, String.le_total]

/-- The order of components is transitive. -/
theorem le_trans {a b c : Component} (hab : a.le b = true) (hbc : b.le c = true) : a.le c = true := by
  cases a <;> cases b <;> cases c <;> simp_all [le, rank]
  exact String.le_trans hab hbc

/-- Components of which neither comes before the other are the same one. -/
theorem le_antisymm {a b : Component} (hab : a.le b = true) (hba : b.le a = true) : a = b := by
  cases a <;> cases b <;> simp_all [le, rank]
  exact String.le_antisymm hab hba

end Component

/-- Of two rows of components, one comes first. -/
theorem componentsLe_total (as bs : List Component) : (componentsLe as bs || componentsLe bs as) = true := by
  induction as generalizing bs with
  | nil => rfl
  | cons a as ih =>
    cases bs with
    | nil => rfl
    | cons b bs =>
      by_cases hab : a = b
      · subst hab
        simpa [componentsLe] using ih bs
      · simpa [componentsLe, hab, Ne.symm hab] using a.le_total b

/-- The order of rows is transitive, by induction on the three of them at once. -/
theorem componentsLe_trans {as bs cs : List Component} (hab : componentsLe as bs = true)
    (hbc : componentsLe bs cs = true) : componentsLe as cs = true := by
  induction as generalizing bs cs with
  | nil => rfl
  | cons a as ih =>
    cases bs with
    | nil => cases hab
    | cons b bs =>
      cases cs with
      | nil => cases hbc
      | cons c cs =>
        rw [componentsLe] at hab hbc ⊢
        by_cases hac : a = c
        · subst hac
          by_cases hfirst : a = b
          · subst hfirst
            simp only [if_true] at hab hbc ⊢
            exact ih hab hbc
          · -- two components each of which comes behind the other are the same
            rw [if_neg hfirst] at hab
            rw [if_neg (Ne.symm hfirst)] at hbc
            exact absurd (Component.le_antisymm hab hbc) hfirst
        · rw [if_neg hac]
          by_cases hfirst : a = b
          · subst hfirst
            rwa [if_neg hac] at hbc
          · rw [if_neg hfirst] at hab
            by_cases hlast : b = c
            · subst hlast
              exact hab
            · rw [if_neg hlast] at hbc
              exact Component.le_trans hab hbc

/-- Rows of which neither comes before the other are the same one. -/
theorem componentsLe_antisymm {as bs : List Component} (hab : componentsLe as bs = true)
    (hba : componentsLe bs as = true) : as = bs := by
  induction as generalizing bs with
  | nil =>
    cases bs with
    | nil => rfl
    | cons b bs => cases hba
  | cons a as ih =>
    cases bs with
    | nil => cases hab
    | cons b bs =>
      rw [componentsLe] at hab hba
      by_cases hfirst : a = b
      · subst hfirst
        simp only [if_true] at hab hba
        rw [ih hab hba]
      · rw [if_neg hfirst] at hab
        rw [if_neg (Ne.symm hfirst)] at hba
        exact absurd (Component.le_antisymm hab hba) hfirst

/-- Paths that are put in order are in order. -/
theorem pairwise_mergeSort (paths : List Path) :
    (paths.mergeSort Path.le).Pairwise fun a b => Path.le a b = true :=
  @List.pairwise_mergeSort Path Path.le (fun _ _ _ => componentsLe_trans) (fun _ _ => componentsLe_total _ _) paths

/-- Paths of what lies below one root are the same if none of them comes behind the other. -/
theorem eq_of_le_of_le {names others : List String} {root : Path}
    (hnames : ∀ name ∈ names, IsFileName name) (hothers : ∀ name ∈ others, IsFileName name)
    (hle : Path.le (below root names) (below root others) = true)
    (hge : Path.le (below root others) (below root names) = true) : names = others :=
  eq_of_components_below hnames hothers (componentsLe_antisymm hle hge)

end Path

end TextChunking
