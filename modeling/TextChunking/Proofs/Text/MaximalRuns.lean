import TextChunking.Proofs.Text.Trimming
/-!
# Maximal runs of a list

A maximal run of a property is a stretch of neighbouring items that all have it, and that no neighbour
could join. `IsMaximalRuns` says of a row of stretches that they are all the maximal runs of a list, from
left to right; there is exactly one such row (`isMaximalRuns_iff`), and it is what splitting the list at
the other items leaves apart from empty stretches (`maximalRuns`).
-/

namespace TextChunking

variable {α : Type} {p : α → Bool}

/-- The maximal runs of items that have a property. -/
def maximalRuns (p : α → Bool) (items : List α) : List (List α) :=
  (items.splitOnP fun a => !p a).filter fun run => !run.isEmpty

/-- All maximal runs of items that have a property: between any two of them, and only there and at the
ends of the list, are items that do not have it. -/
inductive IsMaximalRuns (p : α → Bool) : List α → List (List α) → Prop
  | none {gap : List α} (hgap : ∀ a ∈ gap, p a = false) : IsMaximalRuns p gap []
  | cons {gap run rest : List α} {runs : List (List α)} (hgap : ∀ a ∈ gap, p a = false)
      (hne : run ≠ []) (hrun : ∀ a ∈ run, p a = true) (hrest : ∀ a ∈ rest.head?, p a = false)
      (hruns : IsMaximalRuns p rest runs) : IsMaximalRuns p (gap ++ (run ++ rest)) (run :: runs)

/-- A part between separators holds none of them. -/
theorem eq_false_of_mem_splitOnP {items part : List α} (h : part ∈ items.splitOnP p) :
    ∀ a ∈ part, p a = false := by
  induction items generalizing part with
  | nil =>
    rw [List.splitOnP_nil, List.mem_singleton] at h
    simp [h]
  | cons b items ih =>
    rw [List.splitOnP_cons_eq_if_modifyHead] at h
    obtain ⟨first, rest, hparts⟩ := List.exists_cons_of_ne_nil (List.splitOnP_ne_nil p items)
    rw [hparts] at h ih
    intro a ha
    split at h
    · rcases List.mem_cons.mp h with rfl | h
      · simp at ha
      · exact ih h a ha
    · rename_i hb
      rw [List.modifyHead_cons] at h
      rcases List.mem_cons.mp h with rfl | h
      · rcases List.mem_cons.mp ha with rfl | ha
        · exact Bool.eq_false_iff.mpr hb
        · exact ih List.mem_cons_self a ha
      · exact ih (List.mem_cons_of_mem _ h) a ha

/-! ### Taking runs off a list -/

/-- Nothing has no runs. -/
@[simp] theorem maximalRuns_nil (p : α → Bool) : maximalRuns p [] = [] := by
  simp [maximalRuns]

/-- An item without the property belongs to no run. -/
theorem maximalRuns_cons_of_neg {a : α} (h : p a = false) (rest : List α) :
    maximalRuns p (a :: rest) = maximalRuns p rest := by
  simp [maximalRuns, List.splitOnP_cons_eq_if_modifyHead, h]

/-- Items without the property are skipped. -/
theorem maximalRuns_append_of_neg {gap : List α} (h : ∀ a ∈ gap, p a = false) (rest : List α) :
    maximalRuns p (gap ++ rest) = maximalRuns p rest := by
  induction gap with
  | nil => rfl
  | cons a gap ih =>
    rw [List.cons_append, maximalRuns_cons_of_neg (h a List.mem_cons_self)]
    exact ih fun b hb => h b (List.mem_cons_of_mem _ hb)

/-- A run at the front of a list is the first one. -/
theorem maximalRuns_append_of_pos {run rest : List α} (hne : run ≠ []) (hrun : ∀ a ∈ run, p a = true)
    (hrest : ∀ a ∈ rest.head?, p a = false) :
    maximalRuns p (run ++ rest) = run :: maximalRuns p rest := by
  have hclear : ∀ a ∈ run, (!p a) = false := fun a ha => by simp [hrun a ha]
  cases rest with
  | nil =>
    rw [List.append_nil, maximalRuns, List.splitOnP_eq_singleton hclear]
    simp [hne]
  | cons a rest =>
    have ha : p a = false := hrest a rfl
    rw [maximalRuns_cons_of_neg ha, maximalRuns, List.splitOnP_append_cons run rest (by simp [ha]),
      List.splitOnP_eq_singleton hclear, List.filter_append, maximalRuns]
    simp [hne]

/-- A run is made of items with the property, by how it is taken. -/
theorem eq_true_of_mem_cons_takeWhile {a : α} (h : p a = true) (items : List α) :
    ∀ b ∈ a :: items.takeWhile p, p b = true := by
  intro b hb
  rcases List.mem_cons.mp hb with rfl | hb
  · exact h
  · exact List.mem_takeWhile_imp hb

/-- The first run reaches as far as the property does. -/
theorem maximalRuns_cons_of_pos {a : α} (h : p a = true) (rest : List α) :
    maximalRuns p (a :: rest) = (a :: rest.takeWhile p) :: maximalRuns p (rest.dropWhile p) := by
  rw [← maximalRuns_append_of_pos (List.cons_ne_nil _ _) (eq_true_of_mem_cons_takeWhile h rest)
    (head?_dropWhile_eq_false p rest), List.cons_append, List.takeWhile_append_dropWhile]

/-! ### The only row of maximal runs -/

/-- One more item without the property widens the first gap. -/
theorem IsMaximalRuns.cons_of_neg {a : α} {items : List α} {runs : List (List α)}
    (h : IsMaximalRuns p items runs) (ha : p a = false) : IsMaximalRuns p (a :: items) runs := by
  cases h with
  | none hgap => exact .none (by simpa [ha] using hgap)
  | @cons gap run rest runs hgap hne hrun hrest hruns =>
    have hwider : ∀ b ∈ a :: gap, p b = false := by simpa [ha] using hgap
    exact .cons hwider hne hrun hrest hruns

/-- What is computed are all maximal runs. -/
theorem isMaximalRuns_maximalRuns (p : α → Bool) (items : List α) :
    IsMaximalRuns p items (maximalRuns p items) := by
  match items with
  | [] => exact .none (by simp)
  | a :: rest =>
    cases h : p a with
    | false =>
      rw [maximalRuns_cons_of_neg h]
      exact (isMaximalRuns_maximalRuns p rest).cons_of_neg h
    | true =>
      have hrest := isMaximalRuns_maximalRuns p (rest.dropWhile p)
      have hfirst : IsMaximalRuns p ([] ++ ((a :: rest.takeWhile p) ++ rest.dropWhile p))
          ((a :: rest.takeWhile p) :: maximalRuns p (rest.dropWhile p)) :=
        .cons (by simp) (List.cons_ne_nil _ _) (eq_true_of_mem_cons_takeWhile h rest)
          (head?_dropWhile_eq_false p rest) hrest
      rw [List.nil_append, List.cons_append, List.takeWhile_append_dropWhile] at hfirst
      rwa [maximalRuns_cons_of_pos h]
termination_by items.length
decreasing_by
  · simp
  · have hle := List.length_dropWhile_le p rest
    simp only [List.length_cons]
    omega

/-- A list has only one row of maximal runs, which is the computed one. -/
theorem isMaximalRuns_iff {items : List α} {runs : List (List α)} :
    IsMaximalRuns p items runs ↔ runs = maximalRuns p items := by
  constructor
  · intro h
    induction h with
    | none hgap =>
      have happend := maximalRuns_append_of_neg hgap []
      rw [List.append_nil] at happend
      rw [happend, maximalRuns_nil]
    | cons hgap hne hrun hrest _ ih =>
      rw [maximalRuns_append_of_neg hgap, maximalRuns_append_of_pos hne hrun hrest, ih]
  · rintro rfl
    exact isMaximalRuns_maximalRuns p items

/-- The runs of a list hold neighbours, all of them with the property. -/
theorem of_mem_maximalRuns {items run : List α} (h : run ∈ maximalRuns p items) :
    run <:+: items ∧ ∀ a ∈ run, p a = true := by
  have hruns := isMaximalRuns_maximalRuns p items
  generalize maximalRuns p items = runs at h hruns
  induction hruns with
  | none => simp at h
  | @cons gap first rest runs _ _ hfirst _ _ ih =>
    rcases List.mem_cons.mp h with rfl | h
    · exact ⟨⟨gap, rest, by simp⟩, hfirst⟩
    · obtain ⟨hwithin, hall⟩ := ih h
      refine ⟨hwithin.trans ?_, hall⟩
      exact ⟨gap ++ first, [], by simp⟩

end TextChunking
