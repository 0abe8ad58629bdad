import Mathlib.Data.List.Chain
import TextChunking.Proofs.Split.Filling
import TextChunking.Proofs.Text.Joining
/-!
# Packing as a cut into groups

What packing does to units can be said without the packing: oversized units are replaced where they stand,
and each run of units between them is cut into groups, every one of which would be too large with the first
unit of the next (`IsGreedyCut`). `IsPacked` says this of units and pieces. **Theorem** (`eq_pack_iff`): the
pieces of a packing are the only ones of which it holds.

One direction follows the groups. The buffer takes the units of a group one by one, because no front of a
group is longer than the group (`fill_append`), and it is finished at the next unit, oversized or not, because
that unit would make it too large (`fill_of_full`). The other direction follows the units, with a group that
is open already (`isPacked_fill`).
-/

namespace TextChunking

/-- A cut of units into groups of neighbours, each of them small enough for a piece when it is joined. -/
structure IsCut (maxSize : Nat) (separator : List Char) (units : List (List Char))
    (groups : List (List (List Char))) : Prop where
  flatten_eq : groups.flatten = units
  length_le : ∀ group ∈ groups, (separator.intercalate group).length ≤ maxSize

/-- A cut into groups that are as full as they get: none is empty, and the first unit of the next one would
make a group too large. -/
structure IsGreedyCut (maxSize : Nat) (separator : List Char) (units : List (List Char))
    (groups : List (List (List Char))) : Prop extends IsCut maxSize separator units groups where
  ne_nil : ∀ group ∈ groups, group ≠ []
  full : groups.IsChain fun group next =>
    ∀ unit ∈ next.head?, maxSize < (separator.intercalate (group ++ [unit])).length

/-- What packing makes of units. A run of units that are small enough for a piece, up to the first oversized
unit or to the end, becomes the joined groups of a greedy cut; an oversized unit is replaced at its place. -/
inductive IsPacked (maxSize : Nat) (separator : List Char) (oversized : List Char → List (List Char)) :
    List (List Char) → List (List Char) → Prop
  | run {run : List (List Char)} {groups : List (List (List Char))}
      (hsmall : ∀ unit ∈ run, unit.length ≤ maxSize) (hcut : IsGreedyCut maxSize separator run groups) :
      IsPacked maxSize separator oversized run (groups.map separator.intercalate)
  | oversized {run : List (List Char)} {groups : List (List (List Char))} {unit : List Char}
      {rest pieces : List (List Char)}
      (hsmall : ∀ unit ∈ run, unit.length ≤ maxSize) (hcut : IsGreedyCut maxSize separator run groups)
      (hlarge : maxSize < unit.length) (hrest : IsPacked maxSize separator oversized rest pieces) :
      IsPacked maxSize separator oversized (run ++ unit :: rest)
        (groups.map separator.intercalate ++ oversized unit ++ pieces)

variable {maxSize : Nat} {separator unit buffer : List Char}
  {oversized : List Char → List (List Char)} {group front run rest units pieces : List (List Char)}
  {groups : List (List (List Char))}

/-! ### Filling along the groups -/

/-- A buffer takes all units that are small enough for a piece together with it. -/
theorem fill_append (hne : ∀ unit ∈ front ++ group, unit ≠ [])
    (hlength : (separator.intercalate (front ++ group)).length ≤ maxSize) (units : List (List Char)) :
    fill maxSize separator oversized (separator.intercalate front) (group ++ units) =
      fill maxSize separator oversized (separator.intercalate (front ++ group)) units := by
  induction group generalizing front with
  | nil => rw [List.append_nil, List.nil_append]
  | cons unit rest ih =>
    have hnext : (separator.intercalate (front ++ [unit])).length ≤ maxSize := by
      refine (length_intercalate_le ?_ separator).trans hlength
      exact (List.singleton_sublist.mpr List.mem_cons_self).append_left front
    have hsmall : ¬ maxSize < unit.length := by
      have := length_le_intercalate (List.mem_append_right front (List.mem_singleton_self unit)) separator
      omega
    have hrest := @ih (front ++ [unit]) (by simpa using hne) (by simpa using hlength)
    rw [← List.append_cons] at hrest
    rw [List.cons_append, fill, if_neg hsmall, ← hrest]
    by_cases hfront : front = []
    · simp [hfront]
    · have hbuffer : separator.intercalate front ≠ [] :=
        intercalate_ne_nil hfront fun other hother => hne other (List.mem_append_left _ hother)
      rw [intercalate_concat separator unit hfront] at hnext ⊢
      rw [if_neg hbuffer, if_pos (by simpa [Nat.add_assoc] using hnext)]

/-- Units that fit together are all taken into the empty buffer. -/
theorem fill_nil_append (hne : ∀ unit ∈ group, unit ≠ [])
    (hlength : (separator.intercalate group).length ≤ maxSize) (units : List (List Char)) :
    fill maxSize separator oversized [] (group ++ units) =
      fill maxSize separator oversized (separator.intercalate group) units :=
  @fill_append maxSize separator oversized group [] hne hlength units

/-- A buffer is finished when the next unit would make it too large. -/
theorem fill_of_full (hbuffer : buffer ≠ [])
    (hfull : ∀ unit ∈ units.head?, maxSize < (buffer ++ separator ++ unit).length) :
    fill maxSize separator oversized buffer units =
      buffer :: fill maxSize separator oversized [] units := by
  cases units with
  | nil => rw [fill, fill, pending_of_ne_nil hbuffer, pending_nil]
  | cons unit rest =>
    have hroom : ¬ buffer.length + separator.length + unit.length ≤ maxSize := by
      have := hfull unit rfl
      simp only [List.length_append] at this
      omega
    rw [fill, fill]
    by_cases hlarge : maxSize < unit.length
    · rw [if_pos hlarge, if_pos hlarge, pending_of_ne_nil hbuffer, pending_nil]
      simp
    · rw [if_neg hlarge, if_neg hlarge, if_neg hbuffer, if_neg hroom, if_pos rfl]

/-- Nothing is carried over to an oversized unit or beyond it. -/
theorem fill_append_of_large (h : ∀ unit ∈ rest.head?, maxSize < unit.length)
    (buffer : List Char) (units : List (List Char)) :
    fill maxSize separator oversized buffer (units ++ rest) =
      fill maxSize separator oversized buffer units ++ fill maxSize separator oversized [] rest := by
  induction units generalizing buffer with
  | nil =>
    cases rest with
    | nil => simp [fill]
    | cons unit rest =>
      have hlarge : maxSize < unit.length := h unit rfl
      simp [fill, hlarge]
  | cons unit units ih =>
    rw [List.cons_append, fill, fill]
    split_ifs
    · rw [ih, List.append_assoc, List.append_assoc, List.append_assoc]
    · exact ih _
    · exact ih _
    · rw [ih, List.cons_append]

/-- What remains behind the first group of a greedy cut is cut greedily. -/
theorem IsGreedyCut.tail (h : IsGreedyCut maxSize separator units (group :: groups)) :
    IsGreedyCut maxSize separator groups.flatten groups where
  flatten_eq := rfl
  length_le := fun other hother => h.length_le other (List.mem_cons_of_mem _ hother)
  ne_nil := fun other hother => h.ne_nil other (List.mem_cons_of_mem _ hother)
  full := h.full.tail

/-- A group is too large with the next unit, which is the first one of the next group. -/
theorem IsGreedyCut.lt_length (h : IsGreedyCut maxSize separator units (group :: groups)) :
    ∀ unit ∈ groups.flatten.head?, maxSize < (separator.intercalate (group ++ [unit])).length := by
  intro unit hunit
  cases groups with
  | nil => simp at hunit
  | cons next groups =>
    have hnext : next ≠ [] := h.ne_nil next (by simp)
    rw [List.flatten_cons, List.head?_append_of_ne_nil _ hnext] at hunit
    exact (List.isChain_cons_cons.mp h.full).1 unit hunit

/-- The groups of a greedy cut become pieces. -/
theorem IsGreedyCut.fill_eq (h : IsGreedyCut maxSize separator run groups)
    (hne : ∀ unit ∈ run, unit ≠ []) :
    fill maxSize separator oversized [] run = groups.map separator.intercalate := by
  induction groups generalizing run with
  | nil =>
    have hrun : run = [] := h.flatten_eq.symm
    simp [hrun, fill]
  | cons group groups ih =>
    obtain rfl : group ++ groups.flatten = run := h.flatten_eq
    have hgroup : group ≠ [] := h.ne_nil group List.mem_cons_self
    have hunits : ∀ unit ∈ group, unit ≠ [] := fun unit hunit =>
      hne unit (List.mem_append_left _ hunit)
    have hfull : ∀ unit ∈ groups.flatten.head?,
        maxSize < (separator.intercalate group ++ separator ++ unit).length := by
      intro unit hunit
      rw [← intercalate_concat separator unit hgroup]
      exact h.lt_length unit hunit
    rw [fill_nil_append hunits (h.length_le group List.mem_cons_self),
      fill_of_full (intercalate_ne_nil hgroup hunits) hfull,
      ih h.tail fun unit hunit => hne unit (List.mem_append_right _ hunit), List.map_cons]

/-- What is packed is what filling gives. -/
theorem IsPacked.eq_fill (h : IsPacked maxSize separator oversized units pieces)
    (hne : ∀ unit ∈ units, unit ≠ []) : pieces = fill maxSize separator oversized [] units := by
  induction h with
  | run hsmall hcut => exact (hcut.fill_eq hne).symm
  | oversized hsmall hcut hlarge hrest ih =>
    have hrun := fun unit hunit => hne unit (List.mem_append_left _ hunit)
    have hahead := fun unit hunit => hne unit (List.mem_append_right _ (List.mem_cons_of_mem _ hunit))
    rw [fill_append_of_large (by simpa using hlarge), hcut.fill_eq hrun, fill, if_pos hlarge, ih hahead]
    simp

/-! ### Filling along the units -/

/-- A group that is full stands in front of the cut of what comes behind it. -/
theorem IsGreedyCut.cons (hgroup : group ≠ [])
    (hlength : (separator.intercalate group).length ≤ maxSize)
    (hfull : maxSize < (separator.intercalate (group ++ [unit])).length)
    (h : IsGreedyCut maxSize separator (unit :: run) groups) :
    IsGreedyCut maxSize separator (group ++ unit :: run) (group :: groups) where
  flatten_eq := by rw [List.flatten_cons, h.flatten_eq]
  length_le := by simpa [hlength] using h.length_le
  ne_nil := by simpa [hgroup] using h.ne_nil
  full := by
    refine List.isChain_cons.mpr ⟨?_, h.full⟩
    intro next hnext first hfirst
    obtain ⟨groups, rfl⟩ := List.head?_eq_some_iff.mp (Option.mem_def.mp hnext)
    -- the next group is not empty, so it begins with the unit that did not fit
    have hne : next ≠ [] := h.ne_nil next List.mem_cons_self
    have hflatten : (next ++ groups.flatten).head? = some unit := by
      rw [← List.flatten_cons, h.flatten_eq, List.head?_cons]
    rw [List.head?_append_of_ne_nil _ hne, Option.mem_def.mp hfirst, Option.some.injEq] at hflatten
    rwa [hflatten]

/-- A group that is full is the first piece of what it stands in front of. -/
theorem IsPacked.cons (hgroup : ∀ other ∈ group, other.length ≤ maxSize) (hne : group ≠ [])
    (hlength : (separator.intercalate group).length ≤ maxSize)
    (hfull : maxSize < (separator.intercalate (group ++ [unit])).length) (hunit : unit.length ≤ maxSize)
    (h : IsPacked maxSize separator oversized (unit :: rest) pieces) :
    IsPacked maxSize separator oversized (group ++ unit :: rest)
      (separator.intercalate group :: pieces) := by
  generalize hunits : unit :: rest = units at h
  cases h with
  | run hsmall hcut =>
    subst hunits
    refine .run ?_ (hcut.cons hne hlength hfull)
    exact List.forall_mem_append.mpr ⟨hgroup, hsmall⟩
  | @oversized run groups large after pieces hsmall hcut hlarge hrest =>
    cases run with
    | nil =>
      obtain ⟨rfl, -⟩ := List.cons.inj hunits
      exact absurd hlarge (Nat.not_lt_of_le hunit)
    | cons first run =>
      obtain ⟨rfl, rfl⟩ := List.cons.inj hunits
      have hall := List.forall_mem_append.mpr ⟨hgroup, hsmall⟩
      have hpacked := IsPacked.oversized hall (hcut.cons hne hlength hfull) hlarge hrest
      rwa [List.append_assoc] at hpacked

/-- An open group is cut into itself, if there is anything in it. -/
theorem exists_isGreedyCut (hne : ∀ unit ∈ group, unit ≠ [])
    (hlength : (separator.intercalate group).length ≤ maxSize) :
    ∃ groups, IsGreedyCut maxSize separator group groups ∧
      groups.map separator.intercalate = pending (separator.intercalate group) := by
  by_cases hgroup : group = []
  · subst hgroup
    exact ⟨[], ⟨⟨rfl, by simp⟩, by simp, .nil⟩, by simp⟩
  · refine ⟨[group], ⟨⟨by simp, by simpa using hlength⟩, by simpa using hgroup, .singleton _⟩, ?_⟩
    rw [pending_of_ne_nil (intercalate_ne_nil hgroup hne), List.map_singleton]

/-- Filling packs units together with those of the group that is open already. -/
theorem isPacked_fill (hne : ∀ unit ∈ front ++ units, unit ≠ [])
    (hsmall : ∀ unit ∈ front, unit.length ≤ maxSize)
    (hlength : (separator.intercalate front).length ≤ maxSize) :
    IsPacked maxSize separator oversized (front ++ units)
      (fill maxSize separator oversized (separator.intercalate front) units) := by
  induction units generalizing front with
  | nil =>
    rw [List.append_nil] at hne ⊢
    obtain ⟨groups, hcut, hgroups⟩ := exists_isGreedyCut hne hlength
    rw [fill, ← hgroups]
    exact .run hsmall hcut
  | cons unit rest ih =>
    obtain ⟨hfront, hunits⟩ := List.forall_mem_append.mp hne
    by_cases hlarge : maxSize < unit.length
    · -- the open group is finished, and nothing is open behind the oversized unit
      obtain ⟨groups, hcut, hgroups⟩ := exists_isGreedyCut hfront hlength
      have hrest := @ih [] (List.forall_mem_cons.mp hunits).2 (by simp) (by simp)
      rw [List.nil_append, List.intercalate_nil] at hrest
      rw [fill, if_pos hlarge, ← hgroups]
      exact .oversized hsmall hcut hlarge hrest
    · have hunit : ∀ other ∈ [unit], other.length ≤ maxSize := by simpa using hlarge
      by_cases hroom : (separator.intercalate (front ++ [unit])).length ≤ maxSize
      · -- the unit joins the open group
        rw [List.append_cons] at hne ⊢
        have hjoin : fill maxSize separator oversized (separator.intercalate front) (unit :: rest) =
            fill maxSize separator oversized (separator.intercalate (front ++ [unit])) rest :=
          fill_append (List.forall_mem_append.mp hne).1 hroom rest
        rw [hjoin]
        exact ih hne (List.forall_mem_append.mpr ⟨hsmall, hunit⟩) hroom
      · -- the open group is finished, and the unit opens the next one
        have hopen : front ≠ [] := by
          rintro rfl
          exact hroom (by simpa using hunit)
        have hfull := Nat.lt_of_not_le hroom
        have hrest := @ih [unit] hunits hunit (by simpa using hunit)
        rw [← fill_nil_append (by simpa using hunits unit List.mem_cons_self) (by simpa using hunit),
          List.singleton_append] at hrest
        have hnext : ∀ other ∈ (unit :: rest).head?,
            maxSize < (separator.intercalate front ++ separator ++ other).length := by
          simpa [intercalate_concat _ _ hopen] using hfull
        rw [fill_of_full (intercalate_ne_nil hopen hfront) hnext]
        exact hrest.cons hsmall hopen hlength hfull (hunit unit List.mem_cons_self)

/-- Filling from an empty buffer packs the units. -/
theorem isPacked_fill_nil (hne : ∀ unit ∈ units, unit ≠ []) :
    IsPacked maxSize separator oversized units (fill maxSize separator oversized [] units) := by
  have h := @isPacked_fill maxSize separator oversized [] units hne (by simp) (by simp)
  rwa [List.nil_append, List.intercalate_nil] at h

/-! ### Where the pieces come from -/

/-- A piece is a joined group of units, or takes the place of an oversized unit. -/
theorem IsPacked.mem_cases (h : IsPacked maxSize separator oversized units pieces) {piece : List Char}
    (hpiece : piece ∈ pieces) :
    (∃ group ≠ [], group ⊆ units ∧ piece = separator.intercalate group ∧ piece.length ≤ maxSize) ∨
      ∃ unit ∈ units, maxSize < unit.length ∧ piece ∈ oversized unit := by
  have hgroups : ∀ {run : List (List Char)} {groups : List (List (List Char))},
      IsGreedyCut maxSize separator run groups → piece ∈ groups.map separator.intercalate →
      ∃ group ≠ [], group ⊆ run ∧ piece = separator.intercalate group ∧ piece.length ≤ maxSize := by
    intro run groups hcut hmem
    obtain ⟨group, hgroup, rfl⟩ := List.mem_map.mp hmem
    refine ⟨group, hcut.ne_nil group hgroup, ?_, rfl, hcut.length_le group hgroup⟩
    rw [← hcut.flatten_eq]
    exact fun unit hunit => List.mem_flatten.mpr ⟨group, hgroup, hunit⟩
  induction h with
  | run _ hcut => exact .inl (hgroups hcut hpiece)
  | @oversized run groups unit rest pieces _ hcut hlarge _ ih =>
    simp only [List.mem_append] at hpiece
    rcases hpiece with (hpiece | hpiece) | hpiece
    · obtain ⟨group, hne, hsubset, hjoin⟩ := hgroups hcut hpiece
      exact .inl ⟨group, hne, List.subset_append_of_subset_left _ hsubset, hjoin⟩
    · exact .inr ⟨unit, by simp, hlarge, hpiece⟩
    · have hrest : rest ⊆ run ++ unit :: rest := fun other hother =>
        List.mem_append_right _ (List.mem_cons_of_mem _ hother)
      rcases ih hpiece with ⟨group, hne, hsubset, hjoin⟩ | ⟨other, hother, hmem⟩
      · exact .inl ⟨group, hne, List.Subset.trans hsubset hrest, hjoin⟩
      · exact .inr ⟨other, hrest hother, hmem⟩

/-! ### Packing -/

/-- What is packed is not empty, so packing is what filling does to it. -/
theorem isPacked_pack (maxSize : Nat) (separator : List Char)
    (oversized : List Char → List (List Char)) (units : List (List Char)) :
    IsPacked maxSize separator oversized (packable units) (pack maxSize separator oversized units) := by
  rw [pack_eq_fill]
  exact isPacked_fill_nil fun _ hunit => (isTight_of_mem_packable hunit).ne_nil

/-- Units that are small enough for a piece together are packed into one. -/
theorem pack_eq_singleton (hne : packable units ≠ [])
    (hlength : (separator.intercalate (packable units)).length ≤ maxSize) :
    pack maxSize separator oversized units = [separator.intercalate (packable units)] := by
  have hnil : ∀ unit ∈ packable units, unit ≠ [] := fun _ hunit =>
    (isTight_of_mem_packable hunit).ne_nil
  rw [pack_eq_fill, ← List.append_nil (packable units), fill_nil_append hnil hlength, fill,
    List.append_nil, pending_of_ne_nil (intercalate_ne_nil hne hnil)]

/-- **Packing is a greedy cut around the oversized units.** -/
theorem eq_pack_iff (maxSize : Nat) (separator : List Char) (oversized : List Char → List (List Char))
    (units pieces : List (List Char)) :
    pieces = pack maxSize separator oversized units ↔
      IsPacked maxSize separator oversized (packable units) pieces := by
  constructor
  · rintro rfl
    exact isPacked_pack maxSize separator oversized units
  · intro h
    rw [pack_eq_fill]
    exact h.eq_fill fun _ hunit => (isTight_of_mem_packable hunit).ne_nil

/-- Nothing joins what stands on the other side of an oversized unit. -/
example : pack 4 ['+'] (fun unit => [unit.take 2, ['?']])
    (["a ", "oversized", "b", " ", "c"].map String.toList) =
      ["a", "ov", "?", "b+c"].map String.toList := by
  decide

end TextChunking
