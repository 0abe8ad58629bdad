import TextChunking.Proofs.Split.Grouping
import TextChunking.Proofs.Split.Segments
/-!
# No cut has fewer pieces

Packing from the left is optimal. A group of a greedy cut reaches at least as far as a group of any other
cut that begins no later, because the other one would have to take the unit that did not fit; so from one
group to the next the greedy cut stays ahead, and it is the first to come to the end
(`IsGreedyCut.length_le_of_isCut`). Units are packed apart from those beyond an oversized one
(`IsBetween.pack_eq`). **Theorem** (`isFewest_pieces`): where no unit is oversized, and between any two
oversized paragraphs or sentences, there are no more pieces than the boundaries of the units make necessary.
-/

namespace TextChunking

/-- Pieces that keep to the boundaries of units, and of which there are no more than in any cut. -/
structure IsFewest (maxSize : Nat) (separator : List Char) (units pieces : List (List Char)) : Prop where
  exists_cut : ∃ groups, IsCut maxSize separator units groups ∧ pieces = groups.map separator.intercalate
  length_le : ∀ groups, IsCut maxSize separator units groups → pieces.length ≤ groups.length

/-- A run of units that are small enough for a piece, which reaches as far as it can on either side. -/
structure IsBetween (maxSize : Nat) (before run after units : List (List Char)) : Prop where
  eq_append : units = before ++ run ++ after
  small : ∀ unit ∈ run, unit.length ≤ maxSize
  large_before : ∀ unit ∈ before.getLast?, maxSize < unit.length
  large_after : ∀ unit ∈ after.head?, maxSize < unit.length

variable {maxSize : Nat} {separator : List Char} {oversized : List Char → List (List Char)}
  {front run units pieces before after : List (List Char)} {groups others : List (List (List Char))}

/-! ### Staying ahead -/

/-- A greedy cut of the end of some units has no more groups than any cut of all of them. -/
theorem IsGreedyCut.length_le_of_isCut (h : IsGreedyCut maxSize separator run groups)
    (hothers : IsCut maxSize separator (front ++ run) others) : groups.length ≤ others.length := by
  induction groups generalizing run front others with
  | nil => exact Nat.zero_le _
  | cons group groups ih =>
    obtain rfl : group ++ groups.flatten = run := h.flatten_eq
    cases others with
    | nil =>
      have hnil : front ++ (group ++ groups.flatten) = [] := hothers.flatten_eq.symm
      rw [List.append_eq_nil_iff, List.append_eq_nil_iff] at hnil
      exact absurd hnil.2.1 (h.ne_nil group List.mem_cons_self)
    | cons other others =>
      have hahead : IsCut maxSize separator others.flatten others :=
        ⟨rfl, fun next hnext => hothers.length_le next (List.mem_cons_of_mem _ hnext)⟩
      have heq : (front ++ group) ++ groups.flatten = other ++ others.flatten := by
        rw [List.append_assoc, ← hothers.flatten_eq, List.flatten_cons]
      refine Nat.succ_le_succ ?_
      rcases List.append_eq_append_iff.mp heq with ⟨beyond, rfl, hrest⟩ | ⟨left, -, hrest⟩
      · cases beyond with
        | nil =>
          have hothers' : IsCut maxSize separator ([] ++ groups.flatten) others := by rwa [hrest]
          exact ih h.tail hothers'
        | cons unit beyond =>
          -- the other group holds the one that is full, and a unit that made it too large
          have hlarge := h.lt_length unit (by rw [hrest]; rfl)
          have hsublist : (group ++ [unit]).Sublist (front ++ group ++ unit :: beyond) := by
            rw [List.append_assoc]
            refine List.sublist_append_of_sublist_right (List.Sublist.append_left ?_ group)
            exact List.singleton_sublist.mpr List.mem_cons_self
          have hle := hothers.length_le _ List.mem_cons_self
          exact absurd ((length_intercalate_le hsublist separator).trans hle) (Nat.not_le_of_lt hlarge)
      · exact ih h.tail (hrest ▸ hahead)

/-- Units that are small enough for a piece are packed by a greedy cut. -/
theorem IsPacked.exists_isGreedyCut (h : IsPacked maxSize separator oversized units pieces)
    (hsmall : ∀ unit ∈ units, unit.length ≤ maxSize) :
    ∃ groups, IsGreedyCut maxSize separator units groups ∧
      pieces = groups.map separator.intercalate := by
  cases h with
  | run _ hcut => exact ⟨_, hcut, rfl⟩
  | oversized _ _ hlarge _ =>
    exact absurd (hsmall _ (List.mem_append_right _ List.mem_cons_self)) (Nat.not_le_of_lt hlarge)

/-- A greedy cut has as few groups as any. -/
theorem IsGreedyCut.isFewest (h : IsGreedyCut maxSize separator units groups) :
    IsFewest maxSize separator units (groups.map separator.intercalate) where
  exists_cut := ⟨groups, h.toIsCut, rfl⟩
  length_le := by
    intro others hothers
    rw [List.length_map]
    have hcut : IsCut maxSize separator ([] ++ units) others := hothers
    exact h.length_le_of_isCut hcut

/-- Packing units that are small enough for a piece gives the fewest pieces. -/
theorem isFewest_pack (htight : ∀ unit ∈ units, IsTight unit)
    (hsmall : ∀ unit ∈ units, unit.length ≤ maxSize) :
    IsFewest maxSize separator units (pack maxSize separator oversized units) := by
  have hpacked := isPacked_pack maxSize separator oversized units
  rw [packable_of_forall_isTight htight] at hpacked
  obtain ⟨groups, hcut, hpieces⟩ := hpacked.exists_isGreedyCut hsmall
  rw [hpieces]
  exact hcut.isFewest

/-! ### Between oversized units -/

/-- Units are packed apart from those beyond an oversized one. -/
theorem pack_append_of_large (htight : ∀ unit ∈ before ++ after, IsTight unit)
    (h : ∀ unit ∈ after.head?, maxSize < unit.length) :
    pack maxSize separator oversized (before ++ after) =
      pack maxSize separator oversized before ++ pack maxSize separator oversized after := by
  obtain ⟨hbefore, hafter⟩ := List.forall_mem_append.mp htight
  rw [pack_eq_fill, pack_eq_fill, pack_eq_fill, packable_append, packable_of_forall_isTight hbefore,
    packable_of_forall_isTight hafter, fill_append_of_large h]

/-- An oversized unit is replaced, and packing begins again behind it. -/
theorem pack_cons_of_large {unit : List Char} (htight : IsTight unit) (hlarge : maxSize < unit.length)
    (rest : List (List Char)) :
    pack maxSize separator oversized (unit :: rest) =
      oversized unit ++ pack maxSize separator oversized rest := by
  have hunit : packable [unit] = [unit] := packable_of_forall_isTight (by simpa using htight)
  rw [pack_eq_fill, pack_eq_fill, packable_cons, hunit, List.singleton_append, fill, if_pos hlarge,
    pending_nil, List.nil_append]

/-- Units behind an oversized one are packed by themselves, since that one leaves nothing in the buffer. -/
theorem pack_append_of_large_left (htight : ∀ unit ∈ before ++ after, IsTight unit)
    (h : ∀ unit ∈ before.getLast?, maxSize < unit.length) :
    pack maxSize separator oversized (before ++ after) =
      pack maxSize separator oversized before ++ pack maxSize separator oversized after := by
  rcases List.eq_nil_or_concat before with rfl | ⟨front, unit, rfl⟩
  · rfl
  · rw [List.concat_eq_append] at htight h ⊢
    have hlarge : maxSize < unit.length := h unit (by simp)
    have hunit : IsTight unit := htight unit (by simp)
    have hfront := (List.forall_mem_append.mp htight).1
    rw [← List.append_cons] at htight
    rw [← List.append_cons, pack_append_of_large htight (by simpa using hlarge),
      pack_append_of_large hfront (by simpa using hlarge), pack_cons_of_large hunit hlarge,
      pack_cons_of_large hunit hlarge]
    simp [pack_eq_fill, packable, fill]

/-- Nothing is carried from units to a run behind them, or from the run to what comes next. -/
theorem IsBetween.pack_eq (h : IsBetween maxSize before run after units)
    (htight : ∀ unit ∈ units, IsTight unit) :
    pack maxSize separator oversized units =
      pack maxSize separator oversized before ++ pack maxSize separator oversized run ++
        pack maxSize separator oversized after := by
  rw [h.eq_append] at htight ⊢
  rw [pack_append_of_large htight h.large_after,
    pack_append_of_large_left (List.forall_mem_append.mp htight).1 h.large_before]

/-- A run of small units is packed into as few pieces as it can be cut into. -/
theorem IsBetween.isFewest (h : IsBetween maxSize before run after units)
    (htight : ∀ unit ∈ units, IsTight unit) :
    IsFewest maxSize separator run (pack maxSize separator oversized run) := by
  refine isFewest_pack (fun unit hunit => htight unit ?_) h.small
  rw [h.eq_append]
  exact List.mem_append_left _ (List.mem_append_right _ hunit)

/-- **The fewest pieces.** Units of which none is oversized are packed into as few pieces as any cut that
keeps them whole could make of them. So are the paragraphs between two oversized ones, which have a blank
line between them in a piece, and the sentences between two oversized ones, which have nothing. -/
theorem isFewest_pieces (maxSize : Nat) :
    (∀ (separator : List Char) (oversized : List Char → List (List Char)) (units : List (List Char)),
      (∀ unit ∈ units, IsTight unit) → (∀ unit ∈ units, unit.length ≤ maxSize) →
        IsFewest maxSize separator units (pack maxSize separator oversized units)) ∧
    ∀ (overlap : Nat) (text : List Char) (before run after : List (List Char)),
      (IsBetween maxSize before run after (packable (blankLine.cut text)) →
        let pieces := pack maxSize paragraphSeparator (splitSentences maxSize overlap)
        splitParagraphs maxSize overlap text = pieces before ++ pieces run ++ pieces after ∧
          IsFewest maxSize paragraphSeparator run (pieces run)) ∧
      (IsBetween maxSize before run after (packable (sentenceEnd.cut text)) →
        let pieces := pack maxSize [] (hardSplit maxSize overlap)
        splitSentences maxSize overlap text = pieces before ++ pieces run ++ pieces after ∧
          IsFewest maxSize [] run (pieces run)) := by
  have htight : ∀ units : List (List Char), ∀ unit ∈ packable units, IsTight unit :=
    fun _ _ => isTight_of_mem_packable
  refine ⟨fun _ _ _ => isFewest_pack, fun overlap text before run after => ⟨?_, ?_⟩⟩
  · intro h
    rw [splitParagraphs, ← pack_packable]
    exact ⟨h.pack_eq (htight _), h.isFewest (htight _)⟩
  · intro h
    rw [splitSentences, ← pack_packable]
    exact ⟨h.pack_eq (htight _), h.isFewest (htight _)⟩

/-- Three units, of which two fill a piece together with the separator; as paragraphs they stand between
oversized ones. Two sentences between oversized ones fill a piece with nothing between them. -/
theorem isFewest_pieces_between :
    let run := ["ab".toList, "cd".toList, "e".toList]
    let large := ["oversized".toList]
    let sentences := ["abc".toList, "def".toList]
    ((∀ unit ∈ run, IsTight unit) ∧ (∀ unit ∈ run, unit.length ≤ 6) ∧
      pack 6 "--".toList (fun _ => []) run = ["ab--cd".toList, "e".toList] ∧
      IsFewest 6 "--".toList run (pack 6 "--".toList (fun _ => []) run)) ∧
    (IsBetween 6 large run large
        (packable (blankLine.cut "oversized\n\nab\n\ncd\n\ne\n\noversized".toList)) ∧
      IsFewest 6 paragraphSeparator run (pack 6 paragraphSeparator (splitSentences 6 0) run)) ∧
    IsBetween 6 large sentences large
        (packable (sentenceEnd.cut "oversized. abc. def! oversized".toList)) ∧
      IsFewest 6 [] sentences (pack 6 [] (hardSplit 6 0) sentences) := by
  intro run large sentences
  have hrun : packable run = run := by decide
  have htight : ∀ unit ∈ run, IsTight unit := by
    rw [← hrun]
    exact fun _ => isTight_of_mem_packable
  have hsmall : ∀ unit ∈ run, unit.length ≤ 6 := by decide
  have hparagraphs : IsBetween 6 large run large
      (packable (blankLine.cut "oversized\n\nab\n\ncd\n\ne\n\noversized".toList)) :=
    ⟨by decide +kernel, hsmall, by decide, by decide⟩
  have hsentences : IsBetween 6 large sentences large
      (packable (sentenceEnd.cut "oversized. abc. def! oversized".toList)) :=
    ⟨by decide +kernel, by decide, by decide, by decide⟩
  obtain ⟨hpack, hbetween⟩ := isFewest_pieces 6
  exact ⟨⟨htight, hsmall, by decide, hpack _ _ run htight hsmall⟩,
    ⟨hparagraphs, ((hbetween 0 _ _ _ _).1 hparagraphs).2⟩,
    hsentences, ((hbetween 0 _ _ _ _).2 hsentences).2⟩

end TextChunking
