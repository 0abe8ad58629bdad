import TextChunking.Proofs.Split.Windows
/-!
# Where a hard split fails

The place where a window of the full size would end is a 64-bit word, also where the text ends before it. If there
is no such word for a window, the place wraps around to one in front of the start of the window
(`start_le_stop_wordSpan_iff`), and no slice ends before it starts. **Theorem** (`hardSplit?_eq_none_iff`): these are
the only windows that cannot be cut out, so a hard split fails exactly if there is one; and then the last window is
such.
-/

namespace TextChunking

variable {maxSize overlap length start place later : Nat} {text : List Char} {span : Span}

/-! ### Stretches that end before they start -/

/-- Every character takes some bytes. -/
theorem byteOffset_lt (h : place < later) (hlater : later ≤ text.length) :
    byteOffset text place < byteOffset text later := by
  have hstop : byteOffset text later =
      byteOffset text place + (String.ofList (Span.block text ⟨place, later⟩)).utf8ByteSize :=
    @byteOffset_stop ⟨place, later⟩ h.le text
  obtain ⟨c, rest, hblock⟩ : ∃ c rest, Span.block text ⟨place, later⟩ = c :: rest := by
    refine List.exists_cons_of_ne_nil (List.ne_nil_of_length_pos ?_)
    simp only [Span.block, List.length_drop, List.length_take]
    omega
  rw [hblock, String.ofList_cons, String.utf8ByteSize_append, String.utf8ByteSize_singleton] at hstop
  have hpos := Char.utf8Size_pos c
  omega

/-- Bytes between the offsets of characters end before they start exactly if the characters do. -/
theorem last_lt_first_byteRange_iff (hstart : span.start ≤ text.length) :
    (byteRange text span).last < (byteRange text span).first ↔ span.stop < span.start := by
  refine ⟨fun h => ?_, fun h => byteOffset_lt h hstart⟩
  by_contra hle
  exact absurd (isProper_byteRange (Nat.le_of_not_lt hle) text).first_le_last (Nat.not_le.mpr h)

/-- Bytes between the offsets of characters can be cut out unless they end before they start. -/
theorem isProper_byteRange_iff (hstart : span.start ≤ text.length) :
    (byteRange text span).IsProper (String.ofList text) ↔ span.start ≤ span.stop := by
  refine ⟨fun h => Nat.le_of_not_lt fun hlt => ?_, fun h => isProper_byteRange h text⟩
  exact absurd h.first_le_last (Nat.not_le.mpr ((last_lt_first_byteRange_iff hstart).mpr hlt))

/-- The end of a window that wraps around comes in front of its start. -/
theorem start_le_stop_wordSpan_iff (hsize : maxSize < wordLimit) (hlength : length < wordLimit)
    (hstart : start < length) :
    (wordSpan maxSize length start).start ≤ (wordSpan maxSize length start).stop ↔
      start + maxSize < wordLimit := by
  change start ≤ min ((start + maxSize) % wordLimit) length ↔ _
  rcases Nat.lt_or_ge (start + maxSize) wordLimit with hlt | hge
  · rw [Nat.mod_eq_of_lt hlt]
    omega
  · rw [Nat.mod_eq_sub_mod hge, Nat.mod_eq_of_lt (by omega)]
    omega

/-! ### Hard splits -/

/-- A result that is missing for one item is missing for all of them together. -/
theorem mapM_eq_none {α β : Type} {f : α → Option β} {items : List α} {a : α} (ha : a ∈ items)
    (hnone : f a = none) : items.mapM f = none := by
  induction items with
  | nil => cases ha
  | cons b items ih =>
    rw [List.mapM_cons]
    cases ha with
    | head => simp [hnone]
    | tail _ ha =>
      rw [ih ha]
      cases f b <;> rfl

/-- The windows do not fit exactly if one that starts within the text would end behind the last word. -/
theorem not_windowsFit_iff : ¬ WindowsFit maxSize overlap length ↔
    ∃ k, k * windowStep maxSize overlap < length ∧ wordLimit ≤ k * windowStep maxSize overlap + maxSize := by
  simp [WindowsFit]

/-- Windows without any characters never fail, for there are none. -/
theorem hardSplit?_zero (overlap : Nat) (text : List Char) :
    hardSplit? 0 overlap text = some (hardSplit 0 overlap text) := by
  have hnone : ∀ byteSize offsets, byteWindows? 0 overlap byteSize offsets = some [] := by
    intro byteSize offsets
    rw [byteWindows?, if_pos (by simp)]
  rw [hardSplit?, hnone]
  rfl

/-- A hard split fails if some window ends where no word is. -/
theorem hardSplit?_of_not_fit (hsize : maxSize < wordLimit) (hlength : text.length < wordLimit)
    (hfit : ¬ WindowsFit maxSize overlap text.length) : hardSplit? maxSize overlap text = none := by
  obtain ⟨k, hstart, hover⟩ := not_windowsFit_iff.mp hfit
  have hpos : 1 ≤ maxSize := by omega
  have hmem : byteRange text (wordSpan maxSize text.length (k * windowStep maxSize overlap)) ∈
      (List.range (windowCount (windowStep maxSize overlap) text.length)).map fun k =>
        byteRange text (wordSpan maxSize text.length (k * windowStep maxSize overlap)) :=
    List.mem_map.mpr
      ⟨k, List.mem_range.mpr ((lt_windowCount_iff (windowStep_pos maxSize overlap)).mpr hstart), rfl⟩
  have hslice : slice? (String.ofList text)
      (byteRange text (wordSpan maxSize text.length (k * windowStep maxSize overlap))) = none := by
    refine dif_neg fun hproper => ?_
    have hle := (isProper_byteRange_iff hstart.le).mp hproper
    exact absurd ((start_le_stop_wordSpan_iff hsize hlength hstart).mp hle) (Nat.not_lt.mpr hover)
  simp only [hardSplit?, byteWindows?_eq_some hpos, Option.bind_eq_bind, Option.bind_some,
    mapM_eq_none hmem hslice, Option.bind_none]

/-- All windows end where there are words if the last one does. -/
theorem windowsFit_iff_last : WindowsFit maxSize overlap length ↔
    length = 0 ∨
      (length - 1) / windowStep maxSize overlap * windowStep maxSize overlap + maxSize < wordLimit := by
  rcases Nat.eq_zero_or_pos length with hzero | hlength
  · exact iff_of_true (fun k hstart => absurd hstart (by omega)) (.inl hzero)
  · have hlast := Nat.div_mul_le_self (length - 1) (windowStep maxSize overlap)
    refine ⟨fun hfit => .inr (hfit _ (by omega)), ?_⟩
    rintro (hzero | hword) k hstart
    · omega
    · have hk : k ≤ (length - 1) / windowStep maxSize overlap :=
        (Nat.le_div_iff_mul_le (windowStep_pos maxSize overlap)).mpr (by omega)
      have hle := Nat.mul_le_mul_right (windowStep maxSize overlap) hk
      omega

/-- **A hard split fails exactly where a window has no word to end at.** For sizes that are 64-bit words, and a text
that has fewer characters than there are such words, a window that starts within the text can be cut out of its bytes
exactly if the place where it would end is a word; otherwise its bytes end before they start. If all windows can be
cut out, the result is what they hold, and if there is one that cannot, there is no result. It is enough to look at
the last window, and there is none that cannot be cut out if the size leaves room for the length of the text. -/
theorem hardSplit?_eq_none_iff (maxSize overlap : Nat) (text : List Char) (hsize : maxSize < wordLimit)
    (htext : text.length < wordLimit) :
    let step := max 1 (maxSize - overlap)
    let source := String.ofList text
    (∀ start < text.length, ∃ range,
      windowBytes? maxSize source.utf8ByteSize (offsetsFrom 0 text).toArray start = some range ∧
        (range.IsProper source ↔ start + maxSize < wordLimit) ∧
        (range.last < range.first ↔ wordLimit ≤ start + maxSize)) ∧
    (hardSplit? maxSize overlap text = none ↔
      ∃ k, k * step < text.length ∧ wordLimit ≤ k * step + maxSize) ∧
    (hardSplit? maxSize overlap text = some (hardSplit maxSize overlap text) ↔
      ∀ k, k * step < text.length → k * step + maxSize < wordLimit) ∧
    (hardSplit? maxSize overlap text = none ↔
      text ≠ [] ∧ wordLimit ≤ (text.length - 1) / step * step + maxSize) ∧
    (text.length + maxSize ≤ wordLimit →
      hardSplit? maxSize overlap text = some (hardSplit maxSize overlap text)) := by
  intro step source
  have hsome : WindowsFit maxSize overlap text.length →
      hardSplit? maxSize overlap text = some (hardSplit maxSize overlap text) := by
    intro hfit
    rcases Nat.eq_zero_or_pos maxSize with rfl | hpos
    · exact hardSplit?_zero overlap text
    · exact hardSplit?_of_fit hpos hfit
  have hnone : hardSplit? maxSize overlap text = none ↔ ¬ WindowsFit maxSize overlap text.length := by
    refine ⟨fun h hfit => ?_, hardSplit?_of_not_fit hsize htext⟩
    rw [hsome hfit] at h
    cases h
  refine ⟨fun start hstart => ?_, ?_, ⟨fun h => ?_, hsome⟩, ?_, fun h => hsome fun k hk => ?_⟩
  · have hproper := start_le_stop_wordSpan_iff hsize htext hstart
    refine ⟨_, windowBytes?_eq_some hstart maxSize, (isProper_byteRange_iff hstart.le).trans hproper, ?_⟩
    rw [last_lt_first_byteRange_iff hstart.le, ← Nat.not_le, hproper, Nat.not_lt]
  · exact hnone.trans not_windowsFit_iff
  · by_contra hfit
    rw [hnone.mpr hfit] at h
    cases h
  · rw [hnone, windowsFit_iff_last, not_or, Nat.not_lt, List.length_eq_zero_iff]
    rfl
  · omega

/-- Windows of the greatest size, of which one starts at each character. On two characters the second window would
end at the first number that is no word, and its bytes end before they start. With a size that is smaller by two
there is a word for every window. -/
theorem hardSplit?_eq_none_iff_greatest :
    let text := "ab".toList
    (wordLimit - 1 < wordLimit ∧ wordLimit - 3 < wordLimit ∧ text.length < wordLimit) ∧
    (∃ range, windowBytes? (wordLimit - 1) 2 (offsetsFrom 0 text).toArray 1 = some range ∧ range.last < range.first) ∧
    hardSplit? (wordLimit - 1) (wordLimit - 2) text = none ∧
    hardSplit? (wordLimit - 3) (wordLimit - 4) text = some ["ab".toList, "b".toList] := by
  intro text
  have hgreatest : wordLimit - 1 < wordLimit := by decide
  have hless : wordLimit - 3 < wordLimit := by decide
  have htext : text.length < wordLimit := by decide
  obtain ⟨hranges, hfails, -⟩ := hardSplit?_eq_none_iff (wordLimit - 1) (wordLimit - 2) text hgreatest htext
  obtain ⟨-, -, -, -, hroom⟩ := hardSplit?_eq_none_iff (wordLimit - 3) (wordLimit - 4) text hless htext
  obtain ⟨range, hrange, -, hlast⟩ := hranges 1 (by decide)
  refine ⟨⟨hgreatest, hless, htext⟩, ⟨range, hrange, hlast.mpr (by decide)⟩, ?_, ?_⟩
  · exact hfails.mpr ⟨1, by decide, by decide⟩
  · rw [hroom (by decide)]
    decide +kernel

/-- Sizes and a text for which a hard split has no result, although there is one for every text that is short enough
for the sizes. -/
theorem hardSplit?_two_characters :
    wordLimit - 1 < wordLimit ∧ wordLimit - 2 < wordLimit ∧
      hardSplit? (wordLimit - 1) (wordLimit - 2) "ab".toList = none := by
  decide +kernel

end TextChunking
