import Mathlib.Order.Interval.Finset.Nat
import TextChunking.Proofs.Text.ByteRanges
import TextChunking.Proofs.Text.Trimming
import TextChunking.Split.Window
/-!
# Windows of bytes are windows of characters

A window that is cut out of the bytes of a text lies between the offsets of two of its characters, or
goes up to the end of the text (`windowBytes?_eq_some`); as long as the place where it ends is a 64-bit
word, these are the offsets of a stretch of characters (`wordSpan_eq`). So no slice fails if that is so
of all windows, and what is cut out are the windows of characters (`hardSplit?_of_fit`). **Theorem**
(`hardSplit?_eq_windows`): the windows are what the stretches hold that start at the multiples of the
step (`windowSpans`); these leave out no character, and neighbours share as many as overlap, or fewer at
the end of the text.
-/

namespace TextChunking

/-- The stretches of the windows of a text with a given length: they start at the multiples of the step, and
are as long as the size and the text allow. -/
def windowSpans (maxSize overlap length : Nat) : List Span :=
  let step := windowStep maxSize overlap
  (List.range (windowCount step length)).map fun k => ⟨k * step, min (k * step + maxSize) length⟩

/-- The places of the characters of a stretch. -/
def Span.places (span : Span) : Finset Nat := Finset.Ico span.start span.stop

variable {maxSize overlap step length k start : Nat} {text part piece : List Char} {span next : Span}

/-! ### How many windows there are -/

/-- Every window starts behind the one before it. -/
theorem windowStep_pos (maxSize overlap : Nat) : 0 < windowStep maxSize overlap :=
  Nat.le_max_left 1 _

/-- There is no gap between the windows. -/
theorem windowStep_le (hsize : 1 ≤ maxSize) (overlap : Nat) : windowStep maxSize overlap ≤ maxSize :=
  Nat.max_le.mpr ⟨hsize, Nat.sub_le _ _⟩

/-- As many windows start within a text as there are multiples of the step. -/
theorem lt_windowCount_iff (hstep : 0 < step) : k < windowCount step length ↔ k * step < length := by
  rw [windowCount, ← Nat.succ_le_iff, Nat.le_div_iff_mul_le hstep, Nat.succ_mul]
  omega

/-- No window starts within an empty text. -/
theorem windowCount_zero (hstep : 0 < step) : windowCount step 0 = 0 := by
  by_contra h
  have := (lt_windowCount_iff hstep).mp (Nat.pos_of_ne_zero h)
  omega

/-- The first window starts at the first character, and the others where the rest of the text has them. -/
theorem windowCount_succ (advance length : Nat) :
    windowCount (advance + 1) (length + 1) = windowCount (advance + 1) (length - advance) + 1 := by
  have hiff : ∀ k, k < windowCount (advance + 1) (length + 1) ↔
      k < windowCount (advance + 1) (length - advance) + 1 := by
    intro k
    rw [lt_windowCount_iff (Nat.succ_pos advance)]
    cases k with
    | zero => simp
    | succ k =>
      rw [Nat.succ_lt_succ_iff, lt_windowCount_iff (Nat.succ_pos advance), Nat.succ_mul]
      omega
  exact le_antisymm (le_of_forall_lt fun k h => (hiff k).mp h) (le_of_forall_lt fun k h => (hiff k).mpr h)

/-- The stretches in their order: each starts a step behind the one before, as long as that is within the text. -/
theorem getElem?_windowSpans_iff : (windowSpans maxSize overlap length)[k]? = some span ↔
    k * windowStep maxSize overlap < length ∧
      span = ⟨k * windowStep maxSize overlap, min (k * windowStep maxSize overlap + maxSize) length⟩ := by
  rw [← lt_windowCount_iff (windowStep_pos maxSize overlap), windowSpans, List.getElem?_map,
    Option.map_eq_some_iff]
  constructor
  · rintro ⟨i, hi, rfl⟩
    obtain ⟨hlt, rfl⟩ := List.getElem?_eq_some_iff.mp hi
    rw [List.getElem_range]
    exact ⟨by simpa using hlt, rfl⟩
  · rintro ⟨hlt, rfl⟩
    exact ⟨k, List.getElem?_range hlt, rfl⟩

/-- A window does not end before it starts. -/
theorem start_le_stop_of_mem_windowSpans (h : span ∈ windowSpans maxSize overlap length) :
    span.start ≤ span.stop := by
  obtain ⟨k, hk⟩ := List.mem_iff_getElem?.mp h
  obtain ⟨hlt, rfl⟩ := getElem?_windowSpans_iff.mp hk
  exact Nat.le_min.mpr ⟨Nat.le_add_right _ _, hlt.le⟩

/-! ### Windows of characters -/

/-- The windows of a text are the stretches that start at the multiples of the step. -/
theorem windows_eq_map (size advance : Nat) (text : List Char) :
    windows size advance text = (List.range (windowCount (advance + 1) text.length)).map fun k =>
      (text.drop (k * (advance + 1))).take size := by
  fun_induction windows size advance text with
  | case1 =>
    rw [List.length_nil, windowCount_zero (Nat.succ_pos advance)]
    rfl
  | case2 c rest ih =>
    rw [ih, List.length_cons, windowCount_succ, List.length_drop, List.range_succ_eq_map, List.map_cons,
      List.map_map]
    congr 1
    · simp
    · refine List.map_congr_left fun k _ => ?_
      have hplace : (k + 1) * (advance + 1) = advance + k * (advance + 1) + 1 := by
        rw [Nat.succ_mul]
        omega
      rw [Function.comp_apply, Nat.succ_eq_add_one, hplace, List.drop_succ_cons, List.drop_drop]

/-- What a stretch holds are the characters from its start on, as many as the size allows. -/
theorem block_window (text : List Char) (start maxSize : Nat) :
    Span.block text ⟨start, min (start + maxSize) text.length⟩ = (text.drop start).take maxSize := by
  rw [Span.block, ← List.take_eq_take_min, List.drop_take, Nat.add_sub_cancel_left]

/-- A hard split takes the windows from stretches of characters. -/
theorem hardSplit_eq (hsize : 1 ≤ maxSize) (overlap : Nat) (text : List Char) :
    hardSplit maxSize overlap text =
      ((windowSpans maxSize overlap text.length).map fun span => trim (span.block text)).filter
        fun piece => !piece.isEmpty := by
  have hstep : maxSize - overlap - 1 + 1 = windowStep maxSize overlap := by
    rw [windowStep]
    omega
  have hpos : ¬ (maxSize == 0) = true := by
    rw [beq_iff_eq]
    omega
  rw [hardSplit, if_neg hpos, windows_eq_map, hstep, List.map_map, windowSpans, List.map_map]
  simp only [Function.comp_def, block_window]

/-- Every window is a part of the text. -/
theorem isInfix_of_mem_windows {size advance : Nat} (h : part ∈ windows size advance text) :
    part <:+: text := by
  rw [windows_eq_map] at h
  obtain ⟨k, -, rfl⟩ := List.mem_map.mp h
  exact (List.take_prefix ..).isInfix.trans (List.drop_suffix ..).isInfix

/-- What a hard window holds stands in the text. -/
theorem isInfix_of_mem_hardSplit (h : piece ∈ hardSplit maxSize overlap text) :
    piece <:+: text := by
  unfold hardSplit at h
  split at h
  · simp at h
  · simp only [List.mem_filter, List.mem_map] at h
    obtain ⟨⟨window, hwindow, rfl⟩, -⟩ := h
    exact (trim_isInfix window).trans (isInfix_of_mem_windows hwindow)

/-! ### Windows of bytes -/

/-- The stretch of a window, with its end reckoned in 64-bit words. -/
def wordSpan (maxSize length start : Nat) : Span := ⟨start, min ((start + maxSize) % wordLimit) length⟩

/-- A window that starts within a text goes from its first character up to the one at which it ends. -/
theorem windowBytes?_eq_some (hstart : start < text.length) (maxSize : Nat) :
    windowBytes? maxSize (String.ofList text).utf8ByteSize (offsetsFrom 0 text).toArray start =
      some (byteRange text (wordSpan maxSize text.length start)) := by
  have hlast : ∀ place, (offsetsFrom 0 text)[min place text.length]?.getD
      (String.ofList text).utf8ByteSize = byteOffset text (min place text.length) := by
    intro place
    rcases Nat.lt_or_ge place text.length with hlt | hge
    · rw [Nat.min_eq_left hlt.le, getElem?_offsetsFrom hlt, Option.getD_some, Nat.zero_add]
    · rw [Nat.min_eq_right hge, List.getElem?_eq_none (length_offsetsFrom 0 text).le, Option.getD_none,
        byteOffset_of_length_le le_rfl]
  rw [windowBytes?]
  simp only [List.size_toArray, length_offsetsFrom, List.getElem?_toArray, hlast,
    getElem?_offsetsFrom hstart, Option.map_some, Nat.zero_add, byteRange, wordSpan]

/-- A window ends behind its last character if that place is a 64-bit word. -/
theorem wordSpan_eq (hword : start + maxSize < wordLimit) (length : Nat) :
    wordSpan maxSize length start = ⟨start, min (start + maxSize) length⟩ := by
  rw [wordSpan, Nat.mod_eq_of_lt hword]

/-- A result that is there for every item is there for all of them. -/
theorem mapM_eq_some_map {α β : Type} {f : α → Option β} {g : α → β} {items : List α}
    (h : ∀ a ∈ items, f a = some (g a)) : items.mapM f = some (items.map g) := by
  induction items with
  | nil => rfl
  | cons a items ih =>
    have hrest := ih fun b hb => h b (List.mem_cons_of_mem a hb)
    simp [List.mapM_cons, h a List.mem_cons_self, hrest]

/-- There are bytes for every window of a text. -/
theorem byteWindows?_eq_some (hsize : 1 ≤ maxSize) (overlap : Nat) (text : List Char) :
    byteWindows? maxSize overlap (String.ofList text).utf8ByteSize (offsetsFrom 0 text).toArray =
      some ((List.range (windowCount (windowStep maxSize overlap) text.length)).map fun k =>
        byteRange text (wordSpan maxSize text.length (k * windowStep maxSize overlap))) := by
  rw [byteWindows?]
  split
  · -- there are windows unless the text is empty
    rename_i hnone
    have hnil : text = [] := by
      rcases (Bool.or_eq_true _ _).mp hnone with hempty | hzero
      · rwa [List.isEmpty_toArray, List.isEmpty_iff_length_eq_zero, length_offsetsFrom,
          List.length_eq_zero_iff] at hempty
      · rw [beq_iff_eq] at hzero
        omega
    rw [hnil, List.length_nil, windowCount_zero (windowStep_pos maxSize overlap)]
    rfl
  · rw [List.size_toArray, length_offsetsFrom]
    refine mapM_eq_some_map fun k hk => windowBytes?_eq_some ?_ maxSize
    exact (lt_windowCount_iff (windowStep_pos maxSize overlap)).mp (List.mem_range.mp hk)

/-- The places where the windows of a text would end are 64-bit words. -/
def WindowsFit (maxSize overlap length : Nat) : Prop :=
  ∀ k, k * windowStep maxSize overlap < length → k * windowStep maxSize overlap + maxSize < wordLimit

/-- The windows fit if there is a word for the length of the text and one window together. -/
theorem windowsFit_of_lt (hword : length + maxSize < wordLimit) (overlap : Nat) :
    WindowsFit maxSize overlap length := by
  intro k hstart
  omega

/-- The windows of a text lie between the offsets of characters. -/
theorem byteWindows?_of_fit (hsize : 1 ≤ maxSize) (hfit : WindowsFit maxSize overlap text.length) :
    byteWindows? maxSize overlap (String.ofList text).utf8ByteSize (offsetsFrom 0 text).toArray =
      some ((windowSpans maxSize overlap text.length).map (byteRange text)) := by
  rw [byteWindows?_eq_some hsize, windowSpans, List.map_map]
  refine congrArg some (List.map_congr_left fun k hk => ?_)
  have hstart := (lt_windowCount_iff (windowStep_pos maxSize overlap)).mp (List.mem_range.mp hk)
  rw [wordSpan_eq (hfit k hstart)]
  rfl

/-- If there is such a word, the bytes of the windows are those of the stretches. -/
theorem byteWindows?_eq (hsize : 1 ≤ maxSize) (hword : text.length + maxSize < wordLimit) (overlap : Nat) :
    byteWindows? maxSize overlap (String.ofList text).utf8ByteSize (offsetsFrom 0 text).toArray =
      some ((windowSpans maxSize overlap text.length).map (byteRange text)) :=
  byteWindows?_of_fit hsize (windowsFit_of_lt hword overlap)

/-- The windows that are cut out of the bytes of a text are those of its characters. -/
theorem hardSplit?_of_fit (hsize : 1 ≤ maxSize) (hfit : WindowsFit maxSize overlap text.length) :
    hardSplit? maxSize overlap text = some (hardSplit maxSize overlap text) := by
  have hslices : ((windowSpans maxSize overlap text.length).map (byteRange text)).mapM
        (slice? (String.ofList text)) =
      some ((windowSpans maxSize overlap text.length).map fun span => String.ofList (span.block text)) := by
    rw [List.mapM_map]
    exact mapM_eq_some_map fun span hspan =>
      slice?_byteRange (start_le_stop_of_mem_windowSpans hspan) text
  simp only [hardSplit?, byteWindows?_of_fit hsize hfit, Option.bind_eq_bind, Option.bind_some,
    hslices, List.map_map, hardSplit_eq hsize, Function.comp_def, String.toList_ofList]

/-- If there is such a word, the hard split does not fail, and gives the windows of characters. -/
theorem hardSplit?_eq_some (hsize : 1 ≤ maxSize) (hword : text.length + maxSize < wordLimit)
    (overlap : Nat) : hardSplit? maxSize overlap text = some (hardSplit maxSize overlap text) :=
  hardSplit?_of_fit hsize (windowsFit_of_lt hword overlap)

/-! ### Neighbouring windows -/

/-- Every character is in the window that starts at the last multiple of the step in front of it. -/
theorem exists_mem_places (hsize : 1 ≤ maxSize) (overlap : Nat) {place : Nat} (h : place < length) :
    ∃ span ∈ windowSpans maxSize overlap length, place ∈ span.places := by
  have hstart := Nat.div_mul_le_self place (windowStep maxSize overlap)
  have hnext : place < place / windowStep maxSize overlap * windowStep maxSize overlap +
      windowStep maxSize overlap := Nat.lt_div_mul_add (windowStep_pos maxSize overlap)
  have hle := windowStep_le hsize overlap
  refine ⟨_, List.mem_of_getElem? (getElem?_windowSpans_iff.mpr ⟨hstart.trans_lt h, rfl⟩), ?_⟩
  exact Finset.mem_Ico.mpr ⟨hstart, Nat.lt_min.mpr ⟨by omega, h⟩⟩

/-- Neighbouring windows share the characters from the start of the second to the end of the first. -/
theorem places_inter_eq (hspan : (windowSpans maxSize overlap length)[k]? = some span)
    (hnext : (windowSpans maxSize overlap length)[k + 1]? = some next) :
    span.places ∩ next.places = Finset.Ico ((k + 1) * windowStep maxSize overlap)
      (min (k * windowStep maxSize overlap + maxSize) length) := by
  obtain ⟨-, rfl⟩ := getElem?_windowSpans_iff.mp hspan
  obtain ⟨-, rfl⟩ := getElem?_windowSpans_iff.mp hnext
  have hstep : (k + 1) * windowStep maxSize overlap =
      k * windowStep maxSize overlap + windowStep maxSize overlap := Nat.succ_mul k _
  simp only [Span.places, Finset.Ico_inter_Ico]
  congr 1 <;> omega

/-- Neighbouring windows share as many characters as overlap, if there are so many left. -/
theorem card_places_inter_eq (hsize : 1 ≤ maxSize)
    (hspan : (windowSpans maxSize overlap length)[k]? = some span)
    (hnext : (windowSpans maxSize overlap length)[k + 1]? = some next) :
    (span.places ∩ next.places).card =
      min (min overlap (maxSize - 1)) (length - (k + 1) * windowStep maxSize overlap) := by
  rw [places_inter_eq hspan hnext, Nat.card_Ico, Nat.succ_mul, windowStep]
  omega

/-- **Windows of bytes are windows of characters.** If the size of a window is at least one character, and
small enough for all places to be 64-bit words, the windows that are cut out of the bytes of a text are the
trimmed stretches that start at the multiples of the step and are as long as the size and the text allow,
but for those that are blank. Their bytes begin and end between characters, no character is left out, and
neighbours share as many characters as overlap, or as there are left. -/
theorem hardSplit?_eq_windows (maxSize overlap : Nat) (text : List Char) (hsize : 1 ≤ maxSize)
    (hword : text.length + maxSize < wordLimit) :
    let step := max 1 (maxSize - overlap)
    let spans := windowSpans maxSize overlap text.length
    (∀ k span, spans[k]? = some span ↔
      k * step < text.length ∧ span = ⟨k * step, min (k * step + maxSize) text.length⟩) ∧
    hardSplit? maxSize overlap text = some (hardSplit maxSize overlap text) ∧
    hardSplit maxSize overlap text =
      ((spans.map fun span => trim (span.block text)).filter fun piece => !piece.isEmpty) ∧
    byteWindows? maxSize overlap (String.ofList text).utf8ByteSize (offsetsFrom 0 text).toArray =
      some (spans.map (byteRange text)) ∧
    (∀ span ∈ spans, (byteRange text span).IsProper (String.ofList text)) ∧
    (∀ place < text.length, ∃ span ∈ spans, place ∈ span.places) ∧
    ∀ k span next, spans[k]? = some span → spans[k + 1]? = some next →
      span.places ∩ next.places =
        Finset.Ico ((k + 1) * step) (min (k * step + maxSize) text.length) ∧
      (span.places ∩ next.places).card =
        min (min overlap (maxSize - 1)) (text.length - (k + 1) * step) := by
  intro step spans
  refine ⟨fun _ _ => getElem?_windowSpans_iff, hardSplit?_eq_some hsize hword overlap,
    hardSplit_eq hsize overlap text, byteWindows?_eq hsize hword overlap,
    fun span hspan => isProper_byteRange (start_le_stop_of_mem_windowSpans hspan) text,
    fun _ => exists_mem_places hsize overlap, ?_⟩
  intro k span next hspan hnext
  exact ⟨places_inter_eq hspan hnext, card_places_inter_eq hsize hspan hnext⟩

/-- Windows of characters that take up to four bytes, of which neighbours share one character and some are
blank. -/
theorem hardSplit?_eq_windows_of_emoji :
    let text := "é🦀   中".toList
    (1 ≤ 2 ∧ text.length + 2 < wordLimit) ∧
    hardSplit? 2 1 text = some (["é🦀", "🦀", "中", "中"].map String.toList) ∧
    byteWindows? 2 1 (String.ofList text).utf8ByteSize (offsetsFrom 0 text).toArray =
      some [⟨0, 6⟩, ⟨2, 7⟩, ⟨6, 8⟩, ⟨7, 9⟩, ⟨8, 12⟩, ⟨9, 12⟩] ∧
    (byteRange text ⟨1, 3⟩).IsProper (String.ofList text) ∧
    Span.places ⟨0, 2⟩ ∩ Span.places ⟨1, 3⟩ = Finset.Ico 1 2 := by
  intro text
  have hword : text.length + 2 < wordLimit := by decide
  obtain ⟨hspans, hsome, hwindows, hbytes, hproper, -, hshared⟩ :=
    hardSplit?_eq_windows 2 1 text (by decide) hword
  have hfirst : (windowSpans 2 1 text.length)[0]? = some ⟨0, 2⟩ := (hspans 0 _).mpr (by decide)
  have hsecond : (windowSpans 2 1 text.length)[1]? = some ⟨1, 3⟩ := (hspans 1 _).mpr (by decide)
  refine ⟨⟨by decide, hword⟩, ?_, ?_, hproper _ (List.mem_of_getElem? hsecond),
    (hshared 0 _ _ hfirst hsecond).1⟩
  · rw [hsome]
    decide +kernel
  · rw [hbytes]
    decide +kernel

end TextChunking
