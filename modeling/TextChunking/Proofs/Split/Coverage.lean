import TextChunking.Proofs.Split.Filling
import TextChunking.Proofs.Text.Cutting
import TextChunking.Proofs.Text.Runs
import TextChunking.Split.Splitter
/-!
# No ink is lost, invented or reordered

What a split keeps of a text is its ink, but for the terminators of the paragraphs that are too large for
a piece (`textInk`). **Theorem** (`preserves_ink`): the ink of the chunks covers what is kept, and only
neighbouring hard windows have characters in common, at most as many as the overlap.

Each stage of the chain is followed by its ink. Windows are the base: each begins inside the one before,
so what the blank ones among them would have covered the others cover too (`exists_isRun_windows`).
Packing then keeps the ink of the units in their order (`covers_pack`), which gives sentences, from
these paragraphs, and from these the chunks.
-/

namespace TextChunking

/-! ### Windows -/

/-- The ink of a longer front is longer. -/
theorem length_ink_take_le {i j : Nat} (h : i ≤ j) (text : List Char) :
    (ink (text.take i)).length ≤ (ink (text.take j)).length :=
  ((List.take_prefix_take_left h).sublist.filter _).length_le

/-- The ink of the front of a text is the front of its ink. -/
theorem take_length_ink (text : List Char) (k : Nat) :
    (ink text).take (ink (text.take k)).length = ink (text.take k) := by
  conv_lhs => rw [← List.take_append_drop k text, ink_append]
  rw [List.take_append_drop, List.take_left]

/-- The windows that are not blank run through the ink of a text, and the first of them covers that of
any front no longer than a window. -/
theorem exists_isRun_windows {size advance : Nat} (h : advance < size) (text : List Char) :
    ∃ spans, IsRun (size - advance - 1) (ink text) spans ∧
      (((windows size advance text).map trim).filter fun piece => !piece.isEmpty).map ink =
        spans.map (Span.block (ink text)) ∧
      ∀ span ∈ spans.head?, (ink (text.take size)).length ≤ span.stop := by
  fun_induction windows size advance text with
  | case1 => exact ⟨[], .nil, rfl, by simp⟩
  | case2 c rest ih =>
    obtain ⟨spans, hrun, hblocks, hfirst⟩ := ih
    generalize htext : c :: rest = text
    have hahead : rest.drop advance = text.drop (advance + 1) := by rw [← htext]; rfl
    rw [hahead] at hrun hblocks hfirst ⊢
    -- a window is what the next one leaves of it and a front of what is ahead
    have hwindow : text.take size =
        text.take (advance + 1) ++ (text.drop (advance + 1)).take (size - advance - 1) := by
      rw [← List.take_add]
      congr 1
      omega
    have hink : ink text = ink (text.take (advance + 1)) ++ ink (text.drop (advance + 1)) := by
      rw [← ink_append, List.take_append_drop]
    rw [List.map_cons, List.filter_cons]
    by_cases hblank : ink (text.take size) = []
    · have hfront : ink (text.take (advance + 1)) = [] := by
        rw [hwindow, ink_append] at hblank
        exact (List.append_eq_nil_iff.mp hblank).1
      rw [hink, hfront, List.nil_append, trim_eq_nil_iff_ink.mpr hblank]
      exact ⟨spans, hrun, hblocks, by simp [hblank]⟩
    · have htrim : trim (text.take size) ≠ [] := mt trim_eq_nil_iff_ink.mp hblank
      rw [if_pos (by simpa using htrim), List.map_cons, hblocks, ink_trim, hink]
      have hle : (ink ((text.drop (advance + 1)).take (size - advance - 1))).length ≤
          (ink (text.drop (advance + 1))).length :=
        ((List.take_sublist _ _).filter _).length_le
      have hshared : (ink ((text.drop (advance + 1)).take (size - advance - 1))).length ≤
          size - advance - 1 :=
        (length_ink_le _).trans (List.length_take_le ..)
      have hlength : (ink (text.take size)).length = (ink (text.take (advance + 1))).length +
          (ink ((text.drop (advance + 1)).take (size - advance - 1))).length := by
        rw [hwindow, ink_append, List.length_append]
      refine ⟨_, hrun.extend hle hshared ?_ ?_, ?_, ?_⟩
      · intro span hspan
        exact (length_ink_take_le (by omega) _).trans (hfirst span hspan)
      · rw [← hlength]
        exact List.length_pos_iff.mpr hblank
      · rw [List.map_cons, List.map_map]
        congr 1
        · rw [Span.block, List.drop_zero, List.take_length_add_append, take_length_ink, ← ink_append,
            ← hwindow]
        · exact List.map_congr_left fun span _ => (Span.block_shift _ _ span).symm
      · simp [hlength]

/-- A hard split covers the ink of a text. -/
theorem covers_hardSplit {maxSize : Nat} (hsize : 0 < maxSize) (overlap : Nat) (text : List Char) :
    Covers (min overlap (maxSize - 1)) (ink text) ((hardSplit maxSize overlap text).map ink) := by
  have hadvance : maxSize - overlap - 1 < maxSize := by omega
  obtain ⟨spans, hrun, hblocks, -⟩ := exists_isRun_windows hadvance text
  have hshared : maxSize - (maxSize - overlap - 1) - 1 = min overlap (maxSize - 1) := by omega
  rw [hshared] at hrun
  refine ⟨spans, hrun, ?_⟩
  rw [hardSplit, if_neg (by simp only [beq_iff_eq]; omega), hblocks]

/-! ### Packing -/

section packing

variable {maxSize shared : Nat} {separator : List Char}
  {oversized : List Char → List (List Char)} {kept : List Char → List Char}

/-- Filling covers what is kept of the units, if the pieces of each oversized unit do. -/
theorem covers_fill (hseparator : ink separator = [])
    (hfits : ∀ unit, ¬ maxSize < unit.length → kept unit = ink unit)
    (hoversized : ∀ unit, maxSize < unit.length →
      Covers shared (kept unit) ((oversized unit).map ink))
    {buffer : List Char} {units : List (List Char)} (hbuffer : buffer = [] ∨ IsTight buffer)
    (hunits : ∀ unit ∈ units, IsTight unit) :
    Covers shared (ink buffer ++ units.flatMap kept)
      ((fill maxSize separator oversized buffer units).map ink) := by
  have hpending : ∀ text, (text = [] ∨ IsTight text) →
      Covers shared (ink text) ((pending text).map ink) := by
    rintro text (rfl | htext)
    · exact .nil
    · rw [pending_of_ne_nil htext.ne_nil]
      exact .single htext.ink_ne_nil
  induction units generalizing buffer with
  | nil => simpa [fill] using hpending buffer hbuffer
  | cons unit rest ih =>
    have hunit : IsTight unit := hunits unit List.mem_cons_self
    have hrest : ∀ text, (text = [] ∨ IsTight text) → Covers shared (ink text ++ rest.flatMap kept)
        ((fill maxSize separator oversized text rest).map ink) :=
      fun text htext => ih htext fun other hother => hunits other (List.mem_cons_of_mem _ hother)
    rw [fill, List.flatMap_cons]
    split
    · rename_i hlarge
      rw [List.map_append, List.map_append, ← List.append_assoc]
      exact ((hpending buffer hbuffer).append (hoversized unit hlarge)).append
        (by simpa using hrest [] (.inl rfl))
    · rename_i hsmall
      rw [hfits unit hsmall]
      split
      · rename_i hempty
        rw [hempty, ink_nil, List.nil_append]
        exact hrest unit (.inr hunit)
      · rename_i hne
        have htight : IsTight buffer := hbuffer.resolve_left hne
        split
        · have hjoin := hrest _ (.inr (htight.join hunit separator))
          simpa [hseparator] using hjoin
        · exact (Covers.single htight.ink_ne_nil).append (hrest unit (.inr hunit))

/-- Units that are not packed keep nothing. -/
theorem flatMap_packable (hkept : kept [] = []) (units : List (List Char)) :
    (packable units).flatMap kept = units.flatMap fun unit => kept (trim unit) := by
  induction units with
  | nil => rfl
  | cons unit rest ih =>
    rw [List.flatMap_cons, ← ih]
    by_cases h : trim unit = [] <;> simp [packable, h, hkept]

/-- Packing covers what is kept of the units, if the pieces of each oversized unit do. -/
theorem covers_pack (kept : List Char → List Char) (hseparator : ink separator = [])
    (hfits : ∀ unit, ¬ maxSize < unit.length → kept unit = ink unit)
    (hoversized : ∀ unit, maxSize < unit.length →
      Covers shared (kept unit) ((oversized unit).map ink)) (units : List (List Char)) :
    Covers shared (units.flatMap fun unit => kept (trim unit))
      ((pack maxSize separator oversized units).map ink) := by
  rw [pack_eq_fill, ← flatMap_packable (hfits [] (Nat.not_lt_zero maxSize))]
  exact covers_fill hseparator hfits hoversized (.inl rfl) fun unit hunit =>
    isTight_of_mem_packable hunit

end packing

/-! ### Sentences and paragraphs -/

/-- A text without the characters that end sentences. -/
def withoutTerminators (text : List Char) : List Char := text.filter fun c => !isTerminator c

/-- The blank characters behind a terminator are always a match. -/
theorem isSome_match?_sentenceEnd_rest (text : List Char) :
    (sentenceEnd.rest.match? text).isSome = true := by
  rw [sentenceEnd, Pattern.match?_many, Option.isSome_some]

/-- The sentences of a text hold its ink, but for the terminators. -/
theorem flatMap_ink_cut_sentenceEnd (text : List Char) :
    (sentenceEnd.cut text).flatMap ink = withoutTerminators (ink text) := by
  have hwithin : sentenceEnd.IsWithin fun c => !(!isTerminator c && !isBlank c) := by
    refine ⟨fun c hc => by simp [show isTerminator c = true from hc], ?_⟩
    intro piece hpiece c hc
    rw [List.mem_singleton.mp hpiece] at hc
    simp [show isBlank c = true from hc]
  have hsegment : ∀ segment ∈ sentenceEnd.cut text,
      ink segment = segment.filter fun c => !isTerminator c && !isBlank c := by
    intro segment hmem
    refine List.filter_congr fun c hc => ?_
    have hfirst : isTerminator c = false :=
      Separator.first_eq_false_of_mem_cut isSome_match?_sentenceEnd_rest hmem c hc
    simp [hfirst]
  rw [List.flatMap_congr hsegment, Separator.flatMap_filter_cut hwithin, withoutTerminators, ink,
    List.filter_filter]

/-- Splitting by sentences covers the ink of a text, but for the terminators. -/
theorem covers_splitSentences {maxSize : Nat} (hsize : 0 < maxSize) (overlap : Nat)
    (text : List Char) :
    Covers (min overlap (maxSize - 1)) (withoutTerminators (ink text))
      ((splitSentences maxSize overlap text).map ink) := by
  have hpack : Covers (min overlap (maxSize - 1))
      ((sentenceEnd.cut text).flatMap fun unit => ink (trim unit))
      ((pack maxSize [] (hardSplit maxSize overlap) (sentenceEnd.cut text)).map ink) :=
    covers_pack ink rfl (fun _ _ => rfl) (fun unit _ => covers_hardSplit hsize overlap unit) _
  simp only [ink_trim] at hpack
  rwa [flatMap_ink_cut_sentenceEnd] at hpack

/-- What a split keeps of a paragraph: its ink, without the terminators if the paragraph is too large
for a piece. -/
def paragraphInk (maxSize : Nat) (paragraph : List Char) : List Char :=
  if maxSize < (trim paragraph).length then withoutTerminators (ink paragraph) else ink paragraph

/-- What packing keeps of a paragraph that is trimmed already. -/
def trimmedInk (maxSize : Nat) (unit : List Char) : List Char :=
  if maxSize < unit.length then withoutTerminators (ink unit) else ink unit

/-- Trimming a paragraph beforehand does not change what is kept of it. -/
theorem trimmedInk_trim (maxSize : Nat) (paragraph : List Char) :
    trimmedInk maxSize (trim paragraph) = paragraphInk maxSize paragraph := by
  rw [trimmedInk, paragraphInk, ink_trim]

/-- What a split keeps of a text that it cuts into paragraphs. -/
def cutInk (maxSize : Nat) (text : List Char) : List Char :=
  (blankLine.cut text).flatMap (paragraphInk maxSize)

/-- What a split keeps of a text. -/
def textInk (maxSize : Nat) (text : List Char) : List Char :=
  if (trim text).length ≤ maxSize then ink text else cutInk maxSize (trim text)

/-- Splitting by paragraphs covers what is kept of them. -/
theorem covers_splitParagraphs {maxSize : Nat} (hsize : 0 < maxSize) (overlap : Nat)
    (text : List Char) :
    Covers (min overlap (maxSize - 1)) (cutInk maxSize text)
      ((splitParagraphs maxSize overlap text).map ink) := by
  have hseparator : ink paragraphSeparator = [] := by decide
  have hpack : Covers (min overlap (maxSize - 1))
      ((blankLine.cut text).flatMap fun unit => trimmedInk maxSize (trim unit))
      ((pack maxSize paragraphSeparator (splitSentences maxSize overlap)
        (blankLine.cut text)).map ink) := by
    refine covers_pack (trimmedInk maxSize) hseparator (fun unit hsmall => if_neg hsmall)
      (fun unit hlarge => ?_) _
    rw [trimmedInk, if_pos hlarge]
    exact covers_splitSentences hsize overlap unit
  simp only [trimmedInk_trim] at hpack
  exact hpack

/-! ### Chunks -/

/-- The ink of the content of a chunk. -/
def Chunk.ink (chunk : Chunk) : List Char := TextChunking.ink chunk.content.toList

namespace Splitter

/-- What chunks have to do with what was kept of the text that they come from. -/
structure Preserves (splitter : Splitter) (kept : List Char) (chunks : List Chunk) : Prop where
  /-- Their ink runs through what was kept, with nothing skipped, and neighbours share little of it. -/
  covers : Covers (min splitter.overlap (splitter.maxSize - 1)) kept (chunks.map Chunk.ink)
  /-- There are none exactly if nothing was kept. -/
  eq_nil_iff : chunks = [] ↔ kept = []
  /-- Without an overlap they share nothing. -/
  flatten_eq : splitter.overlap = 0 → (chunks.map Chunk.ink).flatten = kept

variable {splitter : Splitter}

/-- Chunks preserve what their ink covers. -/
theorem Preserves.of_covers {kept : List Char} {chunks : List Chunk}
    (h : Covers (min splitter.overlap (splitter.maxSize - 1)) kept (chunks.map Chunk.ink)) :
    splitter.Preserves kept chunks := by
  refine ⟨h, ?_, ?_⟩
  · rw [← h.eq_nil_iff, List.map_eq_nil_iff]
  · intro hoverlap
    rw [hoverlap, Nat.zero_min] at h
    exact h.flatten_eq

/-- The pieces of a text cover what is kept of it, whatever chunks are made of them. -/
theorem preserves_pieces (text : String) (chunkOf : String × Nat → Chunk)
    (hcontent : ∀ piece n, (chunkOf (piece, n)).content = piece) :
    splitter.Preserves (cutInk splitter.maxSize text.toList)
      ((splitter.pieces text).zipIdx.map chunkOf) := by
  refine .of_covers ?_
  have hink : ((splitter.pieces text).zipIdx.map chunkOf).map Chunk.ink =
      (splitParagraphs splitter.maxSize splitter.overlap text.toList).map ink := by
    rw [List.map_map]
    have hfst : (Chunk.ink ∘ chunkOf) = (fun piece : String => ink piece.toList) ∘ Prod.fst := by
      funext ⟨piece, n⟩
      simp [Chunk.ink, hcontent]
    rw [hfst, ← List.map_map, List.zipIdx_map_fst, pieces, List.map_map]
    exact List.map_congr_left fun piece _ => by simp
  rw [hink]
  exact covers_splitParagraphs splitter.maxSize_pos _ _

/-- The chunks of a plain text preserve what is kept of it. -/
theorem preserves_splitText (splitter : Splitter) (text : String) :
    splitter.Preserves (textInk splitter.maxSize text.toList) (splitter.splitText text) := by
  have hlength : (trimString text).length = (trim text.toList).length := by
    rw [← toList_trimString, String.length_toList]
  simp only [splitText]
  split
  · rename_i hempty
    have htrim : trim text.toList = [] := by simpa [trimString] using hempty
    rw [textInk, if_pos (by simp [htrim]), trim_eq_nil_iff_ink.mp htrim]
    exact .of_covers .nil
  · rename_i hne
    have htrim : trim text.toList ≠ [] := by simpa [trimString] using hne
    split
    · rename_i hsize
      rw [textInk, if_pos (hlength ▸ hsize)]
      have hink : (textChunk (trimString text) 0).ink = ink text.toList := by
        simp [Chunk.ink, textChunk]
      refine .of_covers ?_
      rw [List.map_singleton, hink]
      exact .single (mt trim_eq_nil_iff_ink.mpr htrim)
    · rename_i hsize
      rw [textInk, if_neg (hlength ▸ hsize), ← toList_trimString]
      exact preserves_pieces _ _ fun _ _ => rfl

/-- The chunks that take the place of an oversized candidate preserve what is kept of its content. -/
theorem preserves_refine {chunk : Chunk} (h : splitter.maxSize < chunk.size) :
    splitter.Preserves (cutInk splitter.maxSize chunk.content.toList) (splitter.refine chunk) := by
  rw [refine, if_neg (Nat.not_le_of_gt h)]
  exact preserves_pieces _ _ fun _ _ => rfl

/-- **A split preserves ink.** The ink of the chunks of a text runs through what is kept of the text,
and the ink of the chunks that take the place of an oversized candidate through what is kept of its
content. -/
theorem preserves_ink (splitter : Splitter) :
    (∀ text : String,
      splitter.Preserves (textInk splitter.maxSize text.toList) (splitter.splitText text)) ∧
    ∀ chunk : Chunk, splitter.maxSize < chunk.size →
      splitter.Preserves (cutInk splitter.maxSize chunk.content.toList) (splitter.refine chunk) :=
  ⟨preserves_splitText splitter, fun _ h => preserves_refine h⟩

/-- The chunks of a candidate with one oversized paragraph, whose terminators are dropped, and another
that is kept whole, cut into windows of four characters of which neighbours share two. -/
theorem preserves_ink_two_paragraphs :
    let splitter : Splitter := ⟨4, 2, by decide⟩
    let chunk : Chunk := textChunk "Lorem. Ipsum\n\n?!" 0
    splitter.maxSize < chunk.size ∧
      cutInk splitter.maxSize chunk.content.toList = "LoremIpsum?!".toList ∧
      splitter.Preserves (cutInk splitter.maxSize chunk.content.toList) (splitter.refine chunk) := by
  intro splitter chunk
  have hsize : splitter.maxSize < chunk.size := by decide
  exact ⟨hsize, by decide +kernel, (preserves_ink splitter).2 chunk hsize⟩

end Splitter

end TextChunking
