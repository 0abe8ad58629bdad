import TextChunking.Proofs.Split.Elements
import TextChunking.Proofs.Split.Filling
/-!
# Every chunk is tight and within the bound

Each stage of the chain gives nothing but pieces (`IsPiece`): the windows of a hard split because they
are cut to size and trimmed, sentences and paragraphs because packing keeps to pieces once the next
stage does. Candidates are tight from the start, so what `refine` makes of them is tight and within the
bound whether it had to cut or not. **Theorem** (`isSound_of_mem_split`): this holds of every chunk of
every input.
-/

namespace TextChunking

/-- What a chunk has to be: not empty, trimmed, with ink at both ends, and within the bound. -/
structure Chunk.IsSound (maxSize : Nat) (chunk : Chunk) : Prop where
  content_ne : chunk.content ≠ ""
  trim_content : trimString chunk.content = chunk.content
  head : ∀ c ∈ chunk.content.toList.head?, isBlank c = false
  last : ∀ c ∈ chunk.content.toList.getLast?, isBlank c = false
  size_le : chunk.size ≤ maxSize

/-- A chunk is sound exactly if its content is a piece. -/
theorem Chunk.isSound_iff {maxSize : Nat} {chunk : Chunk} :
    chunk.IsSound maxSize ↔ IsPiece maxSize chunk.content.toList := by
  constructor
  · intro h
    exact ⟨⟨by simpa using h.content_ne, h.head, h.last⟩, h.size_le⟩
  · intro h
    refine ⟨?_, ?_, h.tight.head, h.tight.last, h.length_le⟩
    · intro hempty
      exact h.tight.ne_nil (by simp [hempty])
    · rw [trimString, h.tight.trim_eq, String.ofList_toList]

/-! ### The stages of the chain -/

/-- No window is longer than its size. -/
theorem length_le_of_mem_windows {size advance : Nat} {text window : List Char}
    (h : window ∈ windows size advance text) : window.length ≤ size := by
  fun_induction windows size advance text with
  | case1 => simp at h
  | case2 c rest ih =>
    rcases List.mem_cons.mp h with rfl | h
    · exact List.length_take_le ..
    · exact ih h

/-- A hard split gives pieces. -/
theorem hardSplit_isPiece (maxSize overlap : Nat) (text : List Char) :
    ∀ piece ∈ hardSplit maxSize overlap text, IsPiece maxSize piece := by
  intro piece hpiece
  unfold hardSplit at hpiece
  split at hpiece
  · simp at hpiece
  · simp only [List.mem_filter, List.mem_map] at hpiece
    obtain ⟨⟨window, hwindow, rfl⟩, hne⟩ := hpiece
    exact ⟨isTight_trim (by simpa using hne),
      (length_trim_le window).trans (length_le_of_mem_windows hwindow)⟩

/-- Splitting by sentences gives pieces. -/
theorem splitSentences_isPiece (maxSize overlap : Nat) (text : List Char) :
    ∀ piece ∈ splitSentences maxSize overlap text, IsPiece maxSize piece :=
  pack_isPiece fun unit _ => hardSplit_isPiece maxSize overlap unit

/-- Splitting by paragraphs gives pieces. -/
theorem splitParagraphs_isPiece (maxSize overlap : Nat) (text : List Char) :
    ∀ piece ∈ splitParagraphs maxSize overlap text, IsPiece maxSize piece :=
  pack_isPiece fun unit _ => splitSentences_isPiece maxSize overlap unit

namespace Splitter

variable {splitter : Splitter}

/-- Whatever replaces a text is a piece: the text itself if it is small enough, else a piece of its paragraphs. -/
theorem isPiece_of_mem_pieces {text piece : String} (h : piece ∈ splitter.pieces text) :
    IsPiece splitter.maxSize piece.toList := by
  simp only [pieces, List.mem_map] at h
  obtain ⟨found, hfound, rfl⟩ := h
  rw [String.toList_ofList]
  exact splitParagraphs_isPiece _ _ _ found hfound

/-! ### The candidates -/

/-- The candidate of an element is tight. -/
theorem isTight_of_candidateOf?_eq_some {index : Nat} {element : Except ElementFault Element}
    {candidate : Chunk} (h : candidateOf? index element = some candidate) :
    IsTight candidate.content.toList := by
  obtain ⟨found, -, hne, hcontent, -⟩ := exists_of_candidateOf?_eq_some h
  rw [hcontent]
  exact isTight_trim hne

/-- The content of a section is tight. -/
theorem isTight_of_mem_sections {text : List Char} {index : Nat} {part : Section}
    (h : (index, part) ∈ sections text) : IsTight part.content := by
  simp only [sections, List.mem_filterMap, Option.map_eq_some_iff] at h
  obtain ⟨⟨span, place⟩, -, found, hfound, hpair⟩ := h
  simp only [Section.ofSpan?] at hfound
  split at hfound
  · simp at hfound
  · rename_i hne
    obtain ⟨rfl, rfl⟩ := Prod.mk.inj hpair
    simp only [Option.some.injEq] at hfound
    rw [← hfound, Section.content_ofContent]
    exact isTight_trim (by simpa using hne)

/-! ### The chunks -/

/-- Refining a tight candidate gives sound chunks. -/
theorem isSound_of_mem_refine {candidate chunk : Chunk} (htight : IsTight candidate.content.toList)
    (h : chunk ∈ splitter.refine candidate) : chunk.IsSound splitter.maxSize := by
  rw [Chunk.isSound_iff]
  unfold refine at h
  split at h
  · rename_i hsize
    rw [List.mem_singleton.mp h]
    exact ⟨htight, hsize⟩
  · simp only [List.mem_map] at h
    obtain ⟨⟨piece, n⟩, hpiece, rfl⟩ := h
    exact isPiece_of_mem_pieces (List.fst_mem_of_mem_zipIdx hpiece)

/-- The chunks of a plain text are sound. -/
theorem isSound_of_mem_splitText {text : String} {chunk : Chunk} (h : chunk ∈ splitter.splitText text) :
    chunk.IsSound splitter.maxSize := by
  rw [Chunk.isSound_iff]
  simp only [splitText] at h
  split at h
  · simp at h
  · rename_i hne
    split at h
    · rename_i hsize
      rw [List.mem_singleton.mp h]
      refine ⟨?_, hsize⟩
      rw [textChunk, toList_trimString]
      exact isTight_trim (by simpa [trimString] using hne)
    · simp only [List.mem_map] at h
      obtain ⟨⟨piece, n⟩, hpiece, rfl⟩ := h
      exact isPiece_of_mem_pieces (List.fst_mem_of_mem_zipIdx hpiece)

/-- The chunks of a markdown text are sound, since those of each section are. -/
theorem isSound_of_mem_splitMarkdown {text : String} {chunk : Chunk}
    (h : chunk ∈ splitter.splitMarkdown text) : chunk.IsSound splitter.maxSize := by
  simp only [splitMarkdown, List.mem_flatMap] at h
  obtain ⟨⟨index, part⟩, hpart, hchunk⟩ := h
  refine isSound_of_mem_refine ?_ hchunk
  simpa [Section.candidate] using isTight_of_mem_sections hpart

/-- Soundness does not look at the identifier of a chunk. -/
theorem isSound_of_anonymous_eq {maxSize : Nat} {chunk other : Chunk}
    (h : chunk.anonymous = other.anonymous) (hother : other.IsSound maxSize) :
    chunk.IsSound maxSize := by
  have hcontent : chunk.content = other.content := (Chunk.mk.inj h).1
  rw [Chunk.isSound_iff] at hother ⊢
  rwa [hcontent]

/-- The chunks of a layout element are sound; taking other identifiers does not change their contents. -/
theorem isSound_of_mem_share {index : Nat} {registry : Registry}
    {element : Except ElementFault Element} {chunk : Chunk}
    (h : chunk ∈ (splitter.share index registry element).1) : chunk.IsSound splitter.maxSize := by
  have hmem : chunk.anonymous ∈ (splitter.share index registry element).1.map Chunk.anonymous :=
    List.mem_map_of_mem h
  rw [map_anonymous_share] at hmem
  simp only [List.mem_map, List.mem_flatMap, Option.mem_toList] at hmem
  obtain ⟨other, ⟨candidate, hcandidate, hother⟩, heq⟩ := hmem
  exact isSound_of_anonymous_eq heq.symm
    (isSound_of_mem_refine (isTight_of_candidateOf?_eq_some hcandidate) hother)

/-- **Every chunk is sound**: whatever the input, each chunk of a split is trimmed, begins and ends with
ink, and has at most as many characters as the splitter allows. -/
theorem isSound_of_mem_split (splitter : Splitter) (input : SplitInput) (chunk : Chunk)
    (h : chunk ∈ (splitter.split input).chunks) : chunk.IsSound splitter.maxSize := by
  rw [chunks_split] at h
  cases input with
  | text text => exact isSound_of_mem_splitText h
  | markdown text => exact isSound_of_mem_splitMarkdown h
  | structured result =>
    simp only [splitInput] at h
    rw [chunks_splitResult] at h
    split at h
    · simp only [List.mem_flatMap] at h
      obtain ⟨markdown, -, hchunk⟩ := h
      exact isSound_of_mem_splitMarkdown hchunk
    · obtain ⟨part, hpart, hchunk⟩ := List.mem_flatten.mp h
      obtain ⟨element, -, place, before, rfl⟩ := exists_of_mem_shares hpart
      exact isSound_of_mem_share hchunk

/-- A window that begins with ink and has a blank character within, where windows advance by a single
character only. -/
theorem isSound_of_mem_split_window :
    ∃ chunk ∈ (Splitter.split ⟨3, 5, by decide⟩ (.text " ab. cdef gh ")).chunks,
      chunk.content = "f g" ∧ chunk.IsSound 3 := by
  have hmem : "f g" ∈ (Splitter.split ⟨3, 5, by decide⟩
      (.text " ab. cdef gh ")).chunks.map Chunk.content := by decide +kernel
  obtain ⟨chunk, hchunk, hcontent⟩ := List.mem_map.mp hmem
  exact ⟨chunk, hchunk, hcontent, isSound_of_mem_split ⟨3, 5, by decide⟩ _ chunk hchunk⟩

end Splitter

end TextChunking
