import TextChunking.Proofs.Markdown.Spans
import TextChunking.Proofs.Split.Elementwise
/-!
# A text is cut alike on every way in

A splitter takes a text by itself, as an element of a parse result or as markdown. What the chunks hold
is the same each time: nothing of a blank text, the trimmed text if it is small enough for a chunk, and
its pieces otherwise (`Splitter.contents`). The elements of a parse result and the spans of a markdown
text contribute one after another (`map_content_chunksAlone`, `map_content_splitMarkdown`). **Theorem**
(`contents_agree`): a text has the same chunks, as to what they hold, by itself, as the only element of a
parse result, and as markdown if it has no heading line.
-/

namespace TextChunking

open Json

namespace Splitter

variable {splitter : Splitter}

/-- What the chunks of a text hold. -/
def contents (splitter : Splitter) (text : List Char) : List String :=
  if trim text = [] then []
  else if (trim text).length ≤ splitter.maxSize then [String.ofList (trim text)]
  else splitter.pieces (String.ofList (trim text))

/-- Nothing is made of a text of which trimming leaves nothing. -/
theorem contents_of_trim_eq_nil {text : List Char} (h : trim text = []) :
    splitter.contents text = [] := by
  rw [contents, if_pos h]

/-! ### The ways in -/

/-- The chunks of a candidate hold what those of its text do. -/
theorem map_content_refine {candidate : Chunk} {text : List Char} (hne : trim text ≠ [])
    (h : candidate.content.toList = trim text) :
    (splitter.refine candidate).map Chunk.content = splitter.contents text := by
  have hsize : candidate.size = (trim text).length := by
    rw [← h]
    rfl
  have hcontent : String.ofList (trim text) = candidate.content := by rw [← h, String.ofList_toList]
  rw [refine, contents, if_neg hne, hsize, hcontent]
  split
  · rfl
  · rw [List.map_map]
    exact List.zipIdx_map_fst ..

/-- The chunks of a plain text have the declared contents. -/
theorem map_content_splitText (splitter : Splitter) (text : String) :
    (splitter.splitText text).map Chunk.content = splitter.contents text.toList := by
  have hempty : (trimString text).isEmpty = true ↔ trim text.toList = [] := by simp [trimString]
  have hlength : (trimString text).length = (trim text.toList).length := by simp [trimString]
  simp only [splitText, contents, hempty, hlength]
  split_ifs
  · rfl
  · rfl
  · rw [List.map_map]
    exact List.zipIdx_map_fst ..

/-- What stands in the list of elements contributes the contents of its text, if it can be read. -/
theorem map_content_alone (splitter : Splitter) (index : Nat)
    (element : Except ElementFault Element) :
    (splitter.alone index element).map Chunk.content =
      element.toOption.toList.flatMap fun found => splitter.contents found.content := by
  cases hcandidate : candidateOf? index element with
  | some candidate =>
    obtain ⟨found, rfl, hne, hcontent, -⟩ := exists_of_candidateOf?_eq_some hcandidate
    simp [alone, hcandidate, Except.toOption, map_content_refine hne hcontent]
  | none =>
    cases element with
    | error fault => simp [alone, hcandidate, Except.toOption]
    | ok found =>
      have hblank : trim found.content = [] := by
        by_contra hne
        obtain ⟨candidate, hsome⟩ := exists_candidateOf?_eq_some index hne
        simp [hcandidate] at hsome
      simp [alone, hcandidate, Except.toOption, contents_of_trim_eq_nil hblank]

/-- The elements contribute one after another. -/
theorem map_content_chunksAlone (splitter : Splitter) (index : Nat)
    (elements : List (Except ElementFault Element)) :
    (splitter.chunksAlone index elements).map Chunk.content =
      elements.flatMap fun element =>
        element.toOption.toList.flatMap fun found => splitter.contents found.content := by
  conv_rhs => rw [← List.zipIdx_map_fst index elements, List.flatMap_map]
  rw [chunksAlone, List.map_flatMap]
  exact congrArg (List.flatMap · _) (funext fun _ => map_content_alone ..)

/-- A parse result that does not fall back to its markdown has the contents of its elements. -/
theorem map_content_splitResult {result : ParseResult}
    (h : ∀ markdown, ¬ FallsBack splitter result markdown) :
    (splitter.splitResult result).chunks.map Chunk.content =
      result.elements.flatMap fun element =>
        element.toOption.toList.flatMap fun found => splitter.contents found.content := by
  have hanonymous : ∀ chunks : List Chunk,
      (chunks.map Chunk.anonymous).map Chunk.content = chunks.map Chunk.content := by
    intro chunks
    rw [List.map_map]
    rfl
  rw [splitResult_of_not_fallsBack h, ← map_content_chunksAlone splitter 0, ← hanonymous,
    resultShares, map_anonymous_shares, hanonymous]

/-- A span contributes the contents of its text. -/
theorem map_content_span (splitter : Splitter) (index : Nat) (span : List Char) :
    ((Section.ofSpan? span).toList.flatMap fun part =>
      (splitter.refine (part.candidate index)).map Chunk.content) = splitter.contents span := by
  rw [Section.ofSpan?]
  split
  · rename_i hblank
    rw [contents_of_trim_eq_nil (by simpa using hblank)]
    rfl
  · rename_i hne
    have hcontent : ((Section.ofContent (trim span)).candidate index).content.toList = trim span := by
      simp [Section.candidate]
    simp [map_content_refine (by simpa using hne) hcontent]

/-- The spans contribute one after another. -/
theorem map_content_splitMarkdown (splitter : Splitter) (text : String) :
    (splitter.splitMarkdown text).map Chunk.content =
      (spans text.toList).flatMap splitter.contents := by
  conv_rhs => rw [← List.zipIdx_map_fst 0 (spans text.toList), List.flatMap_map]
  rw [splitMarkdown, sections, List.filterMap_eq_flatMap_toList, List.flatMap_assoc, List.map_flatMap]
  refine congrArg (List.flatMap · _) (funext fun place => ?_)
  obtain ⟨span, index⟩ := place
  rw [← map_content_span splitter index span]
  cases hpart : Section.ofSpan? span <;> simp [hpart]

/-! ### One text on each way -/

/-- **The ways in agree.** As to what its chunks hold, a text is cut alike by itself and as the only
element of a parse result without markdown, and as markdown too if none of its lines is a heading line. -/
theorem contents_agree (splitter : Splitter) (text : String) :
    (splitter.splitResult { layouts := [.object [("text", .string text)]] }).chunks.map Chunk.content =
      (splitter.splitText text).map Chunk.content ∧
    ((∀ line ∈ lines text.toList, isHeadingLine line = false) →
      (splitter.splitMarkdown text).map Chunk.content =
        (splitter.splitText text).map Chunk.content) := by
  rw [map_content_splitText]
  refine ⟨?_, ?_⟩
  · have helements : ParseResult.elements { layouts := [.object [("text", .string text)]] } =
        [.ok { text := some text }] := rfl
    rw [map_content_splitResult (fun markdown h => by simp [FallsBack] at h), helements]
    simp [Except.toOption, Element.content]
  · intro hlines
    rw [map_content_splitMarkdown]
    rcases eq_or_ne text.toList [] with hnil | hne
    · rw [hnil]
      rfl
    · rw [spans_of_forall_not_isHeadingLine hne hlines, List.flatMap_singleton]

/-- Two paragraphs in lines that are no heading lines, and too large together. -/
theorem contents_agree_two_paragraphs :
    let splitter : Splitter := ⟨3, 0, by decide⟩
    (∀ line ∈ lines " ab\n\n#c\n".toList, isHeadingLine line = false) ∧
    (splitter.splitMarkdown " ab\n\n#c\n").map Chunk.content =
      (splitter.splitText " ab\n\n#c\n").map Chunk.content ∧
    (splitter.splitText " ab\n\n#c\n").map Chunk.content = ["ab", "#c"] := by
  intro splitter
  have hlines : ∀ line ∈ lines " ab\n\n#c\n".toList, isHeadingLine line = false := by decide +kernel
  exact ⟨hlines, (contents_agree splitter " ab\n\n#c\n").2 hlines, by decide +kernel⟩

end Splitter

end TextChunking
