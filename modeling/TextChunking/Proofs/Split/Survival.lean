import TextChunking.Proofs.Split.Coverage
import TextChunking.Proofs.Split.Elements
/-!
# When nothing is left of a text

The terminators of an oversized paragraph are dropped, so a paragraph that holds nothing else leaves no
chunk. A text of which nothing at all is left is one that *vanishes*: it is too large for a chunk, and so
is each of its paragraphs that is not blank, and these hold nothing but terminators. **Theorem**
(`survives_iff`): of plain texts, sections and elements with ink exactly those leave no chunk that
vanish, and an element that leaves no chunk and does not vanish is noted on.
-/

namespace TextChunking

/-- Nothing is kept of a text that is too large for a chunk: its paragraphs are blank, or they are too
large as well and hold nothing but terminators. -/
structure Vanishes (maxSize : Nat) (text : List Char) : Prop where
  oversized : maxSize < text.length
  paragraphs : ∀ paragraph ∈ blankLine.cut text,
    ink paragraph = [] ∨
      maxSize < (trim paragraph).length ∧ ∀ c ∈ ink paragraph, isTerminator c = true

/-- What is kept of a paragraph is nothing if it is blank, or too large and without anything but
terminators. -/
theorem paragraphInk_eq_nil_iff {maxSize : Nat} {paragraph : List Char} :
    paragraphInk maxSize paragraph = [] ↔ ink paragraph = [] ∨
      maxSize < (trim paragraph).length ∧ ∀ c ∈ ink paragraph, isTerminator c = true := by
  have hterminators :
      withoutTerminators (ink paragraph) = [] ↔ ∀ c ∈ ink paragraph, isTerminator c = true := by
    simp [withoutTerminators, List.filter_eq_nil_iff]
  unfold paragraphInk
  split
  · rename_i hlarge
    rw [hterminators]
    constructor
    · exact fun h => .inr ⟨hlarge, h⟩
    · rintro (hblank | ⟨-, h⟩)
      · simp [hblank]
      · exact h
  · rename_i hsmall
    simp [hsmall]

/-- Nothing is kept of an oversized text exactly if it vanishes. -/
theorem vanishes_iff {maxSize : Nat} {text : List Char} (h : maxSize < text.length) :
    Vanishes maxSize text ↔ cutInk maxSize text = [] := by
  simp only [cutInk, List.flatMap_eq_nil_iff, paragraphInk_eq_nil_iff]
  exact ⟨fun hvanishes => hvanishes.paragraphs, fun hparagraphs => ⟨h, hparagraphs⟩⟩

namespace Diagnostic

/-- The place of the element that a diagnostic is on. -/
def elementIndex? : Diagnostic → Option Nat
  | .emptyElement index | .skippedElement index _ => some index
  | .markdownFallback | .degradedOverlap .. => none

end Diagnostic

namespace Splitter

variable {splitter : Splitter}

/-- A plain text leaves no chunk exactly if it is blank or vanishes. -/
theorem splitText_eq_nil_iff (splitter : Splitter) (text : String) :
    splitter.splitText text = [] ↔
      ink text.toList = [] ∨ Vanishes splitter.maxSize (trim text.toList) := by
  rw [(preserves_splitText splitter text).eq_nil_iff, textInk]
  split
  · rename_i hsmall
    have hnot : ¬ Vanishes splitter.maxSize (trim text.toList) :=
      fun h => Nat.not_lt_of_le hsmall h.oversized
    simp [hnot]
  · rename_i hlarge
    rw [vanishes_iff (Nat.lt_of_not_le hlarge)]
    refine ⟨.inr, ?_⟩
    rintro (hblank | h)
    · rw [trim_eq_nil_iff_ink.mpr hblank] at hlarge
      exact absurd (Nat.zero_le _) hlarge
    · exact h

/-- A candidate leaves no chunk exactly if its content vanishes. -/
theorem refine_eq_nil_iff {candidate : Chunk} :
    splitter.refine candidate = [] ↔ Vanishes splitter.maxSize candidate.content.toList := by
  by_cases hsize : splitter.maxSize < candidate.size
  · rw [(preserves_refine hsize).eq_nil_iff, vanishes_iff hsize]
  · have hnot : ¬ Vanishes splitter.maxSize candidate.content.toList := fun h => hsize h.oversized
    simp [refine, Nat.le_of_not_lt hsize, hnot]

/-- A span that is not blank is a section. -/
theorem mem_sections {text span : List Char} {index : Nat} (hspan : (spans text)[index]? = some span)
    (hink : ink span ≠ []) : (index, Section.ofContent (trim span)) ∈ sections text := by
  have htrim : trim span ≠ [] := mt trim_eq_nil_iff_ink.mp hink
  simp only [sections, List.mem_filterMap, Option.map_eq_some_iff]
  refine ⟨(span, index), List.mk_mem_zipIdx_iff_getElem?.mpr hspan, _, ?_, rfl⟩
  rw [Section.ofSpan?, if_neg (by simpa using htrim)]

/-- A section leaves a chunk in the split of its text exactly if it does not vanish. -/
theorem exists_mem_refine_section_iff {text : String} {index : Nat} {part : Section}
    (h : (index, part) ∈ sections text.toList) :
    (∃ chunk ∈ splitter.refine (part.candidate index), chunk ∈ splitter.splitMarkdown text) ↔
      ¬ Vanishes splitter.maxSize part.content := by
  have hcontent : (part.candidate index).content.toList = part.content := by
    simp [Section.candidate]
  rw [← hcontent, ← refine_eq_nil_iff]
  constructor
  · rintro ⟨chunk, hchunk, -⟩
    exact List.ne_nil_of_mem hchunk
  · intro hne
    obtain ⟨chunk, hchunk⟩ := List.exists_mem_of_ne_nil _ hne
    exact ⟨chunk, hchunk, List.mem_flatMap.mpr ⟨(index, part), h, hchunk⟩⟩

/-- An element that gives no chunk is noted on, or its text vanishes. -/
theorem share_eq_nil_iff_noted {index : Nat} {registry : Registry}
    {element : Except ElementFault Element} :
    (splitter.share index registry element).1 = [] ↔ (note? index element).isSome = true ∨
      ∃ found, element = .ok found ∧ Vanishes splitter.maxSize (trim found.content) := by
  rw [share_eq_nil_iff]
  constructor
  · intro h
    cases hnote : note? index element with
    | some diagnostic => exact .inl rfl
    | none =>
      obtain ⟨candidate, hcandidate⟩ := note?_eq_none_iff.mp hnote
      have hvanishes := refine_eq_nil_iff.mp (h candidate hcandidate)
      obtain ⟨found, hfound, -, hcontent, -⟩ := exists_of_candidateOf?_eq_some hcandidate
      rw [hcontent] at hvanishes
      exact .inr ⟨found, hfound, hvanishes⟩
  · rintro (hnoted | ⟨found, rfl, hvanishes⟩) candidate hcandidate
    · rw [note?_eq_none_iff.mpr ⟨candidate, hcandidate⟩] at hnoted
      simp at hnoted
    · obtain ⟨_, ⟨⟩, -, hcontent, -⟩ := exists_of_candidateOf?_eq_some hcandidate
      rw [refine_eq_nil_iff, hcontent]
      exact hvanishes

/-- The note on an element names its place. -/
theorem elementIndex?_of_note?_eq_some {index : Nat} {element : Except ElementFault Element}
    {diagnostic : Diagnostic} (h : note? index element = some diagnostic) :
    diagnostic.elementIndex? = some index := by
  cases element with
  | error fault =>
    simp only [note?, Option.some.injEq] at h
    rw [← h]
    rfl
  | ok element =>
    simp only [note?, Option.ite_none_right_eq_some, Option.some.injEq] at h
    rw [← h.2]
    rfl

/-- An element is noted on exactly if a diagnostic of the result is on its place. -/
theorem isSome_note?_iff (splitter : Splitter) {result : ParseResult} {i : Nat}
    {element : Except ElementFault Element} (h : result.elements[i]? = some element) :
    (note? i element).isSome = true ↔
      ∃ diagnostic ∈ (splitter.splitResult result).diagnostics,
        diagnostic.elementIndex? = some i := by
  constructor
  · intro hnoted
    obtain ⟨diagnostic, hnote⟩ := Option.isSome_iff_exists.mp hnoted
    have hmem : diagnostic ∈ notes 0 result.elements :=
      mem_notes.mpr ⟨i, element, h, by simpa using hnote⟩
    exact ⟨diagnostic, (notes_prefix_diagnostics splitter result).subset hmem,
      elementIndex?_of_note?_eq_some hnote⟩
  · rintro ⟨diagnostic, hmem, hplace⟩
    have hnotes : diagnostic ∈ notes 0 result.elements := by
      rw [splitResult_eq] at hmem
      split at hmem
      · rcases List.mem_append.mp hmem with hmem | hmem
        · exact hmem
        · rw [List.mem_singleton.mp hmem] at hplace
          simp [Diagnostic.elementIndex?] at hplace
      · exact hmem
    obtain ⟨j, other, hother, hnote⟩ := mem_notes.mp hnotes
    rw [Nat.zero_add] at hnote
    have hj : j = i := by
      have := elementIndex?_of_note?_eq_some hnote
      exact Option.some.inj (this.symm.trans hplace)
    subst hj
    obtain rfl : other = element := Option.some.inj (hother.symm.trans h)
    simp [hnote]

/-- **What survives a split.** A plain text leaves a chunk unless it is blank or vanishes, and a span of
a markdown text that is not blank unless it vanishes. The chunks of an element are among those of the
parse result, and there are some unless a diagnostic is on the element or its text vanishes. -/
theorem survives_iff (splitter : Splitter) :
    (∀ text : String, splitter.splitText text ≠ [] ↔
      ink text.toList ≠ [] ∧ ¬ Vanishes splitter.maxSize (trim text.toList)) ∧
    (∀ (text : String) (index : Nat) (span : List Char),
      (spans text.toList)[index]? = some span → ink span ≠ [] →
        ∃ part, (index, part) ∈ sections text.toList ∧ part.content = trim span ∧
          ((∃ chunk ∈ splitter.refine (part.candidate index), chunk ∈ splitter.splitMarkdown text) ↔
            ¬ Vanishes splitter.maxSize (trim span))) ∧
    ∀ (result : ParseResult) (i : Nat) (element : Except ElementFault Element),
      result.elements[i]? = some element →
        ∃ part, (splitter.resultShares result)[i]? = some part ∧
          (∀ chunk ∈ part, chunk ∈ (splitter.splitResult result).chunks) ∧
          (part ≠ [] ↔
            (¬ ∃ diagnostic ∈ (splitter.splitResult result).diagnostics,
              diagnostic.elementIndex? = some i) ∧
            ∀ found, element = .ok found → ¬ Vanishes splitter.maxSize (trim found.content)) := by
  refine ⟨?_, ?_, ?_⟩
  · intro text
    rw [Ne, splitText_eq_nil_iff, not_or]
  · intro text index span hspan hink
    have hmem := mem_sections hspan hink
    refine ⟨_, hmem, Section.content_ofContent _, ?_⟩
    rw [exists_mem_refine_section_iff hmem, Section.content_ofContent]
  · intro result i element h
    obtain ⟨before, -, hpart⟩ := exists_getElem?_shares h
    refine ⟨_, hpart, ?_, ?_⟩
    · intro chunk hchunk
      exact mem_chunks_splitResult (List.mem_of_getElem? hpart) hchunk
    · rw [Ne, share_eq_nil_iff_noted, Nat.zero_add, isSome_note?_iff splitter h, not_or]
      simp only [not_exists, not_and]

/-- Terminators that fit into a chunk are kept, whatever it is that they stand in. -/
theorem survives_iff_ellipsis :
    Splitter.splitText ⟨3, 0, by decide⟩ "..." ≠ [] ∧
    Splitter.splitMarkdown ⟨3, 0, by decide⟩ "..." ≠ [] ∧
    ∃ part, (Splitter.resultShares ⟨3, 0, by decide⟩
      { layouts := [.object [("text", .string "...")]] })[0]? = some part ∧ part ≠ [] := by
  have hsmall : ¬ Vanishes 3 (trim "...".toList) := fun h => absurd h.oversized (by decide +kernel)
  have hquiet : (Splitter.splitResult ⟨3, 0, by decide⟩
      { layouts := [.object [("text", .string "...")]] }).diagnostics = [] :=
    List.eq_nil_of_length_eq_zero (by decide +kernel)
  obtain ⟨htext, hmarkdown, helements⟩ := survives_iff ⟨3, 0, by decide⟩
  refine ⟨(htext "...").mpr ⟨by decide, hsmall⟩, ?_, ?_⟩
  · obtain ⟨part, -, -, hpart⟩ := hmarkdown "..." 0 "...".toList (by decide +kernel) (by decide)
    obtain ⟨chunk, -, hchunk⟩ := hpart.mpr hsmall
    exact List.ne_nil_of_mem hchunk
  · obtain ⟨part, hpart, -, hne⟩ := helements { layouts := [.object [("text", .string "...")]] } 0
      (.ok { text := some "..." }) rfl
    refine ⟨part, hpart, hne.mpr ⟨by simp [hquiet], ?_⟩⟩
    rintro _ ⟨⟩
    exact hsmall

/-- Six full stops vanish where a chunk has three characters: there is neither a chunk of them nor a
note on their element. -/
theorem splitText_terminators_eq_nil :
    ink "......".toList ≠ [] ∧ Splitter.splitText ⟨3, 0, by decide⟩ "......" = [] ∧
    Splitter.splitMarkdown ⟨3, 0, by decide⟩ "......" = [] ∧
    (Splitter.splitResult ⟨3, 0, by decide⟩
      { layouts := [.object [("text", .string "......")]] }).chunks = [] ∧
    (Splitter.splitResult ⟨3, 0, by decide⟩
      { layouts := [.object [("text", .string "......")]] }).diagnostics = [] := by
  refine ⟨by decide, ?_, ?_, ?_, ?_⟩
  all_goals
    apply List.eq_nil_of_length_eq_zero
    decide +kernel

end Splitter

end TextChunking
