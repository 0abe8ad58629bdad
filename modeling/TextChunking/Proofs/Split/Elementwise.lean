import TextChunking.Proofs.Split.Survival
/-!
# A parse result is split element by element

What an element of a parse result gives depends on the element and its place only, identifiers apart.
**Theorem** (`splitResult_elementwise`): the diagnostics are one note for each element that cannot be
read and one for each that is blank, in the order of the elements (`Reports`); the chunks are those that
each element would have alone, one after another (`chunksAlone`); and only if there are none of these
and the markdown is not blank does the split fall back to it (`FallsBack`).

The registry that is shared by all elements decides about identifiers and nothing else. So the chunks are
compared without theirs, and `map_anonymous_shares` follows the walk through the elements once.
-/

namespace TextChunking

open Json

namespace Element

/-- An element without a text, or with one that holds nothing but blank characters. -/
def IsBlank (element : Element) : Prop :=
  ∀ text, element.text = some text → isBlankText text.toList = true

/-- An element is blank exactly if its content is a blank text. -/
theorem isBlank_iff {element : Element} :
    element.IsBlank ↔ isBlankText element.content = true := by
  unfold IsBlank content
  cases element.text with
  | none => simp [isBlankText]
  | some text => simp

end Element

namespace Splitter

variable {splitter : Splitter}

/-! ### The notes on the elements -/

/-- Notes that report on elements: one for each that cannot be read and one for each that is blank, in
the order of the elements, and no other. -/
structure Reports (elements : List (Except ElementFault Element)) (notes : List Diagnostic) : Prop where
  ordered : ∃ places : List Nat,
    notes.map Diagnostic.elementIndex? = places.map some ∧ places.Pairwise (· < ·)
  skipped_iff : ∀ i reason, .skippedElement i reason ∈ notes ↔
    ∃ fault, elements[i]? = some (.error fault) ∧ reason = fault.message
  empty_iff : ∀ i, .emptyElement i ∈ notes ↔
    ∃ element, elements[i]? = some (.ok element) ∧ element.IsBlank

/-- An element is noted as skipped exactly if it cannot be read, with the reason for that. -/
theorem note?_eq_skipped_iff {index place : Nat} {reason : String}
    {element : Except ElementFault Element} :
    note? index element = some (.skippedElement place reason) ↔
      index = place ∧ ∃ fault, element = .error fault ∧ reason = fault.message := by
  cases element with
  | error fault => simp [note?, eq_comm]
  | ok element => simp [note?]

/-- An element is noted as empty exactly if it can be read and is blank. -/
theorem note?_eq_empty_iff {index place : Nat} {element : Except ElementFault Element} :
    note? index element = some (.emptyElement place) ↔
      index = place ∧ ∃ found, element = .ok found ∧ found.IsBlank := by
  cases element with
  | error fault => simp [note?]
  | ok element =>
    simp only [note?, Element.candidate?_isNone_iff, ← Element.isBlank_iff,
      Option.ite_none_right_eq_some, Option.some.injEq, Diagnostic.emptyElement.injEq,
      Except.ok.injEq, exists_eq_left']
    exact and_comm

/-- The notes come in the order of the elements, at most one for each. -/
theorem exists_places_notes (index : Nat) (elements : List (Except ElementFault Element)) :
    ∃ places : List Nat, (notes index elements).map Diagnostic.elementIndex? = places.map some ∧
      places.Pairwise (· < ·) ∧ ∀ place ∈ places, index ≤ place := by
  induction elements generalizing index with
  | nil => exact ⟨[], rfl, .nil, by simp⟩
  | cons element rest ih =>
    obtain ⟨places, hplaces, hordered, hbound⟩ := ih (index + 1)
    rw [notes_cons, List.map_append, hplaces]
    cases hnote : note? index element with
    | none =>
      exact ⟨places, rfl, hordered, fun place hplace => Nat.le_of_succ_le (hbound place hplace)⟩
    | some diagnostic =>
      refine ⟨index :: places, ?_, List.pairwise_cons.mpr ⟨hbound, hordered⟩, ?_⟩
      · simp [elementIndex?_of_note?_eq_some hnote]
      · intro place hplace
        rcases List.mem_cons.mp hplace with rfl | hplace
        · exact Nat.le_refl place
        · exact Nat.le_of_succ_le (hbound place hplace)

/-- The notes of a split report on its elements. -/
theorem reports_notes (elements : List (Except ElementFault Element)) :
    Reports elements (notes 0 elements) where
  ordered := by
    obtain ⟨places, hplaces, hordered, -⟩ := exists_places_notes 0 elements
    exact ⟨places, hplaces, hordered⟩
  skipped_iff := by
    intro i reason
    simp only [mem_notes, note?_eq_skipped_iff, Nat.zero_add]
    constructor
    · rintro ⟨_, element, helement, rfl, fault, rfl, hreason⟩
      exact ⟨fault, helement, hreason⟩
    · rintro ⟨fault, hfault, hreason⟩
      exact ⟨i, _, hfault, rfl, fault, rfl, hreason⟩
  empty_iff := by
    intro i
    simp only [mem_notes, note?_eq_empty_iff, Nat.zero_add]
    constructor
    · rintro ⟨_, element, helement, rfl, found, rfl, hblank⟩
      exact ⟨found, helement, hblank⟩
    · rintro ⟨found, hfound, hblank⟩
      exact ⟨i, _, hfound, rfl, found, rfl, hblank⟩

/-! ### The chunks of the elements -/

/-- The chunks that what stands at a place in the list of elements has if nothing else stands there. -/
def alone (splitter : Splitter) (index : Nat) (element : Except ElementFault Element) : List Chunk :=
  (candidateOf? index element).toList.flatMap splitter.refine

/-- The chunks that the elements which stand from `index` on have each alone, one after another. -/
def chunksAlone (splitter : Splitter) (index : Nat) (elements : List (Except ElementFault Element)) :
    List Chunk :=
  (elements.zipIdx index).flatMap fun (element, place) => splitter.alone place element

/-- The elements have the chunks that each has alone, but for their identifiers. -/
theorem map_anonymous_shares (index : Nat) (registry : Registry)
    (elements : List (Except ElementFault Element)) :
    (splitter.shares index registry elements).flatten.map Chunk.anonymous =
      (splitter.chunksAlone index elements).map Chunk.anonymous := by
  induction elements generalizing index registry with
  | nil => rfl
  | cons element rest ih =>
    have hchunks : splitter.chunksAlone index (element :: rest) =
        splitter.alone index element ++ splitter.chunksAlone (index + 1) rest := by
      simp [chunksAlone]
    rw [shares, List.flatten_cons, List.map_append, ih, map_anonymous_share, hchunks,
      List.map_append, alone]

/-- Whether a parse result has chunks does not depend on the registry. -/
theorem flatten_resultShares_eq_nil_iff (splitter : Splitter) (result : ParseResult) :
    (splitter.resultShares result).flatten = [] ↔ splitter.chunksAlone 0 result.elements = [] := by
  rw [← List.map_eq_nil_iff, resultShares, map_anonymous_shares, List.map_eq_nil_iff]

/-- Each element has its part in the chunks, which is what it has alone but for the identifiers. -/
theorem exists_getElem?_resultShares (splitter : Splitter) {result : ParseResult} {i : Nat}
    {element : Except ElementFault Element} (h : result.elements[i]? = some element) :
    ∃ part, (splitter.resultShares result)[i]? = some part ∧
      part.map Chunk.anonymous = (splitter.alone i element).map Chunk.anonymous := by
  obtain ⟨before, -, hpart⟩ := exists_getElem?_shares h
  refine ⟨_, hpart, ?_⟩
  rw [map_anonymous_share, Nat.zero_add, alone]

/-! ### The markdown -/

/-- The split falls back to a markdown that is not blank: no element has a chunk. -/
def FallsBack (splitter : Splitter) (result : ParseResult) (markdown : String) : Prop :=
  splitter.chunksAlone 0 result.elements = [] ∧ result.markdown = some markdown ∧
    isBlankText markdown.toList = false

/-- There is something to fall back to exactly if the result has a markdown text that is not blank. -/
theorem fallback?_eq_some_iff {result : ParseResult} {markdown : String} :
    fallback? result = some markdown ↔
      result.markdown = some markdown ∧ isBlankText markdown.toList = false := by
  have hblank : (!(trimString markdown).isEmpty) = true ↔ isBlankText markdown.toList = false := by
    rw [Bool.eq_false_iff, Ne, ← trim_eq_nil_iff]
    simp [trimString]
  rw [fallback?, Option.filter_eq_some_iff, hblank]

/-- A result that falls back has the chunks of its markdown, and one more note that says so. -/
theorem splitResult_of_fallsBack {result : ParseResult} {markdown : String}
    (h : FallsBack splitter result markdown) :
    splitter.splitResult result =
      { chunks := splitter.splitMarkdown markdown
        diagnostics := notes 0 result.elements ++ [.markdownFallback] } := by
  obtain ⟨hnone, hmarkdown⟩ := h
  rw [splitResult_eq, (flatten_resultShares_eq_nil_iff splitter result).mpr hnone,
    fallback?_eq_some_iff.mpr hmarkdown]

/-- A result that does not fall back has the chunks of its elements. -/
theorem splitResult_of_not_fallsBack {result : ParseResult}
    (h : ∀ markdown, ¬ FallsBack splitter result markdown) :
    splitter.splitResult result =
      { chunks := (splitter.resultShares result).flatten
        diagnostics := notes 0 result.elements } := by
  rw [splitResult_eq]
  split
  · rename_i markdown hnone hmarkdown
    exact absurd ⟨(flatten_resultShares_eq_nil_iff splitter result).mp hnone,
      fallback?_eq_some_iff.mp hmarkdown⟩ (h markdown)
  · rfl

/-- **A parse result is split element by element.** Its diagnostics report on the elements, and its chunks
are those that the elements have each alone, but for the identifiers; if there are none, and there is a
markdown that is not blank, then this is split instead and noted last. Two results in which the same value
stands at the same place have the same chunks of it, identifiers apart. An overlap that leaves windows no
progress but a single character is noted behind everything else. -/
theorem splitResult_elementwise (splitter : Splitter) (result : ParseResult) :
    (∃ notes, Reports result.elements notes ∧
      (∀ markdown, FallsBack splitter result markdown →
        splitter.splitResult result =
          { chunks := splitter.splitMarkdown markdown
            diagnostics := notes ++ [.markdownFallback] }) ∧
      ((∀ markdown, ¬ FallsBack splitter result markdown) →
        splitter.splitResult result =
          { chunks := (splitter.resultShares result).flatten
            diagnostics := notes })) ∧
    (splitter.resultShares result).flatten.map Chunk.anonymous =
      (splitter.chunksAlone 0 result.elements).map Chunk.anonymous ∧
    (∀ (other : ParseResult) (i : Nat) (value : Value),
      result.layouts[i]? = some value → other.layouts[i]? = some value →
        ∃ part counterpart, (splitter.resultShares result)[i]? = some part ∧
          (splitter.resultShares other)[i]? = some counterpart ∧
          part.map Chunk.anonymous = (splitter.alone i (Element.ofValue value)).map Chunk.anonymous ∧
          part.map Chunk.anonymous = counterpart.map Chunk.anonymous) ∧
    splitter.split (.structured result) =
      { chunks := (splitter.splitResult result).chunks
        diagnostics := (splitter.splitResult result).diagnostics ++
          if splitter.maxSize ≤ splitter.overlap then
            [.degradedOverlap splitter.maxSize splitter.overlap] else [] } := by
  refine ⟨⟨notes 0 result.elements, reports_notes result.elements, ?_, ?_⟩, ?_, ?_, ?_⟩
  · exact fun markdown h => splitResult_of_fallsBack h
  · exact splitResult_of_not_fallsBack
  · exact map_anonymous_shares ..
  · intro other i value hvalue hother
    have helements : ∀ {found : ParseResult}, found.layouts[i]? = some value →
        found.elements[i]? = some (Element.ofValue value) := by
      intro found hfound
      rw [ParseResult.elements, List.getElem?_map, hfound, Option.map_some]
    obtain ⟨part, hpart, halone⟩ := exists_getElem?_resultShares splitter (helements hvalue)
    obtain ⟨counterpart, hcounterpart, hsame⟩ :=
      exists_getElem?_resultShares splitter (helements hother)
    exact ⟨part, counterpart, hpart, hcounterpart, halone, halone.trans hsame.symm⟩
  · simp only [split, splitInput, isDegraded, decide_eq_true_eq]
    split <;> simp

/-- An element that cannot be read, a blank one and one with two chunks. Without the last of them the
markdown is split instead. -/
theorem splitResult_elementwise_mixed :
    let splitter : Splitter := ⟨3, 0, by decide⟩
    let faulty : Value := .object [("text", .bool true)]
    let blank : Value := .object [("text", .string " ")]
    let live : Value := .object [("text", .string "ab\n\ncd"), ("uniqueId", .string "a")]
    let mixed : ParseResult := { layouts := [faulty, blank, live], markdown := some "# m" }
    let dull : ParseResult := { layouts := [faulty, blank], markdown := some "# m" }
    let other : ParseResult := { layouts := [live, live, live] }
    (∃ reason, .skippedElement 0 reason ∈ (splitter.splitResult mixed).diagnostics) ∧
    .emptyElement 1 ∈ (splitter.splitResult mixed).diagnostics ∧
    (splitter.splitResult mixed).chunks = (splitter.resultShares mixed).flatten ∧
    (splitter.splitResult dull).chunks = splitter.splitMarkdown "# m" ∧
    ∃ part counterpart, (splitter.resultShares mixed)[2]? = some part ∧
      (splitter.resultShares other)[2]? = some counterpart ∧
      part.map Chunk.content = ["ab", "cd"] ∧
      part.map Chunk.anonymous = counterpart.map Chunk.anonymous := by
  intro splitter faulty blank live mixed dull other
  obtain ⟨⟨notes, hreports, -, hown⟩, -, hsame, -⟩ := splitResult_elementwise splitter mixed
  obtain ⟨⟨_, -, hfallback, -⟩, -⟩ := splitResult_elementwise splitter dull
  have hlive : ∀ markdown, ¬ FallsBack splitter mixed markdown := by
    rintro markdown ⟨hnone, -⟩
    exact absurd (congrArg List.length hnone) (by decide +kernel)
  have hdull : FallsBack splitter dull "# m" :=
    ⟨List.eq_nil_of_length_eq_zero (by decide +kernel), rfl, by decide⟩
  have hmixed := hown hlive
  obtain ⟨part, counterpart, hpart, hcounterpart, halone, heq⟩ := hsame other 2 live rfl rfl
  refine ⟨⟨(ElementFault.textNotString (.bool true)).message, ?_⟩, ?_, ?_, ?_, part, counterpart, hpart,
    hcounterpart, ?_, heq⟩
  · rw [hmixed]
    exact (hreports.skipped_iff 0 _).mpr ⟨_, rfl, rfl⟩
  · rw [hmixed]
    refine (hreports.empty_iff 1).mpr ⟨_, rfl, ?_⟩
    rintro _ ⟨⟩
    decide
  · rw [hmixed]
  · rw [hfallback "# m" hdull]
  · have hcontents := congrArg (List.map Chunk.content) halone
    rw [List.map_map, List.map_map] at hcontents
    exact hcontents.trans (by decide +kernel)

end Splitter

end TextChunking
