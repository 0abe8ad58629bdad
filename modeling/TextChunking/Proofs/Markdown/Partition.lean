import TextChunking.Proofs.Markdown.Spans
/-!
# A markdown text is the row of its spans

The spans of a text are cut between its lines, every span but the first begins with a heading line, and
no span holds a heading line further down (`IsPartition`). These properties determine the spans
(`isPartition_iff`). So the spans of two texts are the spans of the texts together, if the second begins
with a heading line that is a line of both (`spans_append`). **Theorem** (`sections_partition`): the
sections of a text are those of its spans that are not blank, trimmed, each with the number of its span,
and only the first span can be blank; and the sections of such texts are those of the texts together, the
later ones numbered on.
-/

namespace TextChunking

/-- A text that begins with a heading line. -/
def IsOpened (text : List Char) : Prop := ∃ level, IsHeading level (firstLine text)

/-- Parts into which a text is cut between its lines: in front of the heading lines, and nowhere else. -/
structure IsPartition (text : List Char) (parts : List (List Char)) : Prop where
  lines_eq : parts.flatMap lines = lines text
  nil_notMem : [] ∉ parts
  isOpened : ∀ part ∈ parts.tail, IsOpened part
  inner : ∀ part ∈ parts, ∀ line ∈ (lines part).tail, isHeadingLine line = false

variable {text front back : List Char} {parts : List (List Char)}

/-! ### Texts that begin with a heading line -/

/-- Only the empty text has no lines. -/
theorem lines_eq_nil_iff : lines text = [] ↔ text = [] := List.splitBy_eq_nil

/-- A text opens with a heading exactly if its first line is one. -/
theorem isOpened_iff (h : lines text ≠ []) :
    IsOpened text ↔ isHeadingLine ((lines text).head h) = true := by
  rw [isHeadingLine_iff, IsOpened, firstLine, List.headD_eq_head?_getD, List.head?_eq_some_head h,
    Option.getD_some]

/-- The signs of a heading line are not blank. -/
theorem IsOpened.trim_ne_nil (h : IsOpened text) : trim text ≠ [] := by
  obtain ⟨level, hlevel, c, rest, -, heq⟩ := h
  obtain ⟨level, rfl⟩ := Nat.exists_eq_succ_of_ne_zero hlevel.ne'
  have hsign : '#' ∈ text := by
    refine (firstLine_isPrefix text).subset ?_
    rw [heq, List.replicate_succ]
    exact List.mem_append_left _ List.mem_cons_self
  intro hnil
  have hblank := ink_eq_nil_iff_forall.mp (trim_eq_nil_iff_ink.mp hnil) '#' hsign
  exact absurd hblank (by decide)

/-- A text that opens with a heading has a line. -/
theorem IsOpened.lines_ne_nil (h : IsOpened text) : lines text ≠ [] := by
  intro hnil
  rw [lines_eq_nil_iff] at hnil
  subst hnil
  exact h.trim_ne_nil rfl

/-! ### Spans and partitions -/

/-- What is asked of the later of two neighbours is asked of all items but the first. -/
theorem isChain_right_iff {α : Type} {p : α → Bool} {items : List α} :
    (items.IsChain fun _ item => p item = true) ↔ ∀ item ∈ items.tail, p item = true := by
  cases items with
  | nil => simp
  | cons first rest =>
    induction rest generalizing first with
    | nil => simp
    | cons second rest ih => simp [List.isChain_cons_cons, ih second]

/-- The lines of the spans are the groups of the lines of the text. -/
theorem map_lines_spans (text : List Char) :
    (spans text).map lines = (lines text).splitBy fun _ line => !isHeadingLine line := by
  rw [spans_eq_splitBy, List.map_map]
  conv_rhs => rw [← List.map_id ((lines text).splitBy fun _ line => !isHeadingLine line)]
  exact List.map_congr_left fun group hgroup => lines_flatten_of_mem hgroup

/-- Parts are what their lines are together. -/
theorem map_flatten_map_lines (parts : List (List Char)) :
    (parts.map lines).map List.flatten = parts := by
  rw [List.map_map]
  exact List.map_id'' flatten_lines parts

/-- The spans partition the text: they join to it, and each but the first opens with a heading, and no other line of
theirs is one. -/
theorem isPartition_spans (text : List Char) : IsPartition text (spans text) where
  lines_eq := by
    rw [List.flatMap_def, map_lines_spans, List.flatten_splitBy]
  nil_notMem := by
    intro hmem
    have hlines : lines [] ∈ (spans text).map lines := List.mem_map_of_mem hmem
    rw [map_lines_spans] at hlines
    exact List.nil_notMem_splitBy _ _ hlines
  isOpened := by
    intro part hpart
    obtain ⟨index, hindex⟩ := List.mem_iff_getElem?.mp hpart
    rw [List.getElem?_tail] at hindex
    exact exists_isHeading_of_ne_zero hindex (Nat.succ_ne_zero index)
  inner := by
    intro part hpart line hline
    have hlines : lines part ∈ (spans text).map lines := List.mem_map_of_mem hpart
    rw [map_lines_spans] at hlines
    have hchain : (lines part).IsChain fun _ line => (!isHeadingLine line) = true :=
      List.isChain_of_mem_splitBy hlines
    simpa using isChain_right_iff.mp hchain line hline

/-- The lines of the parts of a text are the groups of its lines. -/
theorem IsPartition.splitBy_eq (h : IsPartition text parts) :
    ((lines text).splitBy fun _ line => !isHeadingLine line) = parts.map lines := by
  refine List.splitBy_eq_iff.mpr ⟨?_, ?_, ?_, ?_⟩
  · rw [← h.lines_eq, List.flatMap_def]
  · intro hmem
    obtain ⟨part, hpart, hnil⟩ := List.mem_map.mp hmem
    rw [lines_eq_nil_iff] at hnil
    exact h.nil_notMem (hnil ▸ hpart)
  · intro group hgroup
    obtain ⟨part, hpart, rfl⟩ := List.mem_map.mp hgroup
    refine isChain_right_iff.mpr fun line hline => ?_
    simp [h.inner part hpart line hline]
  · -- a cut is in front of a part that is not the first one
    refine List.isChain_iff_getElem.mpr fun index hindex => ?_
    rw [List.length_map] at hindex
    have hbefore : parts[index] ∈ parts := List.getElem_mem _
    have hafter : parts[index + 1] ∈ parts.tail := by
      refine List.mem_iff_getElem?.mpr ⟨index, ?_⟩
      rw [List.getElem?_tail, List.getElem?_eq_getElem hindex]
    have hopened : IsOpened parts[index + 1] := h.isOpened _ hafter
    have hnil : lines parts[index] ≠ [] := by
      rw [Ne, lines_eq_nil_iff]
      exact fun heq => h.nil_notMem (heq ▸ hbefore)
    have hhead := (isOpened_iff hopened.lines_ne_nil).mp hopened
    simp only [List.getElem_map]
    exact ⟨hnil, hopened.lines_ne_nil, by rw [hhead, Bool.not_true]⟩

/-- A text is cut into its spans, and not in any other way. -/
theorem isPartition_iff : IsPartition text parts ↔ parts = spans text := by
  constructor
  · intro h
    rw [spans_eq_splitBy, h.splitBy_eq, map_flatten_map_lines]
  · rintro rfl
    exact isPartition_spans text

/-! ### Two texts -/

/-- The lines of two texts are those of the texts together if the first ends with a line. -/
theorem lines_append (h : front = [] ∨ front.getLast? = some '\n') (back : List Char) :
    lines (front ++ back) = lines front ++ lines back := by
  refine List.splitBy_append fun c hc d _ => ?_
  rcases h with rfl | h
  · simp at hc
  · obtain rfl : '\n' = c := by simpa [h] using hc
    rfl

/-- The spans of two texts are those of the texts together if the second begins with a heading line that
is a line of both. -/
theorem spans_append (h : front = [] ∨ front.getLast? = some '\n') (hback : IsOpened back) :
    spans (front ++ back) = spans front ++ spans back := by
  rw [spans_eq_splitBy, spans_eq_splitBy, spans_eq_splitBy, lines_append h, ← List.map_append]
  congr 1
  refine List.splitBy_append fun _ _ line hline => ?_
  have hhead := (isOpened_iff hback.lines_ne_nil).mp hback
  rw [List.head?_eq_some_head hback.lines_ne_nil, Option.mem_some_iff] at hline
  rw [← hline, hhead, Bool.not_true]

/-! ### Sections -/

/-- The sections are those of the spans that are not blank. -/
theorem map_content_sections (text : List Char) :
    (sections text).map (fun (index, part) => (index, part.content)) =
      ((spans text).zipIdx.filter fun (span, _) => !isBlankText span).map
        fun (span, index) => (index, trim span) := by
  rw [sections, List.map_filterMap, ← List.filterMap_eq_map, List.filterMap_filter]
  refine List.filterMap_congr fun (span, index) _ => ?_
  by_cases hblank : isBlankText span = true
  · have htrim : trim span = [] := trim_eq_nil_iff.mpr hblank
    simp [Section.ofSpan?, htrim, hblank]
  · have htrim : trim span ≠ [] := fun hnil => hblank (trim_eq_nil_iff.mp hnil)
    simp [Section.ofSpan?, htrim, hblank]

/-- Every span but the first has a section. -/
theorem exists_mem_sections {index : Nat} (hindex : index ≠ 0) (h : index < (spans text).length) :
    ∃ part, (index, part) ∈ sections text := by
  have hspan : (spans text)[index]? = some (spans text)[index] := List.getElem?_eq_getElem h
  have hopened : IsOpened (spans text)[index] := exists_isHeading_of_ne_zero hspan hindex
  refine ⟨Section.ofContent (trim (spans text)[index]), List.mem_filterMap.mpr ?_⟩
  refine ⟨((spans text)[index], index), List.mk_mem_zipIdx_iff_getElem?.mpr hspan, ?_⟩
  simp [Section.ofSpan?, hopened.trim_ne_nil]

/-- The sections of two texts are those of the texts together, the later ones numbered on. -/
theorem sections_append (h : front = [] ∨ front.getLast? = some '\n') (hback : IsOpened back) :
    sections (front ++ back) =
      sections front ++ (sections back).map fun (index, part) => ((spans front).length + index, part) := by
  have hshift : (spans back).zipIdx (spans front).length =
      (spans back).zipIdx.map fun (span, index) => (span, (spans front).length + index) :=
    List.zipIdx_eq_map_add
  rw [sections, spans_append h hback, List.zipIdx_append, List.filterMap_append, Nat.zero_add, hshift,
    List.filterMap_map, sections, sections, List.map_filterMap]
  congr 1
  refine List.filterMap_congr fun (span, index) _ => ?_
  simp only [Function.comp_apply, Option.map_map]
  rfl

/-- **The sections of a text are its spans.** A text is cut into its spans in one way only, and together
they are the text. The sections are those of the spans that are not blank, trimmed, in their order and
with their numbers, and only the first span can be blank. If a text is followed by another that begins
with a heading line, on a line of its own, then so are its spans and its sections. -/
theorem sections_partition (text : List Char) :
    (spans text).flatten = text ∧
    (∀ parts, IsPartition text parts ↔ parts = spans text) ∧
    (sections text).map (fun (index, part) => (index, part.content)) =
      ((spans text).zipIdx.filter fun (span, _) => !isBlankText span).map
        (fun (span, index) => (index, trim span)) ∧
    (∀ index < (spans text).length, index ≠ 0 → ∃ part, (index, part) ∈ sections text) ∧
    ∀ back, text = [] ∨ text.getLast? = some '\n' → IsOpened back →
      spans (text ++ back) = spans text ++ spans back ∧
      sections (text ++ back) =
        sections text ++
          (sections back).map fun (index, part) => ((spans text).length + index, part) := by
  refine ⟨?_, ?_, map_content_sections text, ?_, ?_⟩
  · calc (spans text).flatten
      _ = (((spans text).map lines).map List.flatten).flatten := by rw [map_flatten_map_lines]
      _ = ((spans text).map lines).flatten.flatten := List.flatten_flatten.symm
      _ = text := by
        rw [← List.flatMap_def, (isPartition_spans text).lines_eq, flatten_lines]
  · exact fun parts => isPartition_iff
  · exact fun index hindex hne => exists_mem_sections hne hindex
  · exact fun back htext hback => ⟨spans_append htext hback, sections_append htext hback⟩

/-- A blank span, two sections, and a text of two more that follows. -/
theorem sections_partition_two_texts :
    let text := " \n# A\n## B\r\n".toList
    let back := "# \n# C".toList
    (text = [] ∨ text.getLast? = some '\n') ∧ IsOpened back ∧
      (sections text).map Prod.fst = [1, 2] ∧
      (sections (text ++ back)).map (fun (index, part) => (index, part.content)) =
        [(1, "# A".toList), (2, "## B".toList), (3, "#".toList), (4, "# C".toList)] := by
  intro text back
  have htext : text.getLast? = some '\n' := by decide
  have hback : IsOpened back := ⟨1, by decide, ' ', [], by decide, by decide +kernel⟩
  obtain ⟨-, -, -, -, happend⟩ := sections_partition text
  refine ⟨.inr htext, hback, by decide +kernel, ?_⟩
  rw [(happend back (.inr htext) hback).2]
  decide +kernel

end TextChunking
