import TextChunking.Proofs.Markdown.Spans
/-!
# Sections and the lines that open them

The spans of a text are cut at its lines as they are, but the level and the heading of a section are read
from what is left of the span when it is trimmed. Trimming can mislead the reading in two ways. It takes
away the blank character behind the number signs where the span holds nothing else (`IsBare`), and it
takes away what keeps the first line of the text from being a heading line (`IsIndented`). **Theorem**
(`agrees_iff`): a section agrees with the line that opened its span (`Section.Agrees`) exactly if neither
has happened.
-/

namespace TextChunking

/-! ### What a section says -/

namespace Section

/-- A section with the level of a heading line, headed by what stands behind its signs. -/
def IsHeaded (level : Nat) (line : List Char) (part : Section) : Prop :=
  part.level = some level ∧ part.heading = trim (line.drop level)

/-- A section without a heading. -/
structure IsPlain (part : Section) : Prop where
  level : part.level = none
  heading : part.heading = []
  subkind : part.subkind = "content"

/-- A section that says of its span what the first line of the span says. -/
structure Agrees (span : List Char) (part : Section) : Prop where
  headed : ∀ level, IsHeading level (firstLine span) → part.IsHeaded level (firstLine span)
  plain : (∀ level, ¬ IsHeading level (firstLine span)) → part.IsPlain

variable {content : List Char}

/-- A section whose first line is a heading takes its level and its title from that line. -/
theorem isHeaded_ofContent {level : Nat} (h : IsHeading level (firstLine content)) :
    (ofContent content).IsHeaded level (firstLine content) := by
  have hsigns : ((firstLine content).takeWhile fun c => c == '#').length = level := by
    rw [h.takeWhile_eq, List.length_replicate]
  rw [ofContent, if_pos (isAtFront_headingMark_iff.mpr ⟨level, h⟩)]
  refine ⟨congrArg some hsigns, ?_⟩
  change trim ((firstLine content).drop (List.takeWhile _ _).length) = _
  rw [hsigns]

/-- A section whose first line is no heading has no level and no title. -/
theorem isPlain_ofContent (h : ∀ level, ¬ IsHeading level (firstLine content)) :
    (ofContent content).IsPlain := by
  have hmark : ¬ headingMark.isAtFront (firstLine content) = true := by
    rw [isAtFront_headingMark_iff]
    rintro ⟨level, hlevel⟩
    exact h level hlevel
  rw [ofContent, if_neg hmark]
  exact ⟨rfl, rfl, rfl⟩

/-- A section with a level is not without a heading. -/
theorem IsHeaded.not_isPlain {level : Nat} {line : List Char} {part : Section}
    (h : part.IsHeaded level line) : ¬ part.IsPlain := by
  intro hplain
  have hlevel := h.1.symm.trans hplain.level
  simp at hlevel

/-- A section is what its trimmed span says it is. -/
theorem exists_span_of_mem_sections {text : List Char} {index : Nat} {part : Section}
    (h : (index, part) ∈ sections text) :
    ∃ span, (spans text)[index]? = some span ∧ trim span ≠ [] ∧ part = ofContent (trim span) := by
  simp only [sections, List.mem_filterMap, Option.map_eq_some_iff, Prod.mk.injEq] at h
  obtain ⟨⟨span, place⟩, hspan, found, hfound, rfl, rfl⟩ := h
  rw [ofSpan?, Option.ite_none_left_eq_some, List.isEmpty_iff, Option.some.injEq] at hfound
  exact ⟨span, List.mk_mem_zipIdx_iff_getElem?.mp hspan, hfound.1, hfound.2.symm⟩

end Section

/-! ### What trimming does to a heading line -/

/-- A span that trimming leaves nothing of but the signs of its heading line. -/
def IsBare (span : List Char) : Prop :=
  ∃ level, IsHeading level (firstLine span) ∧ trim span = List.replicate level '#'

/-- A span that begins with a heading line only when it is trimmed. -/
def IsIndented (span : List Char) : Prop :=
  (∀ level, ¬ IsHeading level (firstLine span)) ∧ ∃ level, IsHeading level (firstLine (trim span))

/-- A blank character is none of the signs. -/
theorem not_mem_signs {level : Nat} {c : Char} (hc : isBlank c = true) :
    c ∉ List.replicate level '#' := by
  intro hmem
  rw [List.eq_of_mem_replicate hmem] at hc
  exact absurd hc (by decide)

/-- Number signs alone are not a heading line. -/
theorem not_isHeading_replicate (level other : Nat) :
    ¬ IsHeading level (List.replicate other '#') := by
  rintro ⟨-, c, rest, hc, heq⟩
  exact not_mem_signs hc (heq ▸ List.mem_append_right _ List.mem_cons_self)

/-- A heading line is one without the blank characters at its end too, unless it has nothing but signs
then. -/
theorem IsHeading.of_append {level : Nat} {line tail : List Char} (h : IsHeading level (line ++ tail))
    (htail : ink tail = []) : line = List.replicate level '#' ∨ IsHeading level line := by
  obtain ⟨hlevel, c, rest, hc, heq⟩ := h
  rcases List.append_eq_append_iff.mp heq with ⟨signs, hsigns, hrest⟩ | ⟨more, hline, hrest⟩
  · -- the tail would begin within the signs
    cases signs with
    | nil => exact .inl (by rw [hsigns, List.append_nil])
    | cons sign signs =>
      have hmem : sign ∈ List.replicate level '#' := by simp [hsigns]
      exact absurd hmem (not_mem_signs (ink_eq_nil_iff_forall.mp htail sign (by simp [hrest])))
  · cases more with
    | nil => exact .inl (by rw [hline, List.append_nil])
    | cons d more =>
      rw [List.cons_append, List.cons.injEq] at hrest
      exact .inr ⟨hlevel, d, more, hrest.1 ▸ hc, hline⟩

variable {span : List Char}

/-- Nothing stands in front of a heading line. -/
theorem exists_eq_trim_append {level : Nat} (h : IsHeading level (firstLine span)) :
    ∃ back, ink back = [] ∧ span = trim span ++ back := by
  obtain ⟨front, back, heq, hfront, hback⟩ := exists_eq_append_trim span
  cases front with
  | nil => exact ⟨back, hback, heq⟩
  | cons c front =>
    obtain ⟨hlevel, d, rest, -, hline⟩ := h
    obtain ⟨level, rfl⟩ := Nat.exists_eq_succ_of_ne_zero hlevel.ne'
    obtain ⟨after, hafter⟩ := firstLine_isPrefix span
    rw [hline, List.replicate_succ] at hafter
    obtain rfl : '#' = c := (List.cons.inj (hafter.trans heq)).1
    exact absurd (ink_eq_nil_iff_forall.mp hfront '#' List.mem_cons_self) (by decide)

/-- Trimming leaves a heading line its level and its heading, unless it leaves nothing but the signs. -/
theorem IsHeading.firstLine_trim {level : Nat} (h : IsHeading level (firstLine span))
    (hne : trim span ≠ []) (hbare : trim span ≠ List.replicate level '#') :
    IsHeading level (firstLine (trim span)) ∧
      trim ((firstLine (trim span)).drop level) = trim ((firstLine span).drop level) := by
  obtain ⟨back, hback, heq⟩ := exists_eq_trim_append h
  obtain ⟨tail, htail, hline, honly⟩ := exists_firstLine_append (isTight_trim hne) hback
  rw [← heq] at hline
  rw [hline] at h ⊢
  rcases h.of_append htail with hsigns | hheading
  · rcases honly with rfl | hsingle
    · rw [hsigns, List.append_nil] at h
      exact absurd h (not_isHeading_replicate level level)
    · exact absurd (hsingle.symm.trans hsigns) hbare
  · refine ⟨hheading, ?_⟩
    rw [List.drop_append_of_le_length hheading.le_length, trim_append_of_ink_eq_nil _ htail]

/-- Nothing but signs is left of a bare span, so it is read as one without a heading. -/
theorem IsBare.not_isHeading_trim (h : IsBare span) (level : Nat) :
    ¬ IsHeading level (firstLine (trim span)) := by
  obtain ⟨signs, -, heq⟩ := h
  have hfeed : '\n' ∉ List.replicate signs '#' := not_mem_signs (by decide)
  rw [heq, firstLine_of_notMem hfeed]
  exact not_isHeading_replicate level signs

/-- **Sections and the lines that open them.** Only the first span can begin without a heading line. A
section agrees with the line that opens its span, unless the span is bare or indented. Of a bare span the
section is one without a heading, and of an indented span it has the heading that trimming uncovers. -/
theorem agrees_iff {text : List Char} {index : Nat} {part : Section}
    (h : (index, part) ∈ sections text) :
    ∃ span, (spans text)[index]? = some span ∧ part.content = trim span ∧
      ((∀ level, ¬ IsHeading level (firstLine span)) → index = 0) ∧
      (part.Agrees span ↔ ¬ IsBare span ∧ ¬ IsIndented span) ∧
      (IsBare span → part.IsPlain) ∧
      (IsIndented span → ∀ level, IsHeading level (firstLine (trim span)) →
        part.IsHeaded level (firstLine (trim span))) := by
  obtain ⟨span, hspan, hne, rfl⟩ := Section.exists_span_of_mem_sections h
  have hbare : IsBare span → (Section.ofContent (trim span)).IsPlain :=
    fun hbare => Section.isPlain_ofContent hbare.not_isHeading_trim
  refine ⟨span, hspan, Section.content_ofContent _, ?_, ⟨?_, ?_⟩, hbare, ?_⟩
  · intro hplain
    by_contra hindex
    obtain ⟨level, hlevel⟩ := exists_isHeading_of_ne_zero hspan hindex
    exact hplain level hlevel
  · intro hagrees
    refine ⟨?_, ?_⟩
    · intro hsigns
      have hplain := hbare hsigns
      obtain ⟨level, hlevel, -⟩ := hsigns
      exact (hagrees.headed level hlevel).not_isPlain hplain
    · rintro ⟨hplain, level, hlevel⟩
      exact (Section.isHeaded_ofContent hlevel).not_isPlain (hagrees.plain hplain)
  · rintro ⟨hnotBare, hnotIndented⟩
    refine ⟨?_, ?_⟩
    · intro level hlevel
      have hmore : trim span ≠ List.replicate level '#' :=
        fun hsigns => hnotBare ⟨level, hlevel, hsigns⟩
      obtain ⟨htrim, hheading⟩ := hlevel.firstLine_trim hne hmore
      obtain ⟨hpart, hpartHeading⟩ := Section.isHeaded_ofContent htrim
      exact ⟨hpart, hpartHeading.trans hheading⟩
    · intro hplain
      refine Section.isPlain_ofContent fun level hlevel => ?_
      exact hnotIndented ⟨hplain, level, hlevel⟩
  · exact fun _ level hlevel => Section.isHeaded_ofContent hlevel

/-- An indented span, one with a section that agrees with it, and a bare one. -/
theorem agrees_iff_three_spans :
    let text := "  # A\n## B\n# \n".toList
    ∃ first second third, sections text = [(0, first), (1, second), (2, third)] ∧
      first.IsHeaded 1 "# A".toList ∧ second.Agrees "## B\n".toList ∧ third.IsPlain := by
  intro text
  have hspans : spans text = ["  # A\n".toList, "## B\n".toList, "# \n".toList] := by
    decide +kernel
  have hsections : sections text = [(0, Section.ofContent "# A".toList),
      (1, Section.ofContent "## B".toList), (2, Section.ofContent "#".toList)] := by
    decide +kernel
  have hfirst : IsHeading 1 "# A".toList := ⟨by decide, ' ', ['A'], by decide, by decide⟩
  have hsecond : IsHeading 2 "## B".toList := ⟨by decide, ' ', ['B'], by decide, by decide⟩
  have hthird : IsHeading 1 "# ".toList := ⟨by decide, ' ', [], by decide, by decide⟩
  refine ⟨_, _, _, hsections, ?_, ?_, ?_⟩
  · obtain ⟨span, hspan, -, -, -, -, hindented⟩ :=
      agrees_iff (List.mem_of_getElem? (congrArg (·[0]?) hsections))
    obtain rfl : "  # A\n".toList = span := by simpa [hspans] using hspan
    have hraw : ∀ level, ¬ IsHeading level (firstLine "  # A\n".toList) := fun level h =>
      absurd (isAtFront_headingMark_iff.mpr ⟨level, h⟩) (by decide +kernel)
    have hline : firstLine (trim "  # A\n".toList) = "# A".toList := by decide +kernel
    rw [hline] at hindented
    exact hindented ⟨hraw, 1, hline ▸ hfirst⟩ 1 hfirst
  · obtain ⟨span, hspan, -, -, hagrees, -⟩ :=
      agrees_iff (List.mem_of_getElem? (congrArg (·[1]?) hsections))
    obtain rfl : "## B\n".toList = span := by simpa [hspans] using hspan
    have hline : firstLine "## B\n".toList = "## B".toList := by decide +kernel
    refine hagrees.mpr ⟨?_, ?_⟩
    · rintro ⟨level, -, hsigns⟩
      have hmem : 'B' ∈ List.replicate level '#' := by
        rw [← hsigns]
        decide +kernel
      exact absurd (List.eq_of_mem_replicate hmem) (by decide)
    · exact fun h => h.1 2 (hline ▸ hsecond)
  · obtain ⟨span, hspan, -, -, -, hbare, -⟩ :=
      agrees_iff (List.mem_of_getElem? (congrArg (·[2]?) hsections))
    obtain rfl : "# \n".toList = span := by simpa [hspans] using hspan
    have hline : firstLine "# \n".toList = "# ".toList := by decide +kernel
    exact hbare ⟨1, hline ▸ hthird, by decide +kernel⟩

/-- Trimming gives a heading to a text that begins without one, and takes the heading from a text that
is nothing but a heading line. -/
theorem exists_not_agrees :
    (∃ part, (0, part) ∈ sections "  # A\nbody".toList ∧
      (spans "  # A\nbody".toList)[0]? = some "  # A\nbody".toList ∧
      ¬ part.Agrees "  # A\nbody".toList) ∧
    ∃ part, (0, part) ∈ sections "# \n".toList ∧
      (spans "# \n".toList)[0]? = some "# \n".toList ∧ ¬ part.Agrees "# \n".toList := by
  refine ⟨⟨Section.ofContent "# A\nbody".toList, ?_, ?_, ?_⟩, Section.ofContent "#".toList, ?_, ?_, ?_⟩
  · decide +kernel
  · decide +kernel
  · intro h
    have hraw : ∀ level, ¬ IsHeading level (firstLine "  # A\nbody".toList) := fun level hlevel =>
      absurd (isAtFront_headingMark_iff.mpr ⟨level, hlevel⟩) (by decide +kernel)
    exact absurd (h.plain hraw).level (by decide +kernel)
  · decide +kernel
  · decide +kernel
  · intro h
    have hraw : IsHeading 1 (firstLine "# \n".toList) :=
      ⟨by decide, ' ', [], by decide, by decide +kernel⟩
    exact absurd (h.headed 1 hraw).1 (by decide +kernel)

end TextChunking
