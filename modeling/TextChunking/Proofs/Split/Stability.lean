import TextChunking.Proofs.Split.Bounds
import TextChunking.Proofs.Split.Grouping
import TextChunking.Proofs.Split.Segments
import TextChunking.Proofs.Split.Windows
/-!
# Pieces are not cut again

A split leaves nothing for a second one. A piece of a text is a group of its paragraphs with blank lines
between them, or it is made of sentences of an oversized paragraph, or of what a hard window holds of an
oversized sentence. There is no blank line within a paragraph, so none is within its sentences, and as these
begin with ink none comes about where they meet (`HasBlankLine.of_append`). A piece is then cut into the very
paragraphs that were joined to it (`cut_intercalate`), which are small enough together and are packed again.
**Theorem** (`resplit_eq`): every piece of a split is its only piece when it is split again.
-/

namespace TextChunking

/-- Whether there is a blank line within a text: line feeds with nothing but blank characters between them. -/
def HasBlankLine (text : List Char) : Prop :=
  ∃ before between after,
    text = before ++ ('\n' :: (between ++ ['\n']) ++ after) ∧ ink between = []

/-- A tight text without a blank line. -/
structure IsParagraph (text : List Char) : Prop where
  tight : IsTight text
  whole : ¬ HasBlankLine text

/-- A tight text without a terminator. -/
structure IsSentence (text : List Char) : Prop where
  tight : IsTight text
  whole : ∀ c ∈ text, isTerminator c = false

variable {text part front back unit piece : List Char} {group rows : List (List Char)}

/-! ### Blank lines -/

/-- A blank line within a part is one within the text. -/
theorem HasBlankLine.of_infix (h : HasBlankLine part) (hwithin : part <:+: text) : HasBlankLine text := by
  obtain ⟨before, between, after, rfl, hblank⟩ := h
  obtain ⟨front, back, rfl⟩ := hwithin
  exact ⟨front ++ before, between, after ++ back, by simp, hblank⟩

/-- A blank line does not reach across the ink that a text begins with. -/
theorem HasBlankLine.of_append (h : HasBlankLine (front ++ back))
    (hback : ∀ c ∈ back.head?, isBlank c = false) : HasBlankLine front ∨ HasBlankLine back := by
  obtain ⟨before, between, after, heq, hblank⟩ := h
  rcases List.append_eq_append_iff.mp heq with ⟨left, -, hrest⟩ | ⟨left, rfl, hrest⟩
  · exact .inr ⟨left, between, after, hrest, hblank⟩
  · rcases List.append_eq_append_iff.mp hrest with ⟨beyond, rfl, -⟩ | ⟨beyond, hline, rfl⟩
    · exact .inl ⟨before, between, beyond, rfl, hblank⟩
    · cases beyond with
      | nil => exact .inl ⟨before, between, [], by rw [hline, List.append_nil, List.append_nil], hblank⟩
      | cons c beyond =>
        -- the text would begin with a character of the blank line
        have hmem : c ∈ '\n' :: (between ++ ['\n']) := by
          rw [hline]
          exact List.mem_append_right _ List.mem_cons_self
        have hall : ink ('\n' :: (between ++ ['\n'])) = [] := by
          rw [← List.singleton_append, ink_append, ink_append, hblank]
          rfl
        have hc := ink_eq_nil_iff_forall.mp hall c hmem
        rw [hback c rfl] at hc
        exact absurd hc Bool.false_ne_true

/-- Of neighbouring line feeds with blank characters between them, some have no other between them. -/
theorem HasBlankLine.exists_line (h : HasBlankLine text) :
    ∃ before between after, text = before ++ '\n' :: (between ++ '\n' :: after) ∧
      ink between = [] ∧ '\n' ∉ between := by
  obtain ⟨before, between, after, rfl, hblank⟩ := h
  by_cases hmem : '\n' ∈ between
  · obtain ⟨line, rest, rfl, hline⟩ := List.eq_append_cons_of_mem hmem
    rw [ink_append, List.append_eq_nil_iff] at hblank
    exact ⟨before, line, rest ++ '\n' :: after, by simp, hblank.1, hline⟩
  · exact ⟨before, between, after, by simp, hblank, hmem⟩

/-- There is no blank line in lines with ink. -/
theorem not_hasBlankLine_joinLines (hinked : ∀ row ∈ rows, isInked row = true)
    (hrows : ∀ row ∈ rows, '\n' ∉ row) : ¬ HasBlankLine (joinLines rows) := by
  intro h
  obtain ⟨before, between, after, heq, hblank, hline⟩ := h.exists_line
  have hne : rows ≠ [] := by
    rintro rfl
    simp [joinLines] at heq
  have hsplit : rows = before.splitOn '\n' ++ between :: after.splitOn '\n' := by
    have hcut := @List.splitOnP_append_cons _ (fun c => c == '\n') before
      (between ++ '\n' :: after) '\n' rfl
    rw [← List.splitOn_eq_splitOnP, ← List.splitOn_eq_splitOnP, ← List.splitOn_eq_splitOnP,
      splitOn_append_lf hline, ← heq, joinLines, List.splitOn_intercalate '\n' hrows hne] at hcut
    exact hcut
  have hbetween := hinked between (by simp [hsplit])
  rw [isInked_eq_false_iff.mpr hblank] at hbetween
  exact absurd hbetween Bool.false_ne_true

/-! ### Paragraphs -/

/-- What is packed of a text that is cut at its blank lines are paragraphs. -/
theorem isParagraph_of_mem (h : unit ∈ packable (blankLine.cut text)) : IsParagraph unit := by
  refine ⟨isTight_of_mem_packable h, ?_⟩
  rw [packable_cut_blankLine, joinRuns] at h
  obtain ⟨run, hrun, rfl⟩ := List.mem_map.mp h
  obtain ⟨hwithin, hinked⟩ := of_mem_maximalRuns hrun
  intro hblank
  refine not_hasBlankLine_joinLines hinked ?_ (hblank.of_infix (trim_isInfix _))
  exact fun row hrow => lf_notMem_of_mem_splitOn (hwithin.subset hrow)

/-- No blank line begins within a paragraph. -/
theorem IsParagraph.match?_eq_none (h : IsParagraph unit) {c : Char} {rest : List Char}
    (hsuffix : c :: rest <:+ unit) (text : List Char) :
    blankLine.match? (c :: (rest ++ text)) = none := by
  by_cases hc : c = '\n'
  · subst hc
    obtain ⟨front, rfl⟩ := hsuffix
    refine match?_blankLine_of_notMem fun hmem => h.whole ?_
    -- the paragraph ends with ink, so that the blank characters behind the line feed are its own
    have hink : ink rest ≠ [] := by
      rcases List.eq_nil_or_concat rest with rfl | ⟨rest, d, rfl⟩
      · exact absurd (h.tight.last '\n' (by simp)) (by decide)
      · have hd : isBlank d = false := h.tight.last d (by simp [List.getLast?_cons])
        simp [ink, hd]
    rw [takeWhile_isBlank_append hink] at hmem
    obtain ⟨between, after, hrun⟩ := List.append_of_mem hmem
    have hblank : ∀ d ∈ between, isBlank d = true := fun d hd =>
      List.mem_takeWhile_imp (hrun ▸ List.mem_append_left _ hd)
    refine ⟨front, between, after ++ rest.dropWhile isBlank, ?_, ink_eq_nil_iff_forall.mpr hblank⟩
    conv_lhs => rw [← List.takeWhile_append_dropWhile (p := isBlank) (l := rest), hrun]
    simp
  · have hfirst : blankLine.first c = false := by simp [blankLine, hc]
    rw [Separator.match?, hfirst, if_neg Bool.false_ne_true]

/-- Joined paragraphs are cut apart again. -/
theorem cutFrom_intercalate (hne : group ≠ []) (h : ∀ unit ∈ group, IsParagraph unit)
    (cuts : List (List Char)) :
    blankLine.cutFrom [] cuts (paragraphSeparator.intercalate group) = cuts.reverse ++ group := by
  induction group generalizing cuts with
  | nil => exact absurd rfl hne
  | cons unit rest ih =>
    obtain ⟨hunit, hrest⟩ := List.forall_mem_cons.mp h
    by_cases hnil : rest = []
    · have htext : unit = unit ++ [] := (List.append_nil unit).symm
      rw [hnil, List.intercalate_singleton, htext,
        Separator.cutFrom_append_of_none fun c tail hsuffix => hunit.match?_eq_none hsuffix _]
      simp [Separator.cutFrom]
    · have htight : IsTight (paragraphSeparator.intercalate rest) :=
        .intercalate paragraphSeparator hnil fun other hother => (hrest other hother).tight
      have hmatch : blankLine.match? ('\n' :: ([] ++ '\n' :: paragraphSeparator.intercalate rest)) =
          some (paragraphSeparator.intercalate rest) := by
        refine match?_blankLine_of_append rfl ?_
        simp [htight.takeWhile_eq_nil]
      rw [List.intercalate_cons_of_ne_nil hnil, List.append_assoc,
        Separator.cutFrom_append_of_none fun c tail hsuffix => hunit.match?_eq_none hsuffix _]
      change blankLine.cutFrom _ cuts ('\n' :: ([] ++ '\n' :: paragraphSeparator.intercalate rest)) = _
      rw [Separator.cutFrom_of_match hmatch, ih hnil hrest]
      simp

/-- Paragraphs that were joined by the separator are cut apart again, and nowhere else. -/
theorem cut_intercalate (hne : group ≠ []) (h : ∀ unit ∈ group, IsParagraph unit) :
    blankLine.cut (paragraphSeparator.intercalate group) = group :=
  cutFrom_intercalate hne h []

/-! ### Sentences -/

/-- What is packed of a text that is cut at the ends of its sentences are sentences within it. -/
theorem isSentence_of_mem (h : unit ∈ packable (sentenceEnd.cut text)) :
    IsSentence unit ∧ unit <:+: text := by
  have htight : IsTight unit := isTight_of_mem_packable h
  rw [packable_cut_sentenceEnd, sentenceRuns] at h
  obtain ⟨run, hrun, rfl⟩ := exists_trim_of_mem_packable h
  obtain ⟨hwithin, hall⟩ := of_mem_maximalRuns hrun
  refine ⟨⟨htight, fun c hc => ?_⟩, (trim_isInfix run).trans hwithin⟩
  simpa using hall c ((trim_isInfix run).subset hc)

/-- A tight part of a sentence is one. -/
theorem IsSentence.of_infix (h : IsSentence text) (htight : IsTight part) (hwithin : part <:+: text) :
    IsSentence part :=
  ⟨htight, fun c hc => h.whole c (hwithin.subset hc)⟩

/-- A sentence is not cut. -/
theorem IsSentence.cut_eq (h : IsSentence text) : sentenceEnd.cut text = [text] := by
  have hcut := @Separator.cutFrom_append sentenceEnd text h.whole [] [] []
  rw [List.append_nil, List.append_nil, Separator.cutFrom] at hcut
  simpa [Separator.cut] using hcut

/-! ### Pieces -/

/-- A piece of a text that is split by sentences is made of sentences within the text: of those that
were packed into it, or of what a window of an oversized one holds. -/
theorem exists_sentences_of_mem_splitSentences {maxSize overlap : Nat}
    (h : piece ∈ splitSentences maxSize overlap text) :
    ∃ group : List (List Char),
      (∀ unit ∈ group, IsSentence unit ∧ unit <:+: text) ∧ piece = group.flatten := by
  have htight : IsTight piece := (splitSentences_isPiece maxSize overlap text piece h).tight
  rcases (isPacked_pack ..).mem_cases h with ⟨group, -, hsubset, hjoin, -⟩ | ⟨unit, hunit, -, hmem⟩
  · refine ⟨group, fun unit hunit => isSentence_of_mem (hsubset hunit), ?_⟩
    rw [hjoin, nil_intercalate]
  · obtain ⟨hsentence, hwithin⟩ := isSentence_of_mem hunit
    have hpiece := isInfix_of_mem_hardSplit hmem
    exact ⟨[piece], by simpa using ⟨hsentence.of_infix htight hpiece, hpiece.trans hwithin⟩, by simp⟩

/-- Where texts that begin with ink meet, no blank line comes about. -/
theorem not_hasBlankLine_flatten (h : ∀ unit ∈ group, IsParagraph unit) :
    ¬ HasBlankLine group.flatten := by
  induction group with
  | nil =>
    rintro ⟨before, between, after, heq, -⟩
    simp at heq
  | cons unit rest ih =>
    obtain ⟨hunit, hrest⟩ := List.forall_mem_cons.mp h
    have hstart : ∀ c ∈ rest.flatten.head?, isBlank c = false := by
      cases rest with
      | nil => simp
      | cons next rest =>
        have hnext : IsTight next := (hrest next List.mem_cons_self).tight
        rw [List.flatten_cons, List.head?_append_of_ne_nil _ hnext.ne_nil]
        exact hnext.head
    intro hblank
    rcases hblank.of_append hstart with hfirst | hothers
    · exact hunit.whole hfirst
    · exact ih hrest hothers

/-- The pieces of sentences have no terminators, whether packed or cut into windows. -/
theorem isSentence_of_mem_splitSentences {maxSize overlap : Nat}
    (h : piece ∈ splitSentences maxSize overlap text) : IsSentence piece := by
  refine ⟨(splitSentences_isPiece maxSize overlap text piece h).tight, ?_⟩
  obtain ⟨group, hgroup, rfl⟩ := exists_sentences_of_mem_splitSentences h
  intro c hc
  obtain ⟨unit, hunit, hc⟩ := List.mem_flatten.mp hc
  exact (hgroup unit hunit).1.whole c hc

/-- The pieces that replace a paragraph have no blank line in them. -/
theorem isParagraph_of_mem_splitSentences {maxSize overlap : Nat} (htext : IsParagraph text)
    (h : piece ∈ splitSentences maxSize overlap text) : IsParagraph piece := by
  refine ⟨(splitSentences_isPiece maxSize overlap text piece h).tight, ?_⟩
  obtain ⟨group, hgroup, rfl⟩ := exists_sentences_of_mem_splitSentences h
  refine not_hasBlankLine_flatten fun unit hunit => ?_
  obtain ⟨hsentence, hwithin⟩ := hgroup unit hunit
  exact ⟨hsentence.tight, fun hblank => htext.whole (hblank.of_infix hwithin)⟩

/-- A piece of a text that is split by paragraphs is made of paragraphs with blank lines between them. -/
theorem exists_paragraphs_of_mem_splitParagraphs {maxSize overlap : Nat}
    (h : piece ∈ splitParagraphs maxSize overlap text) : ∃ group ≠ [],
      (∀ unit ∈ group, IsParagraph unit) ∧ piece = paragraphSeparator.intercalate group := by
  rcases (isPacked_pack ..).mem_cases h with ⟨group, hne, hsubset, hjoin, -⟩ | ⟨unit, hunit, -, hmem⟩
  · exact ⟨group, hne, fun unit hunit => isParagraph_of_mem (hsubset hunit), hjoin⟩
  · have hpiece := isParagraph_of_mem_splitSentences (isParagraph_of_mem hunit) hmem
    exact ⟨[piece], by simp, by simpa using hpiece, by simp⟩

/-! ### Pieces that are split again -/

/-- A text that is cut into tight units, small enough for a piece when they are joined again, is the only
piece that packing makes of them. -/
theorem pack_intercalate {maxSize : Nat} {separator : List Char}
    {oversized : List Char → List (List Char)} (hne : group ≠ []) (htight : ∀ unit ∈ group, IsTight unit)
    (hlength : (separator.intercalate group).length ≤ maxSize) :
    pack maxSize separator oversized group = [separator.intercalate group] := by
  have hunits : packable group = group := packable_of_forall_isTight htight
  rw [← hunits] at hne hlength
  rw [pack_eq_singleton hne hlength, hunits]

/-- **Pieces are not cut again.** Every piece of a text, be it a group of paragraphs, a run of sentences or
what a window holds, is its only piece when it is split again. The same holds of splitting by sentences. -/
theorem resplit_eq (maxSize overlap : Nat) (text : List Char) :
    (∀ piece ∈ splitParagraphs maxSize overlap text, splitParagraphs maxSize overlap piece = [piece]) ∧
    ∀ piece ∈ splitSentences maxSize overlap text, splitSentences maxSize overlap piece = [piece] := by
  constructor
  · intro piece hpiece
    have hlength := (splitParagraphs_isPiece maxSize overlap text piece hpiece).length_le
    obtain ⟨group, hne, hgroup, rfl⟩ := exists_paragraphs_of_mem_splitParagraphs hpiece
    rw [splitParagraphs, cut_intercalate hne hgroup]
    exact pack_intercalate hne (fun unit hunit => (hgroup unit hunit).tight) hlength
  · intro piece hpiece
    have hlength := (splitSentences_isPiece maxSize overlap text piece hpiece).length_le
    have hsentence := isSentence_of_mem_splitSentences hpiece
    rw [splitSentences, hsentence.cut_eq]
    have htight : ∀ unit ∈ [piece], IsTight unit := by simpa using hsentence.tight
    have hpack : pack maxSize [] (hardSplit maxSize overlap) [piece] = [[].intercalate [piece]] :=
      pack_intercalate (List.cons_ne_nil piece []) htight (by rwa [List.intercalate_singleton])
    rwa [List.intercalate_singleton] at hpack

/-- A text with each kind of piece: two paragraphs with a blank line between them, two sentences with
nothing between them, and windows that overlap. -/
theorem resplit_eq_of_each_kind :
    let paragraph := "One. Two!  Threefourfive"
    let text := " ab \n \n cd\n\n" ++ paragraph
    let inner := ["OneTwo", "Threefou", "ourfive", "e"].map String.toList
    let pieces := "ab\n\ncd".toList :: inner
    (splitParagraphs 8 2 text.toList = pieces ∧
        ∀ piece ∈ pieces, splitParagraphs 8 2 piece = [piece]) ∧
      splitSentences 8 2 paragraph.toList = inner ∧
        ∀ piece ∈ inner, splitSentences 8 2 piece = [piece] := by
  intro paragraph text inner pieces
  have hpieces : splitParagraphs 8 2 text.toList = pieces := by decide +kernel
  have hinner : splitSentences 8 2 paragraph.toList = inner := by decide +kernel
  exact ⟨⟨hpieces, hpieces ▸ (resplit_eq 8 2 text.toList).1⟩,
    hinner, hinner ▸ (resplit_eq 8 2 paragraph.toList).2⟩

end TextChunking
