import Mathlib
import TextChunking.Markdown.Section
import TextChunking.Proofs.Text.Cutting
import TextChunking.Proofs.Text.Lines
/-!
# Where a markdown text is cut

A heading line has a level, the number of number signs at its front (`IsHeading`, `isHeadingLine_iff`).
The spans of a text are groups of its lines, each group up to the next heading line (`spans_eq_splitBy`).
So a span begins with a heading line unless it is the first (`exists_isHeading_of_ne_zero`), and a text
without heading lines is a span by itself (`spans_of_forall_not_isHeadingLine`).
-/

namespace TextChunking

/-! ### Heading lines -/

/-- A line, without its terminator, that begins with `level` number signs and a blank character. -/
def IsHeading (level : Nat) (line : List Char) : Prop :=
  0 < level ∧ ∃ c rest, isBlank c = true ∧ line = List.replicate level '#' ++ c :: rest

/-- A blank character is not a number sign. -/
theorem beq_sign_eq_false_of_isBlank {c : Char} (h : isBlank c = true) : (c == '#') = false := by
  rw [beq_eq_false_iff_ne]
  rintro rfl
  exact absurd h (by decide)

/-- Number signs are read up to the first other character. -/
theorem span_signs (level : Nat) {c : Char} (hc : isBlank c = true) (rest : List Char) :
    (List.replicate level '#' ++ c :: rest).takeWhile (· == '#') = List.replicate level '#' ∧
    (List.replicate level '#' ++ c :: rest).dropWhile (· == '#') = c :: rest := by
  have hsigns : ∀ sign ∈ List.replicate level '#', (sign == '#') = true := by
    intro sign hsign
    simp [List.eq_of_mem_replicate hsign]
  rw [List.takeWhile_append_of_pos hsigns, List.dropWhile_append_of_pos hsigns]
  simp [beq_sign_eq_false_of_isBlank hc]

namespace IsHeading

variable {level : Nat} {line : List Char}

/-- The level of a heading line is the number of signs at its front. -/
theorem takeWhile_eq (h : IsHeading level line) :
    line.takeWhile (· == '#') = List.replicate level '#' := by
  obtain ⟨-, c, rest, hc, rfl⟩ := h
  exact (span_signs level hc rest).1

/-- A heading has at least as many characters as its level. -/
theorem le_length (h : IsHeading level line) : level ≤ line.length := by
  obtain ⟨-, c, rest, -, rfl⟩ := h
  simp

end IsHeading

/-- The mark of a heading stands at the front of heading lines and of no other. -/
theorem isAtFront_headingMark_iff {line : List Char} :
    headingMark.isAtFront line = true ↔ ∃ level, IsHeading level line := by
  have hmark : headingMark = [.one (· == '#'), .many (· == '#'), .one isBlank] := rfl
  rw [Pattern.isAtFront, Option.isSome_iff_exists, hmark]
  constructor
  · rintro ⟨left, hmatch⟩
    cases line with
    | nil => simp [Pattern.match?] at hmatch
    | cons sign line =>
      rw [Pattern.match?, Option.ite_none_right_eq_some, beq_iff_eq] at hmatch
      obtain ⟨rfl, hmatch⟩ := hmatch
      obtain ⟨c, hc, hdrop⟩ :=
        (Pattern.match?_many_one_eq_some_iff fun _ => beq_sign_eq_false_of_isBlank).mp hmatch
      have hsigns : line.takeWhile (· == '#') = List.replicate _ '#' :=
        List.eq_replicate_of_mem fun sign hsign => by simpa using List.mem_takeWhile_imp hsign
      refine ⟨(line.takeWhile (· == '#')).length + 1, Nat.succ_pos _, c, left, hc, ?_⟩
      rw [List.replicate_succ, ← hsigns, ← hdrop, List.cons_append, List.takeWhile_append_dropWhile]
  · rintro ⟨level, hlevel, c, rest, hc, rfl⟩
    obtain ⟨level, rfl⟩ := Nat.exists_eq_succ_of_ne_zero hlevel.ne'
    refine ⟨rest, ?_⟩
    rw [List.replicate_succ, List.cons_append, Pattern.match?, if_pos (beq_self_eq_true _),
      Pattern.match?_many_one_eq_some_iff fun _ => beq_sign_eq_false_of_isBlank]
    exact ⟨c, hc, (span_signs level hc rest).2⟩

/-- A line counts as a heading exactly if its body is one, of whichever level. -/
theorem isHeadingLine_iff {line : List Char} :
    isHeadingLine line = true ↔ ∃ level, IsHeading level (lineBody line) :=
  isAtFront_headingMark_iff

/-! ### Spans as groups of lines -/

/-- Cutting in progress: the open span is the group of the lines since the last cut. -/
theorem spansFrom_eq_loop (line : List Char) (group : List (List Char))
    (groups : List (List (List Char))) (rest : List (List Char)) :
    spansFrom (line :: group) (groups.map List.flatten) rest =
      (List.splitBy.loop (fun _ line => !isHeadingLine line) rest line group groups).map
        List.flatten := by
  induction rest generalizing line group groups with
  | nil => simp [spansFrom, List.splitBy.loop]
  | cons next rest ih =>
    rw [spansFrom, List.splitBy.loop]
    cases hnext : isHeadingLine next with
    | true =>
      rw [if_pos rfl]
      exact ih next [] ((line :: group).reverse :: groups)
    | false => exact ih next (line :: group) groups

/-- The spans of a text are the groups of its lines that begin with its heading lines. -/
theorem spans_eq_splitBy (text : List Char) :
    spans text = ((lines text).splitBy fun _ line => !isHeadingLine line).map List.flatten := by
  unfold spans
  cases lines text with
  | nil => rfl
  | cons line rest => exact spansFrom_eq_loop line [] [] rest

/-- A text without heading lines is not cut. -/
theorem spans_of_forall_not_isHeadingLine {text : List Char} (hne : text ≠ [])
    (h : ∀ line ∈ lines text, isHeadingLine line = false) : spans text = [text] := by
  have hlines : lines text ≠ [] := List.splitBy_ne_nil.mpr hne
  have hchain : (lines text).IsChain fun _ line => (!isHeadingLine line) = true := by
    refine List.Pairwise.isChain (List.pairwise_of_forall_mem_list ?_)
    intro _ _ line hline
    simp [h line hline]
  rw [spans_eq_splitBy, List.splitBy_of_isChain hlines hchain, List.map_singleton, flatten_lines]

/-- The lines of a span are those of its group. -/
theorem lines_flatten_of_mem {text : List Char} {r : List Char → List Char → Bool}
    {group : List (List Char)} (h : group ∈ (lines text).splitBy r) : lines group.flatten = group := by
  obtain ⟨before, after, hgroups⟩ := List.append_of_mem h
  have hlines : lines text = before.flatten ++ group ++ after.flatten := by
    rw [← List.flatten_splitBy r (lines text), hgroups, List.flatten_append, List.flatten_cons,
      List.append_assoc]
  exact lines_flatten_of_eq_append hlines

/-- The first line of a span is that of its group. -/
theorem firstLine_flatten {text : List Char} {r : List Char → List Char → Bool}
    {group : List (List Char)} (h : group ∈ (lines text).splitBy r) (hne : group ≠ []) :
    firstLine group.flatten = lineBody (group.head hne) := by
  rw [firstLine, lines_flatten_of_mem h, List.headD_eq_head?_getD, List.head?_eq_some_head hne,
    Option.getD_some]

/-- Every span but the first begins with a heading line. -/
theorem exists_isHeading_of_ne_zero {text span : List Char} {index : Nat}
    (h : (spans text)[index]? = some span) (hindex : index ≠ 0) :
    ∃ level, IsHeading level (firstLine span) := by
  obtain ⟨index, rfl⟩ := Nat.exists_eq_succ_of_ne_zero hindex
  rw [spans_eq_splitBy, List.getElem?_map, Option.map_eq_some_iff] at h
  obtain ⟨group, hgroup, rfl⟩ := h
  obtain ⟨hbound, hgroup⟩ := List.getElem?_eq_some_iff.mp hgroup
  have hchain := List.isChain_getLast_head_splitBy (fun _ line => !isHeadingLine line) (lines text)
  obtain ⟨-, hne, hhead⟩ := List.isChain_iff_getElem.mp hchain index hbound
  rw [Bool.not_eq_false', isHeadingLine_iff] at hhead
  subst hgroup
  rwa [firstLine_flatten (List.getElem_mem hbound) hne]

end TextChunking
