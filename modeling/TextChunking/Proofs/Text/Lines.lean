import Mathlib.Data.List.SplitBy
import TextChunking.Proofs.Text.Trimming
import TextChunking.Text.Basic
/-!
# First lines

Neighbouring lines of a text are the lines of what they are together (`lines_flatten_of_eq_append`). The first
line of a text is the whole text if there is no line feed in it (`firstLine_of_notMem`), and ends at the
first line feed otherwise (`firstLine_append_lf`). So blank characters behind a tight text make its first
line longer by blank characters only, and only if the text is a single line (`exists_firstLine_append`).
-/

namespace TextChunking

/-! ### Lines and what they are together -/

/-- The lines of a text make up the text. -/
@[simp] theorem flatten_lines (text : List Char) : (lines text).flatten = text :=
  List.flatten_splitBy ..

/-- Neighbouring lines of a text are the lines of what they are together. -/
theorem lines_flatten_of_eq_append {text : List Char} {before group after : List (List Char)}
    (h : lines text = before ++ group ++ after) : lines group.flatten = group := by
  have hsubset : group ⊆ lines text := by
    rw [h]
    exact fun line hline => List.mem_append_left _ (List.mem_append_right _ hline)
  refine List.splitBy_flatten ?_ ?_ ?_
  · exact fun hnil => List.nil_notMem_splitBy _ _ (hsubset hnil)
  · exact fun line hline => List.isChain_of_mem_splitBy (hsubset hline)
  · have hchain := List.isChain_getLast_head_splitBy (fun c _ => c != '\n') text
    rw [← lines, h] at hchain
    exact hchain.left_of_append.right_of_append

variable {line front back : List Char}

/-- Nothing is cut between characters of which only the last may be a line feed. -/
theorem lines_of_pairwise (hne : line ≠ []) (h : line.Pairwise fun c _ => c ≠ '\n') :
    lines line = [line] :=
  List.splitBy_of_isChain hne (List.Pairwise.isChain (h.imp fun hc => by simpa using hc))

/-- A line without a line feed is not cut. -/
theorem pairwise_of_notMem (h : '\n' ∉ line) : line.Pairwise fun c _ => c ≠ '\n' :=
  List.pairwise_of_forall_mem_list fun _ hc _ _ heq => h (heq ▸ hc)

/-- No character of a line without a line feed is taken for one. -/
theorem beq_lf_eq_false (h : '\n' ∉ line) {c : Char} (hc : c ∈ line) : (c == '\n') = false := by
  rw [beq_eq_false_iff_ne]
  rintro rfl
  exact h hc

/-- The first cut is behind the first line feed. -/
theorem lines_append_lf (h : '\n' ∉ line) (rest : List Char) :
    lines (line ++ '\n' :: rest) = (line ++ ['\n']) :: lines rest := by
  have hline : lines (line ++ ['\n']) = [line ++ ['\n']] := by
    refine lines_of_pairwise (by simp) (List.pairwise_append.mpr ⟨pairwise_of_notMem h, by simp, ?_⟩)
    exact fun c hc _ _ heq => h (heq ▸ hc)
  rw [List.append_cons, lines, List.splitBy_append (by simp), ← lines, hline, ← lines,
    List.singleton_append]

/-- The first piece of a text reaches up to the first line feed. -/
theorem splitOn_append_lf (h : '\n' ∉ line) (rest : List Char) :
    (line ++ '\n' :: rest).splitOn '\n' = line :: rest.splitOn '\n' := by
  have hclear : ∀ c ∈ line, (c == '\n') = false := fun _ => beq_lf_eq_false h
  have hcut := @List.splitOnP_append_cons _ (fun c => c == '\n') line rest '\n' rfl
  rw [List.splitOn_eq_splitOnP, List.splitOn_eq_splitOnP, hcut, List.splitOnP_eq_singleton hclear,
    List.singleton_append]

/-! ### The first line -/

/-- The body of a line is a front of it. -/
theorem lineBody_isPrefix (line : List Char) : lineBody line <+: line := by
  unfold lineBody
  split
  · rename_i rest heq
    exact ⟨['\r', '\n'], by rw [← List.reverse_reverse line, heq]; simp⟩
  · rename_i rest heq
    exact ⟨['\n'], by rw [← List.reverse_reverse line, heq]; simp⟩
  · exact List.prefix_rfl

/-- What stands in front of a terminator belongs to the line, a carriage return at its end apart. -/
theorem lineBody_append_lf (h : front.getLast? ≠ some '\r') (line : List Char) :
    lineBody (front ++ (line ++ ['\n'])) = front ++ lineBody (line ++ ['\n']) := by
  rcases List.eq_nil_or_concat line with rfl | ⟨line, c, rfl⟩
  · rcases List.eq_nil_or_concat front with rfl | ⟨front, c, rfl⟩
    · rfl
    · have hc : c ≠ '\r' := by simpa using h
      simp [lineBody, hc]
  · by_cases hc : c = '\r' <;> simp [lineBody, hc]

/-- A line without a line feed is its own body; a carriage return at its end stays. -/
theorem lineBody_of_notMem (h : '\n' ∉ line) : lineBody line = line := by
  have hreverse : ∀ rest, line.reverse ≠ '\n' :: rest := fun rest heq =>
    h (List.mem_reverse.mp (heq ▸ List.mem_cons_self))
  unfold lineBody
  split
  · exact absurd ‹_› (hreverse _)
  · exact absurd ‹_› (hreverse _)
  · rfl

/-- A text without a line feed is its own first line. -/
theorem firstLine_of_notMem (h : '\n' ∉ line) : firstLine line = line := by
  rcases eq_or_ne line [] with rfl | hne
  · rfl
  · rw [firstLine, lines_of_pairwise hne (pairwise_of_notMem h), List.headD_cons,
      lineBody_of_notMem h]

/-- The first line ends with the first line feed. -/
theorem firstLine_append_lf (h : '\n' ∉ line) (rest : List Char) :
    firstLine (line ++ '\n' :: rest) = lineBody (line ++ ['\n']) := by
  rw [firstLine, lines_append_lf h, List.headD_cons]

/-- Where the first line feed is, what comes behind it does not matter. -/
theorem firstLine_append_of_mem (h : '\n' ∈ front) (back : List Char) :
    firstLine (front ++ back) = firstLine front := by
  obtain ⟨line, rest, rfl, hline⟩ := List.eq_append_cons_of_mem h
  rw [List.append_assoc, List.cons_append, firstLine_append_lf hline, firstLine_append_lf hline]

/-- The first line goes on behind a text without a line feed. -/
theorem firstLine_append (hfeed : '\n' ∉ front) (hreturn : front.getLast? ≠ some '\r')
    (back : List Char) : firstLine (front ++ back) = front ++ firstLine back := by
  by_cases hback : '\n' ∈ back
  · obtain ⟨line, rest, rfl, hline⟩ := List.eq_append_cons_of_mem hback
    have hboth : '\n' ∉ front ++ line := by simp [hfeed, hline]
    rw [← List.append_assoc, firstLine_append_lf hboth, firstLine_append_lf hline, List.append_assoc,
      lineBody_append_lf hreturn]
  · rw [firstLine_of_notMem hback, firstLine_of_notMem (by simp [hfeed, hback])]

/-- The first line is a front of the text. -/
theorem firstLine_isPrefix (text : List Char) : firstLine text <+: text := by
  by_cases h : '\n' ∈ text
  · obtain ⟨line, rest, rfl, hline⟩ := List.eq_append_cons_of_mem h
    rw [firstLine_append_lf hline, List.append_cons line '\n' rest]
    exact (lineBody_isPrefix _).trans (List.prefix_append ..)
  · exact ⟨[], by rw [firstLine_of_notMem h, List.append_nil]⟩

/-- Blank characters behind a tight text do not change its first line but at its end, and there only if
the text is a single line. -/
theorem exists_firstLine_append (hfront : IsTight front) (hback : ink back = []) :
    ∃ tail, ink tail = [] ∧ firstLine (front ++ back) = firstLine front ++ tail ∧
      (tail = [] ∨ firstLine front = front) := by
  by_cases hfeed : '\n' ∈ front
  · exact ⟨[], rfl, by rw [firstLine_append_of_mem hfeed, List.append_nil], .inl rfl⟩
  · have hreturn : front.getLast? ≠ some '\r' := fun h => absurd (hfront.last _ h) (by decide)
    refine ⟨firstLine back, ?_, ?_, .inr (firstLine_of_notMem hfeed)⟩
    · exact List.prefix_nil.mp (hback ▸ (firstLine_isPrefix back).filter _)
    · rw [firstLine_append hfeed hreturn, firstLine_of_notMem hfeed]

end TextChunking
