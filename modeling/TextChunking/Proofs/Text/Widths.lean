import TextChunking.Proofs.Text.Cutting
/-!
# How much a cut takes out of a text

A match takes at least one character for every piece of its pattern that stands for exactly one (`Pattern.width`), and a
separator takes one more. So the segments of a text are no longer than the text even with as many characters between
any two of them as their separator is wide (`Separator.length_cut_le`).
-/

namespace TextChunking

namespace Pattern

/-- The least number of characters that a match takes. -/
def width : Pattern → Nat
  | [] => 0
  | .one _ :: pattern => width pattern + 1
  | .many _ :: pattern => width pattern

/-- A match takes no fewer characters than its pattern is wide. -/
theorem length_add_width_le {pattern : Pattern} {text left : List Char} (h : pattern.match? text = some left) :
    left.length + pattern.width ≤ text.length := by
  induction pattern generalizing text with
  | nil =>
    rw [match?, Option.some.injEq] at h
    rw [h]
    exact Nat.le_refl _
  | cons piece pattern ih =>
    cases piece with
    | one p =>
      cases text with
      | nil => simp [match?] at h
      | cons c rest =>
        rw [match?, Option.ite_none_right_eq_some] at h
        have hrest := ih h.2
        rw [width, List.length_cons]
        omega
    | many p =>
      rw [match?] at h
      obtain ⟨given, kept, hrun, hnext⟩ := exists_of_retreat_eq_some h
      have hbehind := ih hnext
      -- the run is what is kept of it and what is given back
      have hlength : given.length + kept.length + (text.dropWhile p).length = text.length := by
        rw [← List.length_append, ← hrun, List.length_reverse, ← List.length_append,
          List.takeWhile_append_dropWhile]
      rw [List.length_append, List.length_reverse] at hbehind
      rw [width]
      omega

end Pattern

namespace Separator

/-- The least number of characters that a separator takes. -/
def width (separator : Separator) : Nat := separator.rest.width + 1

variable {separator : Separator}

/-- A match takes at least as many characters as the separator is wide. -/
theorem length_add_width_le {text left : List Char} (h : separator.match? text = some left) :
    left.length + separator.width ≤ text.length := by
  cases text with
  | nil => simp [match?] at h
  | cons c rest =>
    rw [match?, Option.ite_none_right_eq_some] at h
    have hrest := Pattern.length_add_width_le h.2
    rw [width, List.length_cons]
    omega

/-- A cut in progress: every segment that is finished from here on costs the text as many characters as the
separator is wide, except for the last one. -/
theorem length_cutFrom_le (separator : Separator) (segment : List Char) (cuts : List (List Char))
    (text : List Char) :
    (separator.cutFrom segment cuts text).flatten.length +
        (separator.cutFrom segment cuts text).length * separator.width ≤
      cuts.flatten.length + cuts.length * separator.width + segment.length + text.length +
        separator.width := by
  induction segment, cuts, text using cutFrom_induction separator with
  | finish segment cuts =>
    simp only [cutFrom, List.length_flatten, List.map_reverse, List.sum_reverse, List.map_cons,
      List.sum_cons, List.length_reverse, List.length_cons, List.length_nil, Nat.succ_mul]
    omega
  | separate segment cuts c rest left hmatch ih =>
    have hwidth := length_add_width_le hmatch
    rw [cutFrom_of_match hmatch]
    simp only [List.flatten_cons, List.length_append, List.length_reverse, List.length_cons, List.length_nil,
      Nat.succ_mul] at ih hwidth ⊢
    omega
  | extend segment cuts c rest hmatch ih =>
    rw [cutFrom_of_none hmatch]
    simp only [List.length_cons] at ih ⊢
    omega

/-- The segments of a text are no longer than the text, even with as many characters between any two of
them as the separator is wide. -/
theorem length_cut_le (separator : Separator) (text : List Char) :
    (separator.cut text).flatten.length + ((separator.cut text).length - 1) * separator.width ≤
      text.length := by
  have hle := separator.length_cutFrom_le [] [] text
  rw [← cut] at hle
  cases hcut : separator.cut text with
  | nil => simp
  | cons first others =>
    simp only [hcut, List.length_cons, List.length_nil, List.flatten_nil, Nat.succ_mul, Nat.zero_mul] at hle
    rw [List.length_cons, Nat.add_sub_cancel]
    omega

end Separator

end TextChunking
