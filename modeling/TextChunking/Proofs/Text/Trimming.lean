import Mathlib.Data.List.DropRight
import TextChunking.Text.Basic
/-!
# Ink and tight texts

The ink of a text is what trimming can never touch: `trim` drops blank characters from both ends
(`exists_eq_append_trim`), so it leaves the ink alone (`ink_trim`) and gives nothing back exactly for a
text without ink (`trim_eq_nil_iff_ink`). A text is *tight* if it is not empty and begins and ends with
ink. Trimming makes every other text tight (`isTight_trim`) and changes no tight text
(`IsTight.trim_eq`), and tight texts stay tight when they are joined (`IsTight.join`).
-/

namespace TextChunking

/-! ### Ink -/

@[simp] theorem ink_nil : ink [] = [] := rfl

/-- The ink of two texts in a row is that of either. -/
@[simp] theorem ink_append (front back : List Char) : ink (front ++ back) = ink front ++ ink back :=
  List.filter_append ..

/-- A text without ink is a blank one. -/
theorem ink_eq_nil_iff {text : List Char} : ink text = [] ↔ isBlankText text = true := by
  simp [ink, isBlankText, List.filter_eq_nil_iff]

/-- A text has no ink exactly if all of its characters are blank. -/
theorem ink_eq_nil_iff_forall {text : List Char} : ink text = [] ↔ ∀ c ∈ text, isBlank c = true := by
  rw [ink_eq_nil_iff, isBlankText, List.all_eq_true]

/-- Nothing is left of a text exactly if it has no ink. -/
theorem trim_eq_nil_iff_ink {text : List Char} : trim text = [] ↔ ink text = [] := by
  rw [trim_eq_nil_iff, ink_eq_nil_iff]

/-- The number of characters with ink is at most that of all characters. -/
theorem length_ink_le (text : List Char) : (ink text).length ≤ text.length :=
  List.length_filter_le ..

/-- The blank characters at the front of a text end where its ink begins. -/
theorem takeWhile_isBlank_append {front : List Char} (h : ink front ≠ []) (back : List Char) :
    (front ++ back).takeWhile isBlank = front.takeWhile isBlank := by
  have hshort : (front.takeWhile isBlank).length ≠ front.length := by
    intro hlength
    have hall : front.takeWhile isBlank = front := (List.takeWhile_sublist _).eq_of_length hlength
    exact h (ink_eq_nil_iff_forall.mpr fun c hc => List.mem_takeWhile_imp (hall.symm ▸ hc))
  rw [List.takeWhile_append, if_neg hshort]

/-! ### What trimming takes away -/

/-- Trimming takes a blank text off the front and another off the end. -/
theorem exists_eq_append_trim (text : List Char) :
    ∃ front back, text = front ++ trim text ++ back ∧ ink front = [] ∧ ink back = [] := by
  refine ⟨text.takeWhile isBlank, (trimLeft text).rtakeWhile isBlank, ?_, ?_, ?_⟩
  · have hright : trim text ++ (trimLeft text).rtakeWhile isBlank = trimLeft text :=
      List.rdropWhile_append_rtakeWhile
    rw [List.append_assoc, hright]
    exact (List.takeWhile_append_dropWhile ..).symm
  · exact ink_eq_nil_iff_forall.mpr fun _ hc => List.mem_takeWhile_imp hc
  · exact ink_eq_nil_iff_forall.mpr fun _ hc => List.mem_rtakeWhile_imp hc

/-- Trimming leaves a part of the text. -/
theorem trim_isInfix (text : List Char) : trim text <:+: text := by
  obtain ⟨front, back, heq, -, -⟩ := exists_eq_append_trim text
  exact ⟨front, back, heq.symm⟩

/-- Trimming leaves the ink of a text alone. -/
@[simp] theorem ink_trim (text : List Char) : ink (trim text) = ink text := by
  obtain ⟨front, back, heq, hfront, hback⟩ := exists_eq_append_trim text
  conv_rhs => rw [heq]
  simp [hfront, hback]

/-- Trimming makes no text longer. -/
theorem length_trim_le (text : List Char) : (trim text).length ≤ text.length := by
  obtain ⟨front, back, heq, -, -⟩ := exists_eq_append_trim text
  conv_rhs => rw [heq]
  simp only [List.length_append]
  omega

/-- Blank characters at the end do not change what is left of a text. -/
theorem trim_append_of_ink_eq_nil (text : List Char) {back : List Char} (h : ink back = []) :
    trim (text ++ back) = trim text := by
  cases hleft : trimLeft text with
  | nil =>
    have htext : ink text = [] := by
      rw [ink_eq_nil_iff, ← dropWhile_isBlank_eq_nil_iff, ← trimLeft, hleft]
    rw [trim_eq_nil_iff_ink.mpr htext, trim_eq_nil_iff_ink, ink_append, htext, h, List.append_nil]
  | cons c rest =>
    have hboth : trimLeft (text ++ back) = trimLeft text ++ back := by
      rw [trimLeft, List.dropWhile_append, ← trimLeft, hleft]
      rfl
    rw [trim, trim, hboth, trimRight, trimRight, List.reverse_append,
      List.dropWhile_append_of_pos (by simpa using ink_eq_nil_iff_forall.mp h)]

/-- Blank characters at the front do not change what is left of a text. -/
theorem trim_append_of_ink_eq_nil_left {front : List Char} (h : ink front = []) (text : List Char) :
    trim (front ++ text) = trim text := by
  have hleft : trimLeft (front ++ text) = trimLeft text :=
    List.dropWhile_append_of_pos (ink_eq_nil_iff_forall.mp h)
  rw [trim, trim, hleft]

/-! ### Tight texts -/

/-- A text that is not empty and neither begins nor ends with a blank character. -/
structure IsTight (text : List Char) : Prop where
  ne_nil : text ≠ []
  head : ∀ c ∈ text.head?, isBlank c = false
  last : ∀ c ∈ text.getLast?, isBlank c = false

/-- The first item that is not dropped is not one of those to drop. -/
theorem head?_dropWhile_eq_false {α : Type} (p : α → Bool) (items : List α) :
    ∀ a ∈ (items.dropWhile p).head?, p a = false := by
  intro a ha
  have hnot := List.head?_dropWhile_not p items
  rw [Option.mem_def.mp ha] at hnot
  simpa using hnot

/-- Trimming makes a text tight, unless nothing is left of it. -/
theorem isTight_trim {text : List Char} (h : trim text ≠ []) : IsTight (trim text) := by
  refine ⟨h, ?_, ?_⟩
  · -- the front of the trimmed text is that of the text trimmed on the left
    obtain ⟨back, hback⟩ : trim text <+: trimLeft text := List.rdropWhile_prefix isBlank _
    intro c hc
    refine head?_dropWhile_eq_false isBlank text c ?_
    have hhead : (trim text ++ back).head? = (trim text).head? := by
      rw [List.head?_append_of_ne_nil _ h]
    rwa [← trimLeft, ← hback, hhead]
  · intro c hc
    rw [trim, trimRight, List.getLast?_reverse] at hc
    exact head?_dropWhile_eq_false isBlank _ c hc

namespace IsTight

variable {text front back : List Char}

/-- Trimming does not change a tight text. -/
theorem trim_eq (h : IsTight text) : trim text = text := by
  have hleft : trimLeft text = text := by
    rw [trimLeft, List.dropWhile_eq_self_iff]
    intro hpos
    have := h.head _ (List.head?_eq_some_head (List.ne_nil_of_length_pos hpos))
    simpa [List.head_eq_getElem] using this
  have hright : trimRight text = text := by
    change text.rdropWhile isBlank = text
    rw [List.rdropWhile_eq_self_iff]
    intro hne
    simp [h.last _ (List.getLast?_eq_some_getLast hne)]
  rw [trim, hleft, hright]

/-- There is nothing blank in front of a tight text. -/
theorem takeWhile_eq_nil (h : IsTight text) : text.takeWhile isBlank = [] := by
  obtain ⟨c, rest, rfl⟩ := List.exists_cons_of_ne_nil h.ne_nil
  exact List.takeWhile_cons_of_neg (by simp [h.head c rfl])

/-- A tight text has ink. -/
theorem ink_ne_nil (h : IsTight text) : ink text ≠ [] := by
  rw [Ne, ← trim_eq_nil_iff_ink, h.trim_eq]
  exact h.ne_nil

/-- Tight texts are tight when they are joined, whatever stands between them. -/
theorem join (hfront : IsTight front) (hback : IsTight back) (between : List Char) :
    IsTight (front ++ between ++ back) := by
  refine ⟨?_, ?_, ?_⟩
  · simp [hfront.ne_nil]
  · rw [List.append_assoc, List.head?_append_of_ne_nil _ hfront.ne_nil]
    exact hfront.head
  · rw [List.getLast?_append_of_ne_nil _ hback.ne_nil]
    exact hback.last

end IsTight

end TextChunking
