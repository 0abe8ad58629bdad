import Mathlib.Data.List.Flatten
import TextChunking.Proofs.Text.Trimming
/-!
# Joined texts

Texts are joined with the same separator between any two neighbours. A join of more texts is a join of
joins (`intercalate_append`), its length counts each separator once (`length_intercalate`), so leaving texts
out makes it no longer (`length_intercalate_le`), and it is tight if the texts are (`IsTight.intercalate`).
-/

namespace TextChunking

variable {separator text : List Char} {texts others : List (List Char)}

/-- Two rows of texts are joined with one separator between them. -/
theorem intercalate_append (separator : List Char) (hne : texts ≠ []) (hothers : others ≠ []) :
    separator.intercalate (texts ++ others) =
      separator.intercalate texts ++ separator ++ separator.intercalate others := by
  induction texts with
  | nil => exact absurd rfl hne
  | cons first rest ih =>
    by_cases hrest : rest = []
    · rw [hrest, List.singleton_append, List.intercalate_cons_of_ne_nil hothers,
        List.intercalate_singleton]
    · have happend : rest ++ others ≠ [] := List.append_ne_nil_of_left_ne_nil hrest others
      rw [List.cons_append, List.intercalate_cons_of_ne_nil happend, ih hrest,
        List.intercalate_cons_of_ne_nil hrest]
      simp only [List.append_assoc]

/-- One more text is joined with one more separator. -/
theorem intercalate_concat (separator text : List Char) (hne : texts ≠ []) :
    separator.intercalate (texts ++ [text]) = separator.intercalate texts ++ separator ++ text := by
  rw [intercalate_append separator hne (List.cons_ne_nil text []), List.intercalate_singleton]

/-- With nothing between them, texts are joined end to end. -/
theorem nil_intercalate (texts : List (List Char)) : [].intercalate texts = texts.flatten := by
  induction texts with
  | nil => rfl
  | cons first rest ih =>
    by_cases hrest : rest = []
    · simp [hrest]
    · rw [List.intercalate_cons_of_ne_nil hrest, ih, List.append_nil, List.flatten_cons]

/-! ### Lengths -/

/-- The length of joined texts, each separator counted once. -/
theorem length_intercalate (separator : List Char) (texts : List (List Char)) :
    (separator.intercalate texts).length =
      texts.flatten.length + (texts.length - 1) * separator.length := by
  induction texts with
  | nil => simp
  | cons first rest ih =>
    cases rest with
    | nil => simp
    | cons second rest =>
      rw [List.intercalate_cons_cons, List.length_append, List.length_append, ih]
      simp only [List.flatten_cons, List.length_append, List.length_cons, Nat.add_sub_cancel, Nat.succ_mul]
      omega

/-- Fewer texts are no longer when they are joined. -/
theorem length_intercalate_le (h : texts.Sublist others) (separator : List Char) :
    (separator.intercalate texts).length ≤ (separator.intercalate others).length := by
  have hlength : texts.flatten.length ≤ others.flatten.length := h.flatten.length_le
  have hcount : (texts.length - 1) * separator.length ≤ (others.length - 1) * separator.length :=
    Nat.mul_le_mul_right _ (Nat.sub_le_sub_right h.length_le 1)
  rw [length_intercalate, length_intercalate]
  omega

/-- A text is no longer than what it is joined to. -/
theorem length_le_intercalate (h : text ∈ texts) (separator : List Char) :
    text.length ≤ (separator.intercalate texts).length := by
  simpa using length_intercalate_le (List.singleton_sublist.mpr h) separator

/-- Texts that are not empty do not join to an empty one. -/
theorem intercalate_ne_nil (hne : texts ≠ []) (h : ∀ text ∈ texts, text ≠ []) :
    separator.intercalate texts ≠ [] := by
  obtain ⟨text, htext⟩ := List.exists_mem_of_ne_nil texts hne
  have hpos : 0 < text.length := List.length_pos_iff.mpr (h text htext)
  exact List.length_pos_iff.mp (Nat.lt_of_lt_of_le hpos (length_le_intercalate htext separator))

/-! ### Tight texts -/

/-- Joined with a separator, tight texts are tight as well. -/
theorem IsTight.intercalate (separator : List Char) (hne : texts ≠ [])
    (h : ∀ text ∈ texts, IsTight text) : IsTight (separator.intercalate texts) := by
  induction texts with
  | nil => exact absurd rfl hne
  | cons first rest ih =>
    obtain ⟨hfirst, hrest⟩ := List.forall_mem_cons.mp h
    by_cases hnil : rest = []
    · rwa [hnil, List.intercalate_singleton]
    · rw [List.intercalate_cons_of_ne_nil hnil]
      exact hfirst.join (ih hnil hrest) separator

end TextChunking
