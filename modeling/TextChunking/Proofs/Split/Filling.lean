import TextChunking.Proofs.Text.Trimming
import TextChunking.Split.Packing
/-!
# Packing as a recursion

`pack` folds units into a `Packing` that counts the length of its buffer. The count is right at every
step (`Packing.Counted`), so the fold does what `fill` does, which recurs on the units and looks at the
buffer itself (`pack_eq_fill`). What holds of every piece of a packing is then proved by one induction
over the units; the first such fact is that all pieces are tight and within the bound
(`pack_isPiece`).
-/

namespace TextChunking

/-- The piece that is being filled, if anything is in it. -/
def pending (buffer : List Char) : List (List Char) := if buffer = [] then [] else [buffer]

@[simp] theorem pending_nil : pending [] = [] := rfl

/-- A buffer with something in it is a piece by itself. -/
theorem pending_of_ne_nil {buffer : List Char} (h : buffer ≠ []) : pending buffer = [buffer] :=
  if_neg h

/-- The pieces of units behind a piece that is being filled. -/
def fill (maxSize : Nat) (separator : List Char) (oversized : List Char → List (List Char))
    (buffer : List Char) : List (List Char) → List (List Char)
  | [] => pending buffer
  | unit :: rest =>
    if maxSize < unit.length then
      pending buffer ++ oversized unit ++ fill maxSize separator oversized [] rest
    else if buffer = [] then fill maxSize separator oversized unit rest
    else if buffer.length + separator.length + unit.length ≤ maxSize then
      fill maxSize separator oversized (buffer ++ separator ++ unit) rest
    else buffer :: fill maxSize separator oversized unit rest

variable {maxSize : Nat} {separator : List Char} {oversized : List Char → List (List Char)}

/-! ### The fold is the recursion -/

namespace Packing

variable {packing : Packing}

/-- A packing whose count is the length of what it holds. -/
def Counted (packing : Packing) : Prop := packing.bufferSize = packing.buffer.length

/-- Finishing the piece that is being filled puts it behind the others. -/
theorem toList_pieces_flush (packing : Packing) :
    packing.flush.pieces.toList = packing.pieces.toList ++ pending packing.buffer := by
  unfold flush pending
  by_cases h : packing.buffer = [] <;> simp [h]

/-- Nothing is being filled behind a finished piece. -/
@[simp] theorem buffer_flush (packing : Packing) : packing.flush.buffer = [] := by
  unfold flush
  by_cases h : packing.buffer = [] <;> simp [h]

/-- Finishing a piece keeps the count right. -/
theorem Counted.flush (h : packing.Counted) : packing.flush.Counted := by
  unfold Counted Packing.flush at *
  by_cases hbuffer : packing.buffer = []
  · simpa [hbuffer] using h
  · simp [hbuffer]

/-- Putting a unit behind the buffer keeps the count right. -/
theorem Counted.append (h : packing.Counted) (unit : List Char) :
    (packing.append separator unit).Counted := by
  unfold Counted Packing.append at *
  by_cases hbuffer : packing.buffer = []
  · simp [hbuffer, h]
  · simp [hbuffer, h]
    omega

/-- One unit keeps the count right. -/
theorem Counted.step (h : packing.Counted) (unit : List Char) :
    (packing.step maxSize separator oversized unit).Counted := by
  unfold Packing.step
  split
  · exact h.flush
  · split
    · exact h.append unit
    · exact h.flush.append unit

/-- A unit that joins the buffer finishes nothing. -/
@[simp] theorem pieces_append (unit : List Char) :
    (packing.append separator unit).pieces = packing.pieces := by
  unfold append
  split <;> rfl

/-- A unit is alone in an empty buffer, and stands behind a separator in another. -/
theorem buffer_append (unit : List Char) :
    (packing.append separator unit).buffer =
      if packing.buffer = [] then unit else packing.buffer ++ separator ++ unit := by
  unfold append
  by_cases h : packing.buffer = [] <;> simp [h]

/-- Folding units into a packing whose count is right gives the pieces that it has and those of the
recursion. -/
theorem toList_pieces_foldl (h : packing.Counted) (units : List (List Char)) :
    (units.foldl (Packing.step maxSize separator oversized) packing).flush.pieces.toList =
      packing.pieces.toList ++ fill maxSize separator oversized packing.buffer units := by
  induction units generalizing packing with
  | nil => rw [List.foldl_nil, toList_pieces_flush, fill]
  | cons unit rest ih =>
    rw [List.foldl_cons, ih (h.step unit), fill]
    by_cases hlarge : maxSize < unit.length
    · rw [if_pos hlarge, step_of_oversized hlarge]
      have hbuffer : (packing.step maxSize separator oversized unit).buffer = [] := by
        simp [step, hlarge]
      rw [hbuffer]
      simp [toList_pieces_flush]
    · rw [if_neg hlarge]
      by_cases hempty : packing.buffer = []
      · have hfits : packing.fits unit.length separator.length maxSize = true := by
          simp [fits, hempty, Nat.le_of_not_lt hlarge]
        rw [step_of_fits hlarge hfits, buffer_append, pieces_append, if_pos hempty, if_pos hempty]
      · rw [if_neg hempty]
        by_cases hroom : packing.buffer.length + separator.length + unit.length ≤ maxSize
        · have hfits : packing.fits unit.length separator.length maxSize = true := by
            rw [← h] at hroom
            simp [fits, hempty, hroom]
          rw [step_of_fits hlarge hfits, buffer_append, pieces_append, if_neg hempty, if_pos hroom]
        · have hfits : packing.fits unit.length separator.length maxSize = false := by
            rw [← h] at hroom
            simp [fits, hempty, Nat.lt_of_not_le hroom]
          rw [step_of_full hlarge hfits, buffer_append, pieces_append, buffer_flush, if_pos rfl,
            if_neg hroom, toList_pieces_flush, pending_of_ne_nil hempty]
          simp

end Packing

/-- Packing is filling pieces from an empty one on. -/
theorem pack_eq_fill (units : List (List Char)) :
    pack maxSize separator oversized units =
      fill maxSize separator oversized [] (packable units) := by
  have h : ({} : Packing).Counted := rfl
  simpa [pack] using Packing.toList_pieces_foldl h (packable units)

/-- What is packed is tight. -/
theorem isTight_of_mem_packable {units : List (List Char)} {unit : List Char}
    (h : unit ∈ packable units) : IsTight unit := by
  simp only [packable, List.mem_filter, List.mem_map] at h
  obtain ⟨⟨text, -, rfl⟩, hne⟩ := h
  exact isTight_trim (by simpa using hne)

/-! ### The pieces of a packing -/

/-- A tight text that is small enough for a piece. -/
structure IsPiece (maxSize : Nat) (text : List Char) : Prop where
  tight : IsTight text
  length_le : text.length ≤ maxSize

/-- Filling keeps to tight pieces within the bound, if what takes the place of the oversized units
does. -/
theorem fill_isPiece {buffer : List Char} {units : List (List Char)}
    (hbuffer : buffer = [] ∨ IsPiece maxSize buffer) (hunits : ∀ unit ∈ units, IsTight unit)
    (hoversized : ∀ unit ∈ units, maxSize < unit.length →
      ∀ piece ∈ oversized unit, IsPiece maxSize piece) :
    ∀ piece ∈ fill maxSize separator oversized buffer units, IsPiece maxSize piece := by
  have hpending : ∀ text, (text = [] ∨ IsPiece maxSize text) →
      ∀ piece ∈ pending text, IsPiece maxSize piece := by
    rintro text (rfl | htext) piece hpiece
    · simp at hpiece
    · rw [pending_of_ne_nil htext.tight.ne_nil, List.mem_singleton] at hpiece
      rwa [hpiece]
  induction units generalizing buffer with
  | nil => exact hpending buffer hbuffer
  | cons unit rest ih =>
    have hunit : IsTight unit := hunits unit List.mem_cons_self
    have hrest : ∀ text, (text = [] ∨ IsPiece maxSize text) →
        ∀ piece ∈ fill maxSize separator oversized text rest, IsPiece maxSize piece := by
      intro text htext
      exact ih htext (fun other hother => hunits other (List.mem_cons_of_mem _ hother))
        (fun other hother => hoversized other (List.mem_cons_of_mem _ hother))
    rw [fill]
    split
    · rename_i hlarge
      intro piece hpiece
      simp only [List.mem_append] at hpiece
      rcases hpiece with (hpiece | hpiece) | hpiece
      · exact hpending buffer hbuffer piece hpiece
      · exact hoversized unit List.mem_cons_self hlarge piece hpiece
      · exact hrest [] (.inl rfl) piece hpiece
    · rename_i hlarge
      have hpiece : IsPiece maxSize unit := ⟨hunit, Nat.le_of_not_lt hlarge⟩
      rcases hbuffer with rfl | hbuffer
      · rw [if_pos rfl]
        exact hrest unit (.inr hpiece)
      · rw [if_neg hbuffer.tight.ne_nil]
        split
        · rename_i hroom
          refine hrest _ (.inr ⟨hbuffer.tight.join hunit separator, ?_⟩)
          simpa [Nat.add_assoc] using hroom
        · intro piece hmem
          rcases List.mem_cons.mp hmem with rfl | hmem
          · exact hbuffer
          · exact hrest unit (.inr hpiece) piece hmem

/-- All pieces of a packing are tight and within the bound, if what takes the place of the oversized
units is. -/
theorem pack_isPiece {units : List (List Char)}
    (hoversized : ∀ unit, maxSize < unit.length → ∀ piece ∈ oversized unit, IsPiece maxSize piece) :
    ∀ piece ∈ pack maxSize separator oversized units, IsPiece maxSize piece := by
  rw [pack_eq_fill]
  exact fill_isPiece (.inl rfl) (fun unit hunit => isTight_of_mem_packable hunit)
    (fun unit _ => hoversized unit)

end TextChunking
