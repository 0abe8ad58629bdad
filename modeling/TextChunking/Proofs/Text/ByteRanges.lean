import Mathlib.Data.List.Basic
import TextChunking.Proofs.Text.Runs
import TextChunking.Text.Basic
/-!
# Stretches of characters and of bytes

The bytes of the characters in front of a place end where the next character begins, or where the text ends
(`byteOffset`). So a stretch of characters is a stretch of bytes that begins and ends between characters
(`isProper_byteRange`), and what is cut out of the bytes there are the characters of the stretch
(`slice?_byteRange`).
-/

namespace TextChunking

/-- How many bytes the first characters of a text take. -/
def byteOffset (text : List Char) (place : Nat) : Nat := (String.ofList (text.take place)).utf8ByteSize

/-- The bytes of a stretch of characters. -/
def byteRange (text : List Char) (span : Span) : ByteRange :=
  ⟨byteOffset text span.start, byteOffset text span.stop⟩

variable {text : List Char} {span : Span} {place : Nat}

/-! ### The offsets of characters -/

/-- The first character begins with the first byte. -/
@[simp] theorem byteOffset_zero (text : List Char) : byteOffset text 0 = 0 := by
  simp [byteOffset]

/-- Every character pushes those behind it by its own width. -/
theorem byteOffset_succ (c : Char) (rest : List Char) (place : Nat) :
    byteOffset (c :: rest) (place + 1) = c.utf8Size + byteOffset rest place := by
  rw [byteOffset, List.take_succ_cons, String.ofList_cons, String.utf8ByteSize_append,
    String.utf8ByteSize_singleton, byteOffset]

/-- Behind the last character, the text ends. -/
theorem byteOffset_of_length_le (h : text.length ≤ place) :
    byteOffset text place = (String.ofList text).utf8ByteSize := by
  rw [byteOffset, List.take_of_length_le h]

/-- The bytes of the characters up to the end of a stretch are those up to its start and its own. -/
theorem byteOffset_stop (h : span.start ≤ span.stop) (text : List Char) :
    byteOffset text span.stop =
      byteOffset text span.start + (String.ofList (span.block text)).utf8ByteSize := by
  rw [byteOffset, byteOffset, Span.take_stop h, String.ofList_append, String.utf8ByteSize_append]

/-- There is one offset for each character. -/
@[simp] theorem length_offsetsFrom (offset : Nat) (text : List Char) :
    (offsetsFrom offset text).length = text.length := by
  induction text generalizing offset with
  | nil => rfl
  | cons c rest ih => rw [offsetsFrom, List.length_cons, List.length_cons, ih]

/-- The offset that is listed for a character is where it begins. -/
theorem getElem?_offsetsFrom (h : place < text.length) (offset : Nat) :
    (offsetsFrom offset text)[place]? = some (offset + byteOffset text place) := by
  induction text generalizing offset place with
  | nil => simp at h
  | cons c rest ih =>
    cases place with
    | zero => simp [offsetsFrom]
    | succ place =>
      rw [offsetsFrom, List.getElem?_cons_succ, ih (by simpa using h), byteOffset_succ, Nat.add_assoc]

/-! ### Slices -/

/-- The beginning of a character is a position of the string. -/
theorem isValid_byteOffset (text : List Char) (place : Nat) :
    String.Pos.Raw.IsValid (String.ofList text) ⟨byteOffset text place⟩ := by
  refine String.Pos.Raw.isValid_iff_exists_append.mpr
    ⟨String.ofList (text.take place), String.ofList (text.drop place), ?_, rfl⟩
  rw [← String.ofList_append, List.take_append_drop]

/-- The position behind the first characters of a text. -/
def posAt (text : List Char) (place : Nat) : (String.ofList text).Pos :=
  ⟨⟨byteOffset text place⟩, isValid_byteOffset text place⟩

/-- That position splits the string into the characters in front of it and those behind. -/
theorem splits_posAt (text : List Char) (place : Nat) :
    (posAt text place).Splits (String.ofList (text.take place)) (String.ofList (text.drop place)) where
  eq_append := by rw [← String.ofList_append, List.take_append_drop]
  offset_eq_rawEndPos := rfl

/-- A stretch of characters begins and ends between characters. -/
theorem isProper_byteRange (h : span.start ≤ span.stop) (text : List Char) :
    (byteRange text span).IsProper (String.ofList text) where
  first_isValid := isValid_byteOffset text span.start
  last_isValid := isValid_byteOffset text span.stop
  first_le_last := Nat.le.intro (byteOffset_stop h text).symm

/-- What the bytes of a stretch hold are its characters. -/
theorem slice?_byteRange (h : span.start ≤ span.stop) (text : List Char) :
    slice? (String.ofList text) (byteRange text span) = some (String.ofList (span.block text)) := by
  have hcopy : ∃ hle, ((String.ofList text).slice (posAt text span.start) (posAt text span.stop) hle).copy =
      String.ofList (span.block text) := by
    refine String.copy_slice_eq_iff_splits.mpr
      ⟨String.ofList (text.take span.start), String.ofList (text.drop span.stop), ?_, ?_⟩
    · rw [← String.ofList_append, Span.block_append_drop h]
      exact splits_posAt text span.start
    · rw [← String.ofList_append, ← Span.take_stop h]
      exact splits_posAt text span.stop
  obtain ⟨hle, hcopy⟩ := hcopy
  rw [slice?_of_isProper (isProper_byteRange h text), ← hcopy]
  exact congrArg some (String.extract_eq_copy_slice _ _ hle)

end TextChunking
