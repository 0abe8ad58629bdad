import Mathlib
import TextChunking.Json.Writer
/-!
# Texts without control characters

Strings escape every control character, numbers have none, and nothing stands between the tokens of a value
that is written without blanks. **Theorem** (`isControlFree_compactText`): so there is no control character
in the text of a value, whatever the value holds; in particular it is one line.
-/

namespace TextChunking.Json

/-- A text without control characters. -/
def IsControlFree (text : List Char) : Prop := ∀ c ∈ text, 0x20 ≤ c.toNat

namespace IsControlFree

/-- The empty text has no controls. -/
@[simp] theorem nil : IsControlFree [] := by simp [IsControlFree]

/-- A text has no controls exactly if neither its first character nor the rest is one or has one. -/
@[simp] theorem cons_iff {c : Char} {text : List Char} :
    IsControlFree (c :: text) ↔ 0x20 ≤ c.toNat ∧ IsControlFree text :=
  List.forall_mem_cons

/-- Two texts in a row have no controls exactly if neither has. -/
@[simp] theorem append_iff {front back : List Char} :
    IsControlFree (front ++ back) ↔ IsControlFree front ∧ IsControlFree back :=
  List.forall_mem_append

/-- Characters that all come from a text without controls are none either. -/
theorem of_subset {part text : List Char} (h : IsControlFree text) (hpart : part ⊆ text) :
    IsControlFree part :=
  fun c hc => h c (hpart hc)

/-- A text without controls is one line. -/
theorem newline_not_mem {text : List Char} (h : IsControlFree text) : '\n' ∉ text :=
  fun hmem => absurd (h _ hmem) (by decide)

/-- Digits are no controls. -/
theorem toDigits (n : Nat) : IsControlFree (Nat.toDigits 10 n) := by
  intro c hc
  have hdigit := Nat.isDigit_of_mem_toDigits (by decide) (by decide) hc
  simp only [Char.isDigit, ge_iff_le, Bool.and_eq_true, decide_eq_true_eq, UInt32.le_iff_toNat_le] at hdigit
  exact Nat.le_trans (by decide) hdigit.1

/-- Nor are zeros that fill up places. -/
theorem zeros (n : Nat) : IsControlFree (List.replicate n '0') := by
  intro c hc
  rw [List.eq_of_mem_replicate hc]
  decide

end IsControlFree

/-- A whole number is written with digits and a sign. -/
theorem isControlFree_intText (i : Int) : IsControlFree (intText i) := by
  cases i with
  | ofNat n => exact .toDigits n
  | negSucc n => exact IsControlFree.cons_iff.mpr ⟨by decide, .toDigits (n + 1)⟩

/-- A number with an exponent adds a point and the letter. -/
theorem isControlFree_exponential {digits exponent : List Char} (hdigits : IsControlFree digits)
    (hexponent : IsControlFree exponent) : IsControlFree (decimalText.exponential digits exponent) := by
  match digits with
  | [] => simpa [decimalText.exponential] using hexponent
  | [d] => simpa [decimalText.exponential, hexponent] using hdigits
  | d :: next :: rest => simpa [decimalText.exponential, hexponent] using hdigits

/-- In whichever of its forms a decimal number is written, it is made of its digits, zeros and marks. -/
theorem isControlFree_decimalText {digits : List Char} (h : IsControlFree digits) (lead : Int) :
    IsControlFree (decimalText digits lead) := by
  have hfront : ∀ n, IsControlFree (digits.take n) := fun n => h.of_subset (List.take_subset n digits)
  have hback : ∀ n, IsControlFree (digits.drop n) := fun n => h.of_subset (List.drop_subset n digits)
  cases lead with
  | ofNat e =>
    rw [decimalText]
    split
    · exact isControlFree_exponential h (by simp [IsControlFree.toDigits])
    · split <;> simp [h, hfront, hback, IsControlFree.zeros]
  | negSucc e =>
    rw [decimalText]
    split
    · exact isControlFree_exponential h (by simp [IsControlFree.toDigits])
    · simp [h, IsControlFree.zeros]

/-- Dropping zeros adds nothing. -/
theorem isControlFree_stripZeros {digits : List Char} (h : IsControlFree digits) :
    IsControlFree (stripZeros digits).1 := by
  refine h.of_subset fun c hc => ?_
  exact List.mem_reverse.mp ((List.dropWhile_sublist _).subset (List.mem_reverse.mp hc))

/-- A double is written without controls, and so are those that are not finite, as null. -/
theorem isControlFree_floatText (x : Float) : IsControlFree (floatText x) := by
  rw [floatText]
  split
  · simp
  · split <;> simp
  · rename_i negative mantissa exponent _
    have hsign : IsControlFree (if negative then ['-'] else []) := by cases negative <;> simp
    dsimp only
    split
    · simp [hsign]
    · exact IsControlFree.append_iff.mpr
        ⟨hsign, isControlFree_decimalText (isControlFree_stripZeros (.toDigits _)) _⟩

/-- A character of a string is escaped if it is a control, and stands for itself only if it is none. -/
theorem isControlFree_stringChar (c : Char) : IsControlFree (stringChar c) := by
  rw [stringChar]
  split
  · rename_i hspecial
    simp only [Bool.or_eq_true, beq_iff_eq] at hspecial
    rcases hspecial with rfl | rfl <;> simp
  split
  · simpa
  -- The five escapes of one letter, and then the one by number.
  iterate 5
    split
    · simp
  have hhex : ∀ n < 16, 0x20 ≤ (hexDigit n).toNat := by decide
  simp [hhex (c.toNat / 16) (by omega), hhex (c.toNat % 16) (by omega)]

/-- So a string has none, between its quotes. -/
theorem isControlFree_stringText (s : String) : IsControlFree (stringText s) := by
  have hchars : IsControlFree (s.toList.flatMap stringChar) := by
    intro c hc
    obtain ⟨written, -, hmem⟩ := List.mem_flatMap.mp hc
    exact isControlFree_stringChar written c hmem
  simp [stringText, hchars]

mutual

/-- A compact text has no controls, by induction on its value. -/
theorem isControlFree_compactText (value : Value) : IsControlFree value.compactText := by
  match value with
  | .null | .bool true | .bool false | .array [] | .object [] => simp [Value.compactText]
  | .number (.int i) => exact isControlFree_intText i
  | .number (.float x) => exact isControlFree_floatText x
  | .string s => exact isControlFree_stringText s
  | .array (item :: rest) =>
    simp [Value.compactText, isControlFree_compactText item, isControlFree_compactItems rest]
  | .object ((key, item) :: rest) =>
    simp [Value.compactText, isControlFree_stringText key, isControlFree_compactText item,
      isControlFree_compactMembers rest]

/-- Nor have the items of an array behind the first one. -/
theorem isControlFree_compactItems (items : List Value) : IsControlFree (compactItems items) := by
  match items with
  | [] => simp [compactItems]
  | item :: rest =>
    simp [compactItems, isControlFree_compactText item, isControlFree_compactItems rest]

/-- Nor have the members of an object behind the first one. -/
theorem isControlFree_compactMembers (members : List (String × Value)) :
    IsControlFree (compactMembers members) := by
  match members with
  | [] => simp [compactMembers]
  | (key, item) :: rest =>
    simp [compactMembers, isControlFree_stringText key, isControlFree_compactText item,
      isControlFree_compactMembers rest]

end

end TextChunking.Json
