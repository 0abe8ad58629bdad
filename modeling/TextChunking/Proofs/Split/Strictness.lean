import TextChunking.Proofs.Split.Elementwise
/-!
# What makes an element unreadable

Only the text of a layout element is read strictly, so that nothing but the text can spoil an object
(`Element.ofFields_eq_error_iff`). A value that is no object should be skipped. An array is not: it is
read as the fields of an element in their order (`IsPositional`). **Theorem** (`exists_skipped_iff`): the
elements that a split skips are those that should be (`IsFaulty`), except for such arrays.
-/

namespace TextChunking

open Json

/-- A value that may stand for the text of an element, null if there is none. -/
def Json.Value.IsText : Value → Prop
  | .null | .string _ => True
  | _ => False

namespace Element

/-- A value that is no object, or an object whose text is neither a string nor null. -/
def IsFaulty : Value → Prop
  | .object members => ∃ found, Members.get? "text" members = some found ∧ ¬ found.IsText
  | _ => True

/-- An array of no more items than an element has fields, the first of which can be its text. -/
def IsPositional : Value → Prop
  | .array items => items.length ≤ fieldNames.length ∧ ∀ first ∈ items.head?, first.IsText
  | _ => False

/-! ### Reading the fields -/

/-- No field but the text can be at fault. -/
theorem ofFields_eq_error_iff {fields : List (String × Value)} {fault : ElementFault} :
    ofFields fields = .error fault ↔ ∃ found, Members.get? "text" fields = some found ∧
      ¬ found.IsText ∧ fault = .textNotString found := by
  unfold ofFields
  cases htext : Members.get? "text" fields with
  | none => simp [htext]
  | some found => cases found <;> simp [htext, Value.IsText, eq_comm]

/-- Fields are refused exactly if the text is among them and is no text. -/
theorem exists_ofFields_eq_error_iff {fields : List (String × Value)} :
    (∃ fault, ofFields fields = .error fault) ↔
      ∃ found, Members.get? "text" fields = some found ∧ ¬ found.IsText := by
  constructor
  · rintro ⟨fault, hfault⟩
    obtain ⟨found, htext, hfound, -⟩ := ofFields_eq_error_iff.mp hfault
    exact ⟨found, htext, hfound⟩
  · rintro ⟨found, htext, hfound⟩
    exact ⟨_, ofFields_eq_error_iff.mpr ⟨found, htext, hfound, rfl⟩⟩

/-- The text of an element that is written by position comes first. -/
theorem get?_text_zip (items : List Value) :
    Members.get? "text" (fieldNames.zip items) = items.head? := by
  cases items <;> rfl

/-- An array gives no element if its fields give none, or if it has too many items. -/
theorem exists_ofValue_array_eq_error_iff {items : List Value} :
    (∃ fault, ofValue (.array items) = .error fault) ↔ ¬ IsPositional (.array items) := by
  have hfields : (∃ fault, ofFields (fieldNames.zip items) = .error fault) ↔
      ∃ found, items.head? = some found ∧ ¬ found.IsText := by
    rw [exists_ofFields_eq_error_iff, get?_text_zip]
  have hpositional : ¬ IsPositional (.array items) ↔
      fieldNames.length < items.length ∨ ∃ found, items.head? = some found ∧ ¬ found.IsText := by
    simp only [IsPositional, not_and_or, not_le, not_forall, exists_prop, Option.mem_def]
  rw [hpositional, ← hfields, ofValue]
  cases hread : ofFields (fieldNames.zip items) with
  | error fault => simp [bind, Except.bind]
  | ok element =>
    by_cases hlength : items.length ≤ fieldNames.length
    · simp [bind, Except.bind, hlength]
    · simp [bind, Except.bind, hlength, not_le.mp hlength]

/-- A value gives no element exactly if it is faulty and no array of fields. -/
theorem exists_ofValue_eq_error_iff {value : Value} :
    (∃ fault, ofValue value = .error fault) ↔ IsFaulty value ∧ ¬ IsPositional value := by
  cases value with
  | object members =>
    have hnot : ¬ IsPositional (.object members) := fun h => h
    rw [and_iff_left hnot]
    exact exists_ofFields_eq_error_iff
  | array items =>
    have hfaulty : IsFaulty (.array items) := trivial
    rw [and_iff_right hfaulty]
    exact exists_ofValue_array_eq_error_iff
  | _ => simp [ofValue, IsFaulty, IsPositional]

end Element

namespace Splitter

open Element

/-- The elements that a split skips are those that cannot be read. -/
theorem skipped_mem_diagnostics_iff (splitter : Splitter) {result : ParseResult} {i : Nat}
    {reason : String} :
    .skippedElement i reason ∈ (splitter.splitResult result).diagnostics ↔
      ∃ fault, result.elements[i]? = some (.error fault) ∧ reason = fault.message := by
  have hnotes : .skippedElement i reason ∈ (splitter.splitResult result).diagnostics ↔
      .skippedElement i reason ∈ notes 0 result.elements := by
    by_cases hfallback : ∃ markdown, FallsBack splitter result markdown
    · obtain ⟨markdown, hmarkdown⟩ := hfallback
      rw [splitResult_of_fallsBack hmarkdown]
      simp
    · rw [splitResult_of_not_fallsBack fun markdown h => hfallback ⟨markdown, h⟩]
  rw [hnotes, (reports_notes result.elements).skipped_iff]

/-- **Only the text is strict.** An element of a parse result is skipped exactly if it is no object, or
an object with a text that is neither a string nor null; but an array is an element too if its first item
can be the text and it has no more items than an element has fields. -/
theorem exists_skipped_iff (splitter : Splitter) (result : ParseResult) (i : Nat) :
    (∃ reason, .skippedElement i reason ∈ (splitter.splitResult result).diagnostics) ↔
      ∃ value, result.layouts[i]? = some value ∧ IsFaulty value ∧ ¬ IsPositional value := by
  simp only [skipped_mem_diagnostics_iff, ParseResult.elements, List.getElem?_map,
    Option.map_eq_some_iff]
  constructor
  · rintro ⟨_, fault, ⟨value, hvalue, hfault⟩, -⟩
    exact ⟨value, hvalue, exists_ofValue_eq_error_iff.mp ⟨fault, hfault⟩⟩
  · rintro ⟨value, hvalue, hunreadable⟩
    obtain ⟨fault, hfault⟩ := exists_ofValue_eq_error_iff.mpr hunreadable
    exact ⟨fault.message, fault, ⟨value, hvalue, hfault⟩, rfl⟩

/-- A text in an array by itself is no object, and yet it is split. -/
theorem splitResult_array_of_text :
    let splitter : Splitter := ⟨50, 0, by decide⟩
    let result : ParseResult := { layouts := [.array [.string "hello"]] }
    (∀ value ∈ result.layouts, IsFaulty value) ∧
      (splitter.splitResult result).diagnostics = [] ∧
      (splitter.splitResult result).chunks.map Chunk.content = ["hello"] := by
  refine ⟨?_, ?_, ?_⟩
  · intro value hvalue
    rw [List.mem_singleton.mp hvalue]
    trivial
  · decide +kernel
  · decide +kernel

end Splitter

end TextChunking
