import Mathlib.Data.List.Nodup
import TextChunking.Proofs.Json.Lookups
import TextChunking.Proofs.Split.Elementwise
/-!
# Elements that are written and read again

A parse result holds the elements of its layout as values, which are read leniently. An element that was
written as a value is read as it was, however much the readers would have forgiven, but for coordinates that
JSON has no number for (`Element.ofFields_toValue`). **Theorem** (`splitResult_ofElements`): so nothing is
skipped of a parse result that was put together from elements; the blank ones are reported, and the others have
the chunks that they have as elements.

Each field has a writer and a reader of its own, and the two are inverse on what the field can hold
(`looseString_ofOption`, `looseFloat_ofOption`, `loosePages_ofOption`). The fields stand in a value in the order
of their names, which no reader sees (`Element.ofFields_congr`).
-/

namespace TextChunking

open Json

/-! ### Single fields -/

/-- A text is read back, and so is its absence. -/
theorem looseString_ofOption (text : Option String) :
    looseString (Value.ofOption .string text) = text := by
  cases text <;> rfl

/-- A coordinate is read as it was if there is a number for it, and else it is not there. -/
theorem looseFloat_ofOption (coordinate : Option Float) :
    looseFloat (Value.ofOption .ofFloat coordinate) = coordinate.filter Float.isFinite := by
  cases coordinate with
  | none => rfl
  | some x =>
    cases h : x.isFinite <;>
      simp [Value.ofOption, Value.ofFloat, looseFloat, Number.toFloat, Option.filter, h]

/-- An integer that a signed 64-bit word holds. -/
def IsSignedWord (i : Int) : Prop := -Int.ofNat signedLimit ≤ i ∧ i < Int.ofNat signedLimit

/-- A number is read back if it is a signed word. -/
theorem looseInt_ofInt {i : Int} (h : IsSignedWord i) : looseInt (Value.ofInt i) = some i := by
  have hle : i ≤ Int.ofNat signedLimit - 1 := Int.le_sub_one_of_lt h.2
  rw [Value.ofInt, looseInt, Number.toSigned, Int.min_eq_left hle]

namespace PageNumber

/-- Pages that are signed 64-bit integers, as all pages of an element are. -/
def IsWord : PageNumber → Prop
  | .many pages => ∀ page ∈ pages, IsSignedWord page
  | .one page => IsSignedWord page

/-- Pages are read back, in a list or alone, if they are words. -/
theorem loosePages_toValue {pages : PageNumber} (h : pages.IsWord) :
    loosePages pages.toValue = some pages := by
  cases pages with
  | one page =>
    rw [toValue, Value.ofInt, loosePages]
    · rw [← Value.ofInt, looseInt_ofInt h, Option.map_some]
    · nofun
  | many pages =>
    have hitems : (pages.map Value.ofInt).map (fun item => (looseInt item).getD 0) = pages := by
      rw [List.map_map]
      refine (List.map_congr_left fun page hpage => ?_).trans (List.map_id pages)
      simp [looseInt_ofInt (h page hpage)]
    rw [toValue, loosePages, hitems]

/-- Pages that may be absent are read back. -/
theorem loosePages_ofOption {pages : Option PageNumber} (h : ∀ found ∈ pages, found.IsWord) :
    loosePages (Value.ofOption toValue pages) = pages := by
  cases pages with
  | none => rfl
  | some found => exact loosePages_toValue (h found rfl)

end PageNumber

/-! ### A whole element -/

namespace Element

/-- The element without the coordinates that are infinite or no numbers at all. -/
def finite (element : Element) : Element :=
  { element with
    x := element.x.filter Float.isFinite
    y := element.y.filter Float.isFinite
    width := element.width.filter Float.isFinite
    height := element.height.filter Float.isFinite }

/-- Fields are read by their names, in whatever order they stand. -/
theorem ofFields_congr {fields others : List (String × Value)}
    (h : ∀ name, Members.get? name fields = Members.get? name others) : ofFields fields = ofFields others := by
  simp only [ofFields, h]

/-- No two fields of an element have the same name. -/
theorem nodup_fieldNames : fieldNames.Nodup := by decide

/-- An element is written with all its fields, and these are read as they were. -/
theorem ofFields_toValue {element : Element} (h : ∀ pages ∈ element.pages, pages.IsWord) :
    ∃ fields, element.toValue = .object fields ∧ fields.map Prod.fst = fieldNames ∧
      ofFields fields = .ok element.finite := by
  obtain ⟨text, kind, subkind, pages, id, markdown, x, y, width, height⟩ := element
  refine ⟨_, rfl, rfl, ?_⟩
  calc ofFields _ = .ok
        { text
          kind := looseString (.ofOption .string kind)
          subkind := looseString (.ofOption .string subkind)
          pages := loosePages (.ofOption PageNumber.toValue pages)
          id := looseString (.ofOption .string id)
          markdown := looseString (.ofOption .string markdown)
          x := looseFloat (.ofOption .ofFloat x)
          y := looseFloat (.ofOption .ofFloat y)
          width := looseFloat (.ofOption .ofFloat width)
          height := looseFloat (.ofOption .ofFloat height) } := by cases text <;> rfl
    _ = _ := by
      simp only [looseString_ofOption, looseFloat_ofOption, PageNumber.loosePages_ofOption h, finite]

/-- An element is read back but for coordinates that are not finite, which come back as absent. -/
theorem ofValue_toValue {element : Element} (h : ∀ pages ∈ element.pages, pages.IsWord) :
    ofValue element.toValue = .ok element.finite := by
  obtain ⟨fields, hvalue, -, hfields⟩ := ofFields_toValue h
  rw [hvalue, ofValue, hfields]

end Element

/-! ### Many elements -/

namespace ParseResult

/-- A parse result that is put together from elements has these elements. -/
theorem elements_ofElements {elements : List Element}
    (h : ∀ element ∈ elements, ∀ pages ∈ element.pages, pages.IsWord) (markdown : Option String) :
    (ofElements elements markdown).elements = elements.map fun element => .ok element.finite := by
  rw [ParseResult.elements, ofElements, List.map_map]
  refine List.map_congr_left fun element helement => ?_
  obtain ⟨fields, hvalue, hnames, hfields⟩ := Element.ofFields_toValue (h element helement)
  have hkeys : (fields.map Prod.fst).Nodup := hnames ▸ Element.nodup_fieldNames
  rw [Function.comp_apply, hvalue, ← hfields]
  exact Element.ofFields_congr (Members.get?_ofPairs hkeys)

end ParseResult

namespace Splitter

/-- What is noted on elements that can all be read. -/
theorem notes_map_ok (index : Nat) (elements : List Element) :
    notes index (elements.map .ok) =
      (elements.zipIdx index).filterMap fun (element, place) =>
        if isBlankText element.content then some (.emptyElement place) else none := by
  rw [notes, List.zipIdx_map, List.filterMap_map]
  refine List.filterMap_congr fun entry _ => ?_
  obtain ⟨element, place⟩ := entry
  have hblank := element.candidate?_isNone_iff place
  simp only [Function.comp_apply, Prod.map_apply, id, note?, hblank]

/-- The chunks of elements that can all be read are those of their candidates in turn. -/
theorem chunksAlone_map_ok (splitter : Splitter) (index : Nat) (elements : List Element) :
    splitter.chunksAlone index (elements.map .ok) =
      (elements.zipIdx index).flatMap fun (element, place) =>
        (element.candidate? place).toList.flatMap splitter.refine := by
  rw [chunksAlone, List.zipIdx_map, List.flatMap_map]
  rfl

/-- **Elements are not changed by being written and read.** Each is read as it was, without coordinates that
are infinite or no numbers at all; the pages are signed 64-bit integers. So a parse result that consists of
elements reports exactly those of them that are blank, in their order, and skips none; and its chunks are those
of the elements themselves, but for the identifiers. -/
theorem splitResult_ofElements (splitter : Splitter) {elements : List Element}
    (hwords : ∀ element ∈ elements, ∀ pages ∈ element.pages, pages.IsWord) :
    (∀ element ∈ elements, Element.ofValue element.toValue = .ok element.finite) ∧
    (ParseResult.ofElements elements none).elements = elements.map (fun element => .ok element.finite) ∧
    (splitter.splitResult (.ofElements elements none)).diagnostics =
      (elements.zipIdx.filterMap fun (element, index) =>
        if isBlankText element.content then some (.emptyElement index) else none) ∧
    (splitter.splitResult (.ofElements elements none)).chunks.map Chunk.anonymous =
      (elements.zipIdx.flatMap fun (element, index) =>
        (element.finite.candidate? index).toList.flatMap splitter.refine).map Chunk.anonymous := by
  have hread := ParseResult.elements_ofElements hwords none
  have hmap : elements.map (fun element => .ok element.finite) =
      (elements.map Element.finite).map (Except.ok : Element → Except ElementFault Element) := by
    rw [List.map_map]
    rfl
  have hnone : ∀ markdown, ¬ FallsBack splitter (.ofElements elements none) markdown :=
    fun _ h => nomatch h.2.1
  refine ⟨fun element helement => Element.ofValue_toValue (hwords element helement), hread, ?_, ?_⟩
  · rw [splitResult_of_not_fallsBack hnone, hread, hmap, notes_map_ok, List.zipIdx_map,
      List.filterMap_map]
    rfl
  · rw [splitResult_of_not_fallsBack hnone, resultShares, map_anonymous_shares, hread, hmap,
      chunksAlone_map_ok, List.zipIdx_map, List.flatMap_map]
    rfl

/-- The least and the greatest page, an identifier that is empty, and coordinates of which one is no number and
one infinite. A blank element has an empty list of pages. -/
theorem splitResult_ofElements_limits :
    let splitter : Splitter := ⟨3, 0, by decide⟩
    let live : Element :=
      { text := some "ab\n\ncd", id := some "", pages := some (.many [-9223372036854775808, 9223372036854775807])
        x := some (0.0 / 0.0), y := some 1.5, width := some (1.0 / 0.0) }
    let blank : Element := { text := some " ", pages := some (.many []) }
    let output := splitter.splitResult (.ofElements [live, blank] none)
    Element.ofValue live.toValue = .ok { live with x := none, width := none } ∧
    output.diagnostics = [.emptyElement 1] ∧ output.chunks.map Chunk.content = ["ab", "cd"] ∧
    output.chunks.map Chunk.page = [-9223372036854775808, -9223372036854775808] := by
  intro splitter live blank output
  have hwords : ∀ element ∈ [live, blank], ∀ pages ∈ element.pages, pages.IsWord := by
    have hlow : IsSignedWord (-9223372036854775808) := by unfold IsSignedWord; decide
    have hhigh : IsSignedWord 9223372036854775807 := by unfold IsSignedWord; decide
    simp [live, blank, PageNumber.IsWord, hlow, hhigh]
  obtain ⟨hread, -, hdiagnostics, hchunks⟩ := splitResult_ofElements splitter hwords
  have hfinite : live.finite = { live with x := none, width := none } := by rfl
  refine ⟨?_, hdiagnostics.trans (by decide), ?_, ?_⟩
  · rw [hread live List.mem_cons_self, hfinite]
  · have hcontents := congrArg (List.map Chunk.content) hchunks
    rw [List.map_map, List.map_map] at hcontents
    exact hcontents.trans (by decide +kernel)
  · have hpages := congrArg (List.map Chunk.page) hchunks
    rw [List.map_map, List.map_map] at hpages
    exact hpages.trans (by decide +kernel)

end Splitter

end TextChunking
