import TextChunking.Chunk.Basic
import TextChunking.Layout.Element
import TextChunking.Text.Classes
import TextChunking.Text.Pattern
/-!
# The chunk of a layout element

An element whose text is not blank is a candidate for a chunk, of any size. `candidate?_isNone_iff` says
that only elements without ink give none.

Its title is a guess whether its text is one. Elements of a title type are titles whatever they say; any
other short text is its own title if it opens like a heading: with a number, a chapter or section sign,
a label and a colon, or a number sign. `title_eq` says that a title is never anything but the trimmed
text or nothing.
-/

namespace TextChunking

/-! ### Titles -/

/-- Texts of this many characters are too long to be a heading. -/
def headingLimit : Nat := 100

/-- The types of layout elements that are titles by definition. -/
def titleKinds : List String := ["title", "para_title"]

/-- The word that marks the subtypes of titles. -/
def titleWord : List Char := ['t', 'i', 't', 'l', 'e']

/-- The numerals that number the sections of a Chinese text. -/
def isNumeral (c : Char) : Bool := "一二三四五六七八九十".toList.contains c

/-- A character that is not blank. -/
def isInk (c : Char) : Bool := !isBlank c

/-- The ways in which a heading opens. -/
def headingPatterns : List Pattern :=
  [Pattern.run isDigit ++ [.char '.', .many isBlank] ++ Pattern.run isInk,
    [.char '第'] ++ Pattern.run isDigit ++ [.char '章', .many isBlank] ++ Pattern.run isInk,
    [.char '第'] ++ Pattern.run isDigit ++ [.char '节', .many isBlank] ++ Pattern.run isInk,
    Pattern.run isNumeral ++ [.char '、'] ++ Pattern.run isInk,
    Pattern.run isWordChar ++ [.many isBlank, .char ':', .many isBlank] ++ Pattern.run isInk,
    Pattern.run (fun c => c == '#') ++ [.many isBlank] ++ Pattern.run isInk]

/-- Whether `word` stands somewhere in a text. -/
def hasInfix (word : List Char) : List Char → Bool
  | [] => word.isEmpty
  | c :: rest => word.isPrefixOf (c :: rest) || hasInfix word rest

/-- Whether a subtype is that of a title. Only ASCII letters have a lower case that spells the word. -/
def isTitleSubkind (subkind : String) : Bool :=
  hasInfix titleWord (subkind.toList.map Char.toLower)

/-- Whether a trimmed text opens like a heading. -/
def isHeadingLike (text : List Char) : Bool :=
  !text.isEmpty && text.length < headingLimit && headingPatterns.any fun p => p.isAtFront text

/-- The title of an element with a given type, subtype and text; empty when there is none. -/
def title (kind subkind : String) (text : List Char) : List Char :=
  if titleKinds.contains kind || isTitleSubkind subkind || isHeadingLike (trim text) then trim text
  else []

/-- A title is the trimmed text or nothing. -/
theorem title_eq (kind subkind : String) (text : List Char) :
    title kind subkind text = trim text ∨ title kind subkind text = [] := by
  unfold title
  split <;> simp

/-! ### Candidates -/

namespace Element

/-- The type of an element that does not name one. -/
def defaultKind : String := "text"

/-- The text of an element, empty when there is none. -/
def content (element : Element) : List Char := (element.text.getD "").toList

/-- The identifier of an element that does not bring one. -/
def indexId (index : Nat) : String := s!"chunk_{index}"

/-- The box of an element, with zero for what is missing. -/
def position (element : Element) : Position :=
  { x := element.x.getD 0.0, y := element.y.getD 0.0, width := element.width.getD 0.0
    height := element.height.getD 0.0 }

/-- The candidate of the element at a place in the list, unless its text is blank. -/
def candidate? (index : Nat) (element : Element) : Option Chunk :=
  let content := trim element.content
  if content.isEmpty then none
  else
    let kind := element.kind.getD defaultKind
    let subkind := element.subkind.getD ""
    some
      { content := String.ofList content
        title := String.ofList (title kind subkind element.content)
        kind, subkind
        page := (element.pages.map PageNumber.first).getD 0
        id := element.id.getD (indexId index)
        markdown := element.markdown
        position := some element.position }

/-- Exactly the elements with a blank text have no candidate. -/
theorem candidate?_isNone_iff (index : Nat) (element : Element) :
    (element.candidate? index).isNone = true ↔ isBlankText element.content = true := by
  rw [← trim_eq_nil_iff, candidate?]
  by_cases h : trim element.content = [] <;> simp [h]

end Element

end TextChunking
