import TextChunking.Json.Record
import TextChunking.Json.Writer
import TextChunking.Number.Binary64
import TextChunking.Text.Basic
import TextChunking.Text.Quoted
/-!
# Layout elements

An element of a page layout, as a parsing service delivers it. Only its text is read strictly: any other
field that has an unexpected kind of value counts as absent, and a string may stand for a number, or a
number for a string. `Element.ofValue` reads a JSON value, and an `ElementFault` says why it is none.

An element names its pages by a list or by a single number. Only a list attributes a chunk to a page,
the first of the list (`PageNumber.first`). A parse result keeps the elements of a layout as raw values,
so that a malformed one does not spoil the others, and possibly the whole document as markdown.
-/

namespace TextChunking

open Json

/-! ### Page numbers -/

/-- The pages of a layout element. -/
inductive PageNumber where
  | many (pages : List Int)
  | one (page : Int)
  deriving Repr, DecidableEq

namespace PageNumber

/-- The page that a chunk is attributed to, zero when there is none. -/
def first : PageNumber → Int
  | .many pages => pages.headD 0
  | .one _ => 0

/-- The pages as a value. -/
def toValue : PageNumber → Value
  | .many pages => .array (pages.map Value.ofInt)
  | .one page => .ofInt page

/-- Reads a list of integers, or else a single one. -/
def read : Reader PageNumber := fun depth tree => do
  let _ ← Syntax.value? depth tree
  match Reader.list Reader.signed depth tree with
  | some pages => some (.many pages)
  | none => (Reader.signed depth tree).map .one

end PageNumber

/-! ### Elements -/

/-- A unit of a page layout. -/
structure Element where
  text : Option String := none
  kind : Option String := none
  subkind : Option String := none
  pages : Option PageNumber := none
  id : Option String := none
  markdown : Option String := none
  x : Option Float := none
  y : Option Float := none
  width : Option Float := none
  height : Option Float := none

/-- Why a value is not a layout element. -/
inductive ElementFault where
  /-- The text is there, but it is neither a string nor null. -/
  | textNotString (found : Value)
  /-- The value is neither an object nor an array. -/
  | notRecord (found : Value)
  /-- The array has more items than an element has fields. -/
  | tooManyItems (count : Nat)

/-! ### Lenient readers -/

/-- A string; a number or a truth value counts in its JSON spelling. -/
def looseString : Value → Option String
  | .string s => some s
  | .number n => some (String.ofList n.text)
  | .bool value => some (if value then "true" else "false")
  | _ => none

/-- A number; a string counts if it is a floating-point literal between blanks. -/
def looseFloat : Value → Option Float
  | .number n => some n.toFloat
  | .string s => readFloat? (trim s.toList)
  | _ => none

/-- An integer: a number is forced into the 64-bit range, and a string counts if it is an integer between
blanks. -/
def looseInt : Value → Option Int
  | .number n => some n.toSigned
  | .string s => readSigned? (trim s.toList)
  | _ => none

/-- Pages: a list, in which what is no number counts as zero, or a single number. -/
def loosePages : Value → Option PageNumber
  | .array items => some (.many (items.map fun item => (looseInt item).getD 0))
  | value => (looseInt value).map .one

namespace ElementFault

/-- What was found, in the words of a message. -/
def describe : Value → String
  | .null => "null"
  | .bool value => "boolean `" ++ (if value then "true" else "false") ++ "`"
  | .number (.int i) => "integer `" ++ String.ofList (intText i) ++ "`"
  | .number (.float x) => "floating point `" ++ String.ofList (floatText x) ++ "`"
  | .string s => "string " ++ quoted s
  | .array _ => "sequence"
  | .object _ => "map"

/-- The fault in words. -/
def message : ElementFault → String
  | .textNotString found => s!"invalid type: {describe found}, expected a string"
  | .notRecord found => s!"invalid type: {describe found}, expected struct LayoutElement"
  | .tooManyItems count => s!"invalid length {count}, expected fewer elements in array"

end ElementFault

namespace Element

/-- The names of the fields. -/
def fieldNames : List String :=
  ["text", "type", "subType", "pageNum", "uniqueId", "markdownContent", "x", "y", "w", "h"]

/-- The element whose fields have the given values. -/
def ofFields (fields : List (String × Value)) : Except ElementFault Element :=
  let get (name : String) : Option Value := Members.get? name fields
  let rest (text : Option String) : Element :=
    { text
      kind := (get "type").bind looseString
      subkind := (get "subType").bind looseString
      pages := (get "pageNum").bind loosePages
      id := (get "uniqueId").bind looseString
      markdown := (get "markdownContent").bind looseString
      x := (get "x").bind looseFloat
      y := (get "y").bind looseFloat
      width := (get "w").bind looseFloat
      height := (get "h").bind looseFloat }
  match get "text" with
  | none | some .null => .ok (rest none)
  | some (.string text) => .ok (rest (some text))
  | some found => .error (.textNotString found)

/-- The element that a JSON value stands for: an object, or an array of its fields. -/
def ofValue : Value → Except ElementFault Element
  | .object members => ofFields members
  | .array items => do
    let element ← ofFields (fieldNames.zip items)
    if items.length ≤ fieldNames.length then .ok element else .error (.tooManyItems items.length)
  | found => .error (.notRecord found)

/-- Reads an element from a text. -/
def read : Reader Element := fun depth tree => do
  let fields ← Fields.read? fieldNames depth tree
  let values ← fields.written.mapM fun field => (Syntax.value? fields.depth field.2).map (field.1, ·)
  (ofFields values).toOption

/-- The element as a value, with null for what is absent. -/
def toValue (element : Element) : Value :=
  .object
    [("text", .ofOption .string element.text), ("type", .ofOption .string element.kind),
      ("subType", .ofOption .string element.subkind),
      ("pageNum", .ofOption PageNumber.toValue element.pages),
      ("uniqueId", .ofOption .string element.id),
      ("markdownContent", .ofOption .string element.markdown),
      ("x", .ofOption .ofFloat element.x), ("y", .ofOption .ofFloat element.y),
      ("w", .ofOption .ofFloat element.width), ("h", .ofOption .ofFloat element.height)]

end Element

/-! ### Parse results -/

/-- The layout of a document and its markdown. -/
structure ParseResult where
  layouts : List Value := []
  markdown : Option String := none

namespace ParseResult

/-- The parse result that consists of given elements. -/
def ofElements (elements : List Element) (markdown : Option String) : ParseResult :=
  { layouts := elements.map fun element =>
      match element.toValue with
      | .object members => .object (Members.ofPairs members)
      | value => value
    markdown }

/-- Reads a parse result. -/
def read : Reader ParseResult := fun depth tree => do
  let fields ← Fields.read? ["layouts", "markdown"] depth tree
  let layouts ← fields.withDefault "layouts" [] (Reader.list Reader.value)
  let markdown ← fields.withDefault "markdown" none (Reader.option Reader.string)
  pure { layouts, markdown }

/-- The parse result as a value. -/
def toValue (result : ParseResult) : Value :=
  .object [("layouts", .array result.layouts), ("markdown", .ofOption .string result.markdown)]

/-- Reads a parse result from a text. -/
def ofText? (text : String) : Option ParseResult := read.run? text

end ParseResult

end TextChunking
