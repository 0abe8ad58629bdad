import TextChunking.Json.Record
/-!
# Chunks

A chunk is a piece of text of bounded size together with what is known about the place it comes from.
Pieces that are cut from a chunk inherit everything from it but their content and their identifier
(`Chunk.derive`).
-/

namespace TextChunking

open Json

/-- The box of an element on its page. -/
structure Position where
  x : Float
  y : Float
  width : Float
  height : Float

/-- A piece of text of bounded size. -/
structure Chunk where
  /-- The text, trimmed and not empty. -/
  content : String
  /-- A title found for the text, or nothing. -/
  title : String
  /-- What kind of unit the text comes from. -/
  kind : String
  /-- The kind in more detail. -/
  subkind : String
  /-- The page of the text, zero when it is not known. -/
  page : Int
  /-- A name that no other chunk of the same split has. -/
  id : String
  /-- The markdown of the whole unit. -/
  markdown : Option String
  /-- The box of the unit, for units of a page layout. -/
  position : Option Position

namespace Chunk

/-- The number of characters of the content. -/
def size (chunk : Chunk) : Nat := chunk.content.length

/-- Whether the unit had markdown that is not empty. -/
def hasMarkdown (chunk : Chunk) : Bool :=
  match chunk.markdown with
  | some markdown => markdown != ""
  | none => false

/-- A piece of a chunk: another content under another identifier. -/
def derive (chunk : Chunk) (content id : String) : Chunk := { chunk with content, id }

end Chunk

/-! ### The JSON form -/

namespace Position

/-- The names of the fields. -/
def fieldNames : List String := ["x", "y", "width", "height"]

/-- Reads a position. -/
def read : Reader Position := fun depth tree => do
  let fields ← Fields.read? fieldNames depth tree
  let x ← fields.required "x" Reader.float
  let y ← fields.required "y" Reader.float
  let width ← fields.required "width" Reader.float
  let height ← fields.required "height" Reader.float
  pure { x, y, width, height }

/-- The position as a value. -/
def toValue (position : Position) : Value :=
  .object
    [("x", .ofFloat position.x), ("y", .ofFloat position.y), ("width", .ofFloat position.width),
      ("height", .ofFloat position.height)]

end Position

namespace Chunk

/-- The names of the fields. -/
def fieldNames : List String :=
  ["content", "title", "type", "subtype", "page_number", "unique_id", "markdown_content", "position"]

/-- Reads a chunk. -/
def read : Reader Chunk := fun depth tree => do
  let fields ← Fields.read? fieldNames depth tree
  let content ← fields.required "content" Reader.string
  let title ← fields.required "title" Reader.string
  let kind ← fields.required "type" Reader.string
  let subkind ← fields.required "subtype" Reader.string
  let page ← fields.required "page_number" Reader.signed
  let id ← fields.required "unique_id" Reader.string
  let markdown ← fields.optional "markdown_content" Reader.string
  let position ← fields.optional "position" Position.read
  pure { content, title, kind, subkind, page, id, markdown, position }

/-- The chunk as a value. -/
def toValue (chunk : Chunk) : Value :=
  .object
    [("content", .string chunk.content), ("title", .string chunk.title), ("type", .string chunk.kind),
      ("subtype", .string chunk.subkind), ("page_number", .ofInt chunk.page),
      ("unique_id", .string chunk.id), ("markdown_content", .ofOption .string chunk.markdown),
      ("position", .ofOption Position.toValue chunk.position)]

end Chunk

end TextChunking
