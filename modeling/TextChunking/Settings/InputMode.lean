import TextChunking.Json.Record
import TextChunking.Text.Basic
/-!
# Input modes

How an input file is read: as a parse result, as plain text, as markdown, or by its extension. A user may
write a mode in any case and with blanks around it (`InputMode.parse`); in a file its name is exact.
-/

namespace TextChunking

open Json

/-- How input files are read. -/
inductive InputMode where
  /-- By the extension of the file. -/
  | auto
  /-- As a parse result in JSON. -/
  | layout
  /-- As plain text. -/
  | text
  /-- As markdown. -/
  | markdown
  deriving Repr, DecidableEq, Inhabited

namespace InputMode

/-- The name of a mode. -/
def name : InputMode → String
  | .auto => "auto"
  | .layout => "layout"
  | .text => "text"
  | .markdown => "markdown"

/-- The mode of a name. -/
def ofName? : String → Option InputMode
  | "auto" => some .auto
  | "layout" => some .layout
  | "text" => some .text
  | "markdown" => some .markdown
  | _ => none

/-- A mode as a user writes it, or else the name that is unknown. -/
def parse (text : String) : Except String InputMode :=
  let written := String.ofList ((trim text.toList).map Char.toLower)
  match ofName? written with
  | some mode => .ok mode
  | none => .error written

/-- What is wrong with an unknown name. -/
def unknownMessage (written : String) : String :=
  "unknown input mode '" ++ written ++ "' (expected auto, layout, text or markdown)"

/-- Reads a mode: its name, or an object whose one member has that name and is null. -/
def read : Reader InputMode
  | _, .string (some name) => ofName? name
  | _ + 1, .object [(some name, .null)] => ofName? name
  | _, _ => none

/-- The mode as a value. -/
def toValue (mode : InputMode) : Value := .string mode.name

end InputMode

end TextChunking
