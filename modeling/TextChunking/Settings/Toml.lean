import TextChunking.Settings.Basic
import TextChunking.Toml.Document
/-!
# Settings in TOML

Settings are written as the tables of a TOML document. What the settings do not know is skipped, and what
they know must have the right kind of value, or the whole document is refused. A group may also be given
as an array of its settings in their order.
-/

namespace TextChunking

open Toml

namespace Toml.Value

/-- The key under which a date or a time is carried into JSON. -/
def dateTimeKey : String := "$__toml_private_datetime"

mutual

/-- The value in JSON. Dates and times become objects with one member; infinity and NaN are lost. -/
def toJson : Value → Json.Value
  | .string s => .string s
  | .integer i => .ofInt i
  | .float x => .ofFloat x
  | .boolean b => .bool b
  | .dateTime value => .object [(dateTimeKey, .string value.text)]
  | .array items => .array (itemsToJson items)
  | .table entries => .object (Json.Members.ofPairs (entriesToJson entries))

/-- The items of an array in JSON. -/
def itemsToJson : List Value → List Json.Value
  | [] => []
  | item :: rest => item.toJson :: itemsToJson rest

/-- The entries of a table in JSON. -/
def entriesToJson : List (String × Value) → List (String × Json.Value)
  | [] => []
  | (key, value) :: rest => (key, value.toJson) :: entriesToJson rest

end

/-- The settings of a group with the given names, as far as they are written. A date or a time counts as a
table that has none of them. -/
def group? (names : List String) : Value → Option (List (String × Value))
  | .table entries => some entries
  | .array items => some (names.zip items)
  | .dateTime _ => some []
  | _ => none

/-- A setting of a group, or else its default. -/
def setting? {α : Type} (entries : List (String × Value)) (name : String) (default : α)
    (ofValue? : Value → Option α) : Option α :=
  match entries.find? fun entry => entry.1 == name with
  | some (_, value) => ofValue? value
  | none => some default

/-! ### The kinds of settings -/

/-- A size. -/
def size? : Value → Option Nat
  | .integer (.ofNat n) => some n
  | _ => none

/-- A string. -/
def string? : Value → Option String
  | .string s => some s
  | _ => none

/-- A list of strings. -/
def strings? : Value → Option (List String)
  | .array items => items.mapM string?
  | _ => none

/-- Whether a value holds nothing. -/
def isVoid : Value → Bool
  | .array items => items.isEmpty
  | .table entries => entries.isEmpty
  | _ => false

/-- An input mode: its name, or a table with that name alone, which holds nothing. -/
def mode? : Value → Option InputMode
  | .string name => InputMode.ofName? name
  | .table [(name, value)] => if value.isVoid then InputMode.ofName? name else none
  | _ => none

/-- Metadata. -/
def metadata? (value : Value) : Option Metadata :=
  match value.toJson with
  | .object members => some members
  | _ => none

/-! ### The groups -/

/-- The sizes of the splitter. -/
def splitter? (value : Value) : Option SplitterSettings := do
  let default : SplitterSettings := {}
  let entries ← value.group? ["max_chunk_size", "overlap"]
  let maxChunkSize ← setting? entries "max_chunk_size" default.maxChunkSize size?
  let overlap ← setting? entries "overlap" default.overlap size?
  pure { maxChunkSize, overlap }

/-- The settings of the input. -/
def input? (value : Value) : Option InputSettings := do
  let default : InputSettings := {}
  let entries ← value.group? ["mode", "include_patterns", "exclude_patterns", "max_file_size_mb"]
  let mode ← setting? entries "mode" default.mode mode?
  let includePatterns ← setting? entries "include_patterns" default.includePatterns strings?
  let excludePatterns ← setting? entries "exclude_patterns" default.excludePatterns strings?
  let maxFileSizeMb ← setting? entries "max_file_size_mb" default.maxFileSizeMb size?
  pure { mode, includePatterns, excludePatterns, maxFileSizeMb }

/-- The settings of the output. -/
def output? (value : Value) : Option OutputSettings := do
  let entries ← value.group? ["base_metadata"]
  let baseMetadata ← setting? entries "base_metadata" [] metadata?
  pure { baseMetadata }

/-- The limits. -/
def limits? (value : Value) : Option LimitSettings := do
  let default : LimitSettings := {}
  let entries ← value.group? ["max_layout_elements", "max_concurrent_files"]
  let maxLayoutElements ← setting? entries "max_layout_elements" default.maxLayoutElements size?
  let maxConcurrentFiles ← setting? entries "max_concurrent_files" default.maxConcurrentFiles size?
  pure { maxLayoutElements, maxConcurrentFiles }

end Toml.Value

/-- The settings that a TOML document gives. -/
def Settings.ofToml? (text : String) : Option Settings := do
  let entries ← Toml.Value.readDocument? text
  let splitter ← Value.setting? entries "splitter" {} Value.splitter?
  let input ← Value.setting? entries "input" {} Value.input?
  let output ← Value.setting? entries "output" {} Value.output?
  let limits ← Value.setting? entries "limits" {} Value.limits?
  pure { splitter, input, output, limits }

end TextChunking
