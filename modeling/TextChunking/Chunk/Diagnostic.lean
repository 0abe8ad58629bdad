import TextChunking.Json.Record
/-!
# Diagnostics

What a split reports besides its chunks. None of it makes the split fail. In JSON a diagnostic is tagged
with its kind; the tag may stand anywhere among the members, or first in an array.
-/

namespace TextChunking

open Json

/-- An event of a split that is worth a note. -/
inductive Diagnostic where
  /-- A layout element without text. -/
  | emptyElement (index : Nat)
  /-- A layout element that could not be read. -/
  | skippedElement (index : Nat) (reason : String)
  /-- No layout element gave a chunk, so the markdown was split. -/
  | markdownFallback
  /-- The overlap leaves hard windows no progress but a single character. -/
  | degradedOverlap (maxChunkSize overlap : Nat)
  deriving Repr, DecidableEq

namespace Diagnostic

/-- The diagnostic in words. -/
def message : Diagnostic → String
  | .emptyElement index => s!"layout {index} has no text"
  | .skippedElement index reason => s!"layout {index} skipped: {reason}"
  | .markdownFallback => "no layout chunks, split markdown instead"
  | .degradedOverlap maxChunkSize overlap =>
    s!"overlap {overlap} >= max chunk size {maxChunkSize}, windows advance by 1"

/-- The member that names the kind. -/
def tagName : String := "kind"

/-- The diagnostic as a value, its kind first. -/
def toValue : Diagnostic → Value
  | .emptyElement index =>
    .object [(tagName, .string "empty_element"), ("index", .ofNat index)]
  | .skippedElement index reason =>
    .object
      [(tagName, .string "skipped_element"), ("index", .ofNat index), ("reason", .string reason)]
  | .markdownFallback => .object [(tagName, .string "markdown_fallback")]
  | .degradedOverlap maxChunkSize overlap =>
    .object
      [(tagName, .string "degraded_overlap"), ("max_chunk_size", .ofNat maxChunkSize),
        ("overlap", .ofNat overlap)]

/-- Reads the fields that go with a kind. -/
def readKind? (kind : String) (depth : Nat) (tree : Syntax) : Option Diagnostic :=
  match kind with
  | "empty_element" => do
    let fields ← Fields.read? ["index"] depth tree
    pure (.emptyElement (← fields.required "index" Reader.unsigned))
  | "skipped_element" => do
    let fields ← Fields.read? ["index", "reason"] depth tree
    let index ← fields.required "index" Reader.unsigned
    pure (.skippedElement index (← fields.required "reason" Reader.string))
  | "degraded_overlap" => do
    let fields ← Fields.read? ["max_chunk_size", "overlap"] depth tree
    let maxChunkSize ← fields.required "max_chunk_size" Reader.unsigned
    pure (.degradedOverlap maxChunkSize (← fields.required "overlap" Reader.unsigned))
  | "markdown_fallback" => do
    let _ ← Fields.read? [] depth tree
    pure .markdownFallback
  | _ => none

/-- Splits the members of an object into those named by the tag and the others. -/
def splitTag (members : List (StringText × Syntax)) :
    List (StringText × Syntax) × List (StringText × Syntax) :=
  members.partition fun member => member.1 == some tagName

/-- Reads a diagnostic. The whole tree must have a value, since the kind may be known only behind the
other members. -/
def read : Reader Diagnostic := fun depth tree => do
  let _ ← Syntax.value? depth tree
  match tree with
  | .object members =>
    match splitTag members with
    | ([(_, .string (some kind))], rest) => readKind? kind depth (.object rest)
    | _ => none
  | .array (.string (some kind) :: rest) => readKind? kind depth (.array rest)
  | _ => none

end Diagnostic

end TextChunking
