import TextChunking.Chunk.Diagnostic
import TextChunking.Layout.Candidate
import TextChunking.Layout.Element
import TextChunking.Layout.Identifiers
import TextChunking.Markdown.Section
import TextChunking.Split.Packing
/-!
# Splitters

A splitter cuts texts, markdown and parse results into chunks of bounded size. Every candidate that is
too large goes through the same chain of paragraphs, sentences and hard windows (`Splitter.refine`).
The elements of a parse result are split one by one, the registry of identifiers being all that passes
from one to the next; only if none of them gives a chunk is the markdown of the result split instead.
-/

namespace TextChunking

open Json

/-- The sizes of a splitter, in characters. -/
structure Splitter where
  /-- The greatest size of a chunk. -/
  maxSize : Nat
  /-- How many characters neighbouring hard windows share. -/
  overlap : Nat
  /-- A chunk may hold at least one character. -/
  maxSize_pos : 0 < maxSize

/-- What a splitter can split. -/
inductive SplitInput where
  | structured (result : ParseResult)
  | text (text : String)
  | markdown (text : String)

/-- Chunks, and what was noted on the way to them. -/
structure SplitOutput where
  chunks : List Chunk := []
  diagnostics : List Diagnostic := []

namespace Splitter

/-- The splitter with given sizes, unless no chunk could hold a character. -/
def ofSizes? (maxSize overlap : Nat) : Option Splitter :=
  if h : 0 < maxSize then some ⟨maxSize, overlap, h⟩ else none

/-- Whether hard windows advance by a single character only. -/
def isDegraded (splitter : Splitter) : Bool := splitter.maxSize ≤ splitter.overlap

/-- The pieces of a text, each small enough for a chunk. -/
def pieces (splitter : Splitter) (text : String) : List String :=
  (splitParagraphs splitter.maxSize splitter.overlap text.toList).map String.ofList

/-- The chunks that take the place of a candidate: the candidate itself if it is small enough, and
otherwise its pieces, numbered behind its identifier. -/
def refine (splitter : Splitter) (chunk : Chunk) : List Chunk :=
  if chunk.size ≤ splitter.maxSize then [chunk]
  else (splitter.pieces chunk.content).zipIdx.map fun (piece, n) =>
    chunk.derive piece (Registry.suffixed chunk.id n)

/-! ### Plain text and markdown -/

/-- What the identifiers of the chunks of a plain text begin with. -/
def textId : String := "text_chunk"

/-- A chunk of a plain text. -/
def textChunk (content : String) (n : Nat) : Chunk :=
  { content, title := "", kind := "text", subkind := "content", page := 0
    id := Registry.suffixed textId n, markdown := none, position := none }

/-- Splits a plain text. -/
def splitText (splitter : Splitter) (text : String) : List Chunk :=
  let trimmed := trimString text
  if trimmed.isEmpty then []
  else if trimmed.length ≤ splitter.maxSize then [textChunk trimmed 0]
  else (splitter.pieces trimmed).zipIdx.map fun (piece, n) => textChunk piece n

/-- Splits a markdown text into its sections, and these into chunks. -/
def splitMarkdown (splitter : Splitter) (text : String) : List Chunk :=
  (sections text.toList).flatMap fun (index, part) => splitter.refine (part.candidate index)

/-! ### Parse results -/

/-- The identifiers that the elements of a parse result bring with them. -/
def suppliedIds (elements : List (Except ElementFault Element)) : List String :=
  elements.filterMap fun element =>
    match element with
    | .ok element => element.id
    | .error _ => none

/-- Gives chunks of one element identifiers that nothing else has. -/
def claimIds (supplied : Option String) : Registry → List Chunk → List Chunk × Registry
  | registry, [] => ([], registry)
  | registry, chunk :: rest =>
    let (id, registry) := registry.claim chunk.id (supplied == some chunk.id)
    let (chunks, registry) := claimIds supplied registry rest
    ({ chunk with id } :: chunks, registry)

/-- Splits elements that stand from `index` on in their list. -/
def splitElements (splitter : Splitter) :
    Nat → Registry → List (Except ElementFault Element) → SplitOutput
  | _, _, [] => {}
  | index, registry, .error fault :: rest =>
    let output := splitElements splitter (index + 1) registry rest
    { output with diagnostics := .skippedElement index fault.message :: output.diagnostics }
  | index, registry, .ok element :: rest =>
    match element.candidate? index with
    | none =>
      let output := splitElements splitter (index + 1) registry rest
      { output with diagnostics := .emptyElement index :: output.diagnostics }
    | some candidate =>
      let (chunks, registry) := claimIds element.id registry (splitter.refine candidate)
      let output := splitElements splitter (index + 1) registry rest
      { output with chunks := chunks ++ output.chunks }

/-- The markdown of a parse result, if it is not blank. -/
def fallback? (result : ParseResult) : Option String :=
  result.markdown.filter fun markdown => !(trimString markdown).isEmpty

/-- Splits a parse result. -/
def splitResult (splitter : Splitter) (result : ParseResult) : SplitOutput :=
  let elements := result.layouts.map Element.ofValue
  let output := splitter.splitElements 0 (.ofReserved (suppliedIds elements)) elements
  match output.chunks, fallback? result with
  | [], some markdown =>
    { chunks := splitter.splitMarkdown markdown
      diagnostics := output.diagnostics ++ [.markdownFallback] }
  | _, _ => output

/-! ### Any input -/

/-- Splits an input, without the note on the splitter itself. -/
def splitInput (splitter : Splitter) : SplitInput → SplitOutput
  | .structured result => splitter.splitResult result
  | .text text => { chunks := splitter.splitText text }
  | .markdown text => { chunks := splitter.splitMarkdown text }

/-- Splits an input. A splitter whose windows advance by a single character says so last. -/
def split (splitter : Splitter) (input : SplitInput) : SplitOutput :=
  let output := splitter.splitInput input
  if splitter.isDegraded then
    { output with
      diagnostics := output.diagnostics ++ [.degradedOverlap splitter.maxSize splitter.overlap] }
  else output

end Splitter

end TextChunking
