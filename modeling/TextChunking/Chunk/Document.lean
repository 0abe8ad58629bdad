import TextChunking.Chunk.Basic
import TextChunking.Chunk.Diagnostic
/-!
# Documents

A document is what a split hands on: the text of a chunk with metadata. The metadata is laid over a base
that all documents of a file share, and what is derived from the chunk wins (`Document.ofChunk`). A
`Batch` holds the documents of one file.
-/

namespace TextChunking

open Json

/-- Metadata by key. -/
abbrev Metadata : Type := Members

/-- A text with its metadata. -/
structure Document where
  body : String
  metadata : Metadata

/-- The documents of one file, with what was noted while it was split. -/
structure Batch where
  source : String
  documents : List Document
  diagnostics : List Diagnostic

/-- What a run did. -/
structure Statistics where
  /-- Files that were split and handed on. -/
  filesProcessed : Nat := 0
  /-- Files that could not be read, split or handed on. -/
  filesSkipped : Nat := 0
  /-- Documents that were handed on. -/
  chunksCreated : Nat := 0
  /-- Diagnostics of the files that were handed on. -/
  diagnostics : Nat := 0
  /-- The time that the run took. -/
  milliseconds : Nat := 0
  deriving Repr, DecidableEq

namespace Document

/-- The metadata that a chunk gives its document. -/
def derivedMetadata (chunk : Chunk) : List (String × Value) :=
  [("page_number", .ofInt chunk.page), ("element_type", .string chunk.kind),
    ("element_subtype", .string chunk.subkind), ("unique_id", .string chunk.id),
    ("has_markdown", .bool chunk.hasMarkdown), ("has_title", .bool (chunk.title != "")),
    ("content_length", .ofNat chunk.size)]

/-- The document of a chunk, its metadata laid over `base`. -/
def ofChunk (base : Metadata) (chunk : Chunk) : Document :=
  { body := chunk.content, metadata := base.extend (derivedMetadata chunk) }

/-- The documents of chunks, one for each, in their order. -/
def ofChunks (base : Metadata) (chunks : List Chunk) : List Document := chunks.map (ofChunk base)

/-! ### The JSON form -/

/-- Reads a document. -/
def read : Reader Document := fun depth tree => do
  let fields ← Fields.read? ["body", "metadata"] depth tree
  let body ← fields.required "body" Reader.string
  let metadata ← fields.required "metadata" Reader.members
  pure { body, metadata }

/-- The document as a value. -/
def toValue (document : Document) : Value :=
  .object [("body", .string document.body), ("metadata", .object document.metadata)]

end Document

namespace Batch

/-- Reads a batch. -/
def read : Reader Batch := fun depth tree => do
  let fields ← Fields.read? ["source", "documents", "diagnostics"] depth tree
  let source ← fields.required "source" Reader.string
  let documents ← fields.required "documents" (Reader.list Document.read)
  let diagnostics ← fields.required "diagnostics" (Reader.list Diagnostic.read)
  pure { source, documents, diagnostics }

/-- The batch as a value. -/
def toValue (batch : Batch) : Value :=
  .object
    [("source", .string batch.source), ("documents", .array (batch.documents.map Document.toValue)),
      ("diagnostics", .array (batch.diagnostics.map Diagnostic.toValue))]

end Batch

namespace Statistics

/-- Reads statistics. -/
def read : Reader Statistics := fun depth tree => do
  let fields ← Fields.read?
    ["files_processed", "files_skipped", "chunks_created", "diagnostics", "duration_ms"] depth tree
  let filesProcessed ← fields.required "files_processed" Reader.unsigned
  let filesSkipped ← fields.required "files_skipped" Reader.unsigned
  let chunksCreated ← fields.required "chunks_created" Reader.unsigned
  let diagnostics ← fields.required "diagnostics" Reader.unsigned
  let milliseconds ← fields.required "duration_ms" Reader.unsigned
  pure { filesProcessed, filesSkipped, chunksCreated, diagnostics, milliseconds }

/-- The statistics as a value. -/
def toValue (statistics : Statistics) : Value :=
  .object
    [("files_processed", .ofNat statistics.filesProcessed),
      ("files_skipped", .ofNat statistics.filesSkipped),
      ("chunks_created", .ofNat statistics.chunksCreated),
      ("diagnostics", .ofNat statistics.diagnostics),
      ("duration_ms", .ofNat statistics.milliseconds)]

end Statistics

end TextChunking
