import TextChunking.Chunk.Document
import TextChunking.Cli.Style
import TextChunking.Files.Path
import TextChunking.Json.Writer
import TextChunking.Number.Binary64
import TextChunking.Text.Basic
/-!
# Summaries of split files

What is shown after files were split, either in words or as JSON: the files with their documents, what
was counted, and where the documents were written. A duration is shown in minutes and seconds, in
seconds, or in milliseconds, with as many places as its length deserves.
-/

namespace TextChunking.Cli

open Json

/-! ### Durations -/

/-- A number of seconds in words. -/
def durationText (seconds : Float) : String :=
  if seconds ≥ 60.0 then
    let minutes := (seconds / 60.0).floor
    Binary64.writeFixed minutes 0 ++ "m " ++
      Binary64.writeFixed (seconds - minutes * 60.0) 1 ++ "s"
  else if seconds ≥ 1.0 then Binary64.writeFixed seconds 2 ++ "s"
  else Binary64.writeFixed (seconds * 1000.0) 0 ++ "ms"

/-- A number of milliseconds in words. -/
def millisecondsText (milliseconds : Nat) : String :=
  durationText (Float.ofNat milliseconds / 1000.0)

/-! ### Summaries -/

/-- What came of splitting files. -/
structure Summary where
  batches : List Batch
  statistics : Statistics
  output : Option Path

/-- The greatest number of characters of a body in a line about a document. -/
def previewLimit : Nat := 60

/-- The string under a key of metadata, or a dash. -/
def metadataText (metadata : Metadata) (key : String) : String :=
  ((Members.get? key metadata).bind Value.string?).getD "-"

/-- The value under a key of metadata, or null. -/
def metadataValue (metadata : Metadata) (key : String) : String :=
  ((Members.get? key metadata).getD .null).compact

/-- The beginning of a body, on one line. -/
def preview (body : String) : String :=
  String.ofList (clip (body.toList.map fun c => if c == '\n' then ' ' else c) previewLimit)

/-- The line about a document. -/
def documentLine (colored : Bool) (document : Document) : String :=
  "  " ++ Style.cyan.paint colored (metadataText document.metadata "unique_id") ++
    " p" ++ metadataValue document.metadata "page_number" ++
    " " ++ metadataText document.metadata "element_type" ++
    " " ++ Style.yellow.paint colored (metadataValue document.metadata "content_length") ++
    " chars  " ++ Style.dim.paint colored (preview document.body) ++ "\n"

/-- The line about something that was noted. -/
def diagnosticLine (colored : Bool) (diagnostic : Diagnostic) : String :=
  "  " ++ Style.yellow.paint colored "!" ++ " " ++ Style.dim.paint colored diagnostic.message ++ "\n"

/-- A number in its style. -/
def countText (colored : Bool) (n : Nat) : String := Style.yellow.paint colored (toString n)

/-- The lines about a file. -/
def batchLines (colored verbose : Bool) (batch : Batch) : String :=
  Style.blue.paint colored batch.source ++ ": " ++ countText colored batch.documents.length ++
    " chunks\n" ++
    String.join (batch.diagnostics.map (diagnosticLine colored)) ++
    if verbose then String.join (batch.documents.map (documentLine colored)) else ""

namespace Summary

/-- The line about what was counted. -/
def countLine (summary : Summary) (colored : Bool) : String :=
  Style.green.paint colored "Split" ++ " " ++
    countText colored summary.statistics.filesProcessed ++ " files (" ++
    countText colored summary.statistics.chunksCreated ++ " chunks) in " ++
    Style.yellow.paint colored (millisecondsText summary.statistics.milliseconds) ++ "\n"

/-- The line about where the documents were written. -/
def outputLine (summary : Summary) (colored : Bool) : String :=
  match summary.output with
  | some path => "Documents written to " ++ Style.blue.paint colored path ++ "\n"
  | none => ""

/-- The summary in words. -/
def text (summary : Summary) (colored verbose : Bool) : String :=
  String.join (summary.batches.map (batchLines colored verbose)) ++ summary.countLine colored ++
    summary.outputLine colored

/-- The warning about files that were skipped, if there are any. -/
def warningText (summary : Summary) (colored : Bool) : String :=
  if summary.statistics.filesSkipped == 0 then ""
  else
    Style.yellow.paint colored "Warning" ++ ": " ++ toString summary.statistics.filesSkipped ++
      " files skipped (run with RUST_LOG=semsplit=warn for details)\n"

/-- The summary as a value. -/
def toValue (summary : Summary) : Value :=
  .object
    ([("files", .array (summary.batches.map Batch.toValue)),
      ("stats", summary.statistics.toValue)] ++
      match summary.output with
      | some path => [("output", .string path)]
      | none => [])

end Summary

end TextChunking.Cli
