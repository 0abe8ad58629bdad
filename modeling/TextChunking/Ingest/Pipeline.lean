import TextChunking.Fault
import TextChunking.Ingest.Discovery
import TextChunking.Ingest.Sink
import TextChunking.Ingest.Source
/-!
# Pipelines

A pipeline finds files, reads and splits each of them, and hands the documents of each on to a sink. The
files may be worked on in any order, since the outcomes are put back into the order of the files before
anything is handed on (`Pipeline.runScheduled`). A file that fails is counted and reported, and the run
goes on. What ends a run without statistics comes before the first file: an input that does not exist, or
more permits for files that are worked on at a time than there can be.
-/

namespace TextChunking

open Json

/-- Everything that a run needs besides its inputs. -/
structure Pipeline where
  discovery : Discovery
  mode : InputMode
  splitter : Splitter
  baseMetadata : Metadata
  maxLayoutElements : Nat
  /-- How many files are worked on at a time. -/
  maxConcurrentFiles : Nat
  /-- At least one file is worked on at a time. -/
  maxConcurrentFiles_pos : 0 < maxConcurrentFiles

/-- The outcome for a file, with its place among the files. -/
structure FileOutcome where
  index : Nat
  path : Path
  batch : Except Fault Batch

/-- The metadata that names the file of a document. -/
def sourceKey : String := "source"

/-- The metadata that names the content type of a document's file. -/
def contentTypeKey : String := "Content-Type"

namespace Pipeline

/-! ### Building -/

/-- The splitter that settings ask for, with the warning that it may give. -/
def splitterOf (settings : SplitterSettings) : Except Fault (Reported Splitter) :=
  match Splitter.ofSizes? settings.maxChunkSize settings.overlap with
  | none => .error .noChunkSize
  | some splitter =>
    .ok ⟨splitter, if splitter.isDegraded then
      [.degradedSplitter settings.overlap settings.maxChunkSize] else []⟩

/-- The pipeline that settings ask for. A splitter is built before the patterns are read, so that its
warning is given even when a pattern is none. -/
def ofSettings (settings : Settings) (metadata : Metadata) : Reported (Except Fault Pipeline) :=
  match splitterOf settings.splitter with
  | .error fault => ⟨.error fault, []⟩
  | .ok ⟨splitter, warnings⟩ =>
    match Discovery.ofSettings settings.input with
    | .error fault => ⟨.error fault, warnings⟩
    | .ok discovery =>
      ⟨.ok
        { discovery, splitter
          mode := settings.input.mode
          baseMetadata := settings.output.baseMetadata.extend metadata
          maxLayoutElements := settings.limits.maxLayoutElements
          maxConcurrentFiles := max settings.limits.maxConcurrentFiles 1
          maxConcurrentFiles_pos := Nat.le_max_right .. }, warnings⟩

/-! ### One file -/

/-- The fault of a parse result with too many elements. -/
def limitFault? (pipeline : Pipeline) : SplitInput → Option Fault
  | .structured result =>
    if pipeline.maxLayoutElements < result.layouts.length then
      some (.tooManyElements result.layouts.length pipeline.maxLayoutElements)
    else none
  | _ => none

/-- The metadata that all documents of a file share: what was asked for, and the path and the content
type of the file where nothing else was asked for. -/
def fileMetadata (pipeline : Pipeline) (path : Path) (contentType : String) : Metadata :=
  (pipeline.baseMetadata.insertNew sourceKey (.string path)).insertNew contentTypeKey
    (.string contentType)

/-- Splits what was read from a file. -/
def batchOf (pipeline : Pipeline) (path : Path) (source : Source) : Batch :=
  let output := pipeline.splitter.split source.input
  { source := path
    documents := Document.ofChunks (pipeline.fileMetadata path source.contentType) output.chunks
    diagnostics := output.diagnostics }

/-- Reads and splits a file. -/
def process (pipeline : Pipeline) (tree : Tree) (path : Path) : Except Fault Batch := do
  let source ← Source.read tree pipeline.mode path
  match pipeline.limitFault? source.input with
  | some fault => .error fault
  | none => .ok (pipeline.batchOf path source)

/-- The outcomes for files, in their order. -/
def outcomes (pipeline : Pipeline) (tree : Tree) (paths : List Path) : List FileOutcome :=
  paths.zipIdx.map fun (path, index) => { index, path, batch := pipeline.process tree path }

/-! ### Handing on -/

/-- What has been counted and reported so far, and the state of the sink. -/
structure Progress (σ : Type) where
  statistics : Statistics := {}
  warnings : List Warning := []
  state : σ

variable {σ : Type}

/-- Counts a file that was not handed on. -/
def Progress.skip (progress : Progress σ) (warning : Warning) : Progress σ :=
  { progress with
    statistics :=
      { progress.statistics with filesSkipped := progress.statistics.filesSkipped + 1 }
    warnings := progress.warnings ++ [warning] }

/-- Counts a file that was handed on. -/
def Progress.count (progress : Progress σ) (batch : Batch) : Progress σ :=
  { progress with
    statistics :=
      { progress.statistics with
        filesProcessed := progress.statistics.filesProcessed + 1
        chunksCreated := progress.statistics.chunksCreated + batch.documents.length
        diagnostics := progress.statistics.diagnostics + batch.diagnostics.length } }

/-- Hands the outcome for a file on. -/
def deliverOne (sink : Sink σ) (progress : Progress σ) (outcome : FileOutcome) : Progress σ :=
  match outcome.batch with
  | .error fault => progress.skip (.fileFailed outcome.path fault)
  | .ok batch =>
    match sink progress.state batch with
    | (.ok (), state) => { progress with state }.count batch
    | (.error fault, state) => { progress with state }.skip (.batchRejected outcome.path fault)

/-- Hands outcomes on in the order of their files, in whatever order they have come. -/
def deliver (sink : Sink σ) (state : σ) (completed : List FileOutcome) : Progress σ :=
  (completed.mergeSort fun a b => a.index ≤ b.index).foldl (deliverOne sink) { state }

/-! ### Running -/

/-- Why a run gives no statistics. -/
inductive RunFault where
  | fault (cause : Fault)
  /-- The run breaks off, and the program with it. -/
  | aborted
  deriving DecidableEq

/-- What a run gives, and the state in which it leaves the sink. -/
structure Run (σ : Type) where
  result : Except RunFault Statistics
  warnings : List Warning
  state : σ

/-- The greatest number of permits that the files which are worked on at a time can share. -/
def maxPermits : Nat := 2305843009213693951

/-- Runs the pipeline with outcomes that come in the order which `schedule` gives them. The warnings are
those of the search for files and then those about single files. -/
def runScheduled (pipeline : Pipeline) (schedule : List FileOutcome → List FileOutcome) (sink : Sink σ)
    (tree : Tree) (state : σ) (paths : List Path) : Run σ :=
  let ⟨found, warnings⟩ := pipeline.discovery.files tree paths
  match found with
  | .error cause => { result := .error (.fault cause), warnings, state }
  | .ok files =>
    if maxPermits < pipeline.maxConcurrentFiles then { result := .error .aborted, warnings, state }
    else
      let progress := deliver sink state (schedule (pipeline.outcomes tree files))
      { result := .ok progress.statistics
        warnings := warnings ++ progress.warnings
        state := progress.state }

/-- Runs the pipeline. -/
def run (pipeline : Pipeline) (sink : Sink σ) (tree : Tree) (state : σ) (paths : List Path) : Run σ :=
  pipeline.runScheduled id sink tree state paths

end Pipeline

end TextChunking
