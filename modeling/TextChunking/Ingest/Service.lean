import TextChunking.Ingest.Pipeline
/-!
# Services and requests

A service holds settings whose splitter can be built, and opens pipelines. A request may override some of
the settings for one pipeline; the settings are checked as a whole after that, so a request can also mend
settings that no run could work with.
-/

namespace TextChunking

/-- What one run asks for in place of the settings. -/
structure Request where
  maxChunkSize : Option Nat := none
  overlap : Option Nat := none
  mode : Option InputMode := none
  /-- Takes the place of the patterns of the settings unless it is empty. -/
  includePatterns : List String := []
  /-- Takes the place of the patterns of the settings unless it is empty. -/
  excludePatterns : List String := []
  /-- Laid over the metadata of the settings. -/
  metadata : Metadata := []

/-- A list, or another one in place of an empty list. -/
def orElseNonempty {α : Type} (list other : List α) : List α :=
  if list.isEmpty then other else list

namespace Settings

/-- Settings with what a request asks for in their place. -/
def override (settings : Settings) (request : Request) : Settings :=
  { settings with
    splitter :=
      { maxChunkSize := request.maxChunkSize.getD settings.splitter.maxChunkSize
        overlap := request.overlap.getD settings.splitter.overlap }
    input :=
      { settings.input with
        mode := request.mode.getD settings.input.mode
        includePatterns := orElseNonempty request.includePatterns settings.input.includePatterns
        excludePatterns := orElseNonempty request.excludePatterns settings.input.excludePatterns } }

/-- The warning about the sizes of the splitter, which is given once a chunk may hold anything. -/
def sizeWarnings (settings : Settings) : List Warning :=
  if settings.splitter.maxChunkSize ≠ 0 ∧ settings.isDegraded then
    [.degradedSettings settings.splitter.overlap settings.splitter.maxChunkSize]
  else []

/-- Checks settings. -/
def check (settings : Settings) : Reported (Except Fault Unit) :=
  { result := match settings.fault? with
      | some setting => .error (.zeroSetting setting)
      | none => .ok ()
    warnings := settings.sizeWarnings }

end Settings

/-- Settings whose splitter can be built. -/
structure Service where
  settings : Settings
  splitter : Splitter

namespace Service

/-- The service for settings. -/
def ofSettings (settings : Settings) : Except Fault (Reported Service) :=
  (Pipeline.splitterOf settings.splitter).map fun ⟨splitter, warnings⟩ =>
    ⟨{ settings, splitter }, warnings⟩

/-- Opens a pipeline for a request. -/
def openPipeline (service : Service) (request : Request) : Reported (Except Fault Pipeline) :=
  let settings := service.settings.override request
  let ⟨checked, warnings⟩ := settings.check
  match checked with
  | .error fault => ⟨.error fault, warnings⟩
  | .ok () =>
    let ⟨pipeline, more⟩ := Pipeline.ofSettings settings request.metadata
    ⟨pipeline, warnings ++ more⟩

end Service

end TextChunking
