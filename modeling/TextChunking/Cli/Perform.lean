import TextChunking.Cli.Arguments
import TextChunking.Cli.Report
import TextChunking.Ingest.Service
import TextChunking.Settings.Loading
/-!
# Performing commands

A command takes the files and the environment, and gives a report and the files as they are then. The
output file is created once the settings are known to be usable, and before any input is looked for.
-/

namespace TextChunking.Cli

open Json

/-- The request that the arguments of a command make. -/
def SplitArguments.request (arguments : SplitArguments) : Request :=
  { maxChunkSize := arguments.maxChunkSize
    overlap := arguments.overlap
    mode := arguments.mode
    includePatterns := arguments.includePatterns
    excludePatterns := arguments.excludePatterns
    metadata := arguments.metadata }

/-- Opens the output file, if there is to be one. -/
def openOutput (tree : Tree) : Option Path → Except CommandFault Delivery
  | none => .ok { tree }
  | some path =>
    match OpenFile.create tree path with
    | .ok (tree, file) => .ok { tree, lines := some file }
    | .error cause => .error (.noOutputFile path cause)

/-- The summary of a run that has left its documents, of which the time is not known yet. -/
def summaryOf (arguments : SplitArguments) (statistics : Statistics) (delivery : Delivery) : Summary :=
  { batches := delivery.collected.toList, statistics, output := arguments.output }

/-- The result of a command whose run has ended. -/
def resultOf (arguments : SplitArguments) (run : Pipeline.Run Delivery) : Except CommandFault Summary :=
  match run.result with
  | .ok statistics => .ok (summaryOf arguments statistics run.state)
  | .error (.fault cause) => .error (.fault cause)
  | .error .aborted => .error .aborted

/-- Splits files, and gives the files as they are then. -/
def split (tree : Tree) (service : Service) (arguments : SplitArguments) :
    Tree × Except CommandFault Summary :=
  match (service.openPipeline arguments.request).result with
  | .error cause => (tree, .error (.fault cause))
  | .ok pipeline =>
    match openOutput tree arguments.output with
    | .error fault => (tree, .error fault)
    | .ok delivery =>
      let run := pipeline.run Sink.deliver delivery.tree delivery arguments.paths
      (run.state.tree, resultOf arguments run)

/-- The service for the settings of the environment. -/
def loadService (tree : Tree) (environment : Environment) : Except Fault Service := do
  let settings ← Settings.load tree environment
  let reported ← Service.ofSettings settings
  .ok reported.result

/-- The settings as they are shown, and on demand the place of their file. -/
def settingsReport (environment : Environment) (service : Service) (all : Bool) : SettingsReport :=
  { settings := service.settings
    file := if all then some (environment.settingsFile environment.settingsDirectory) else none }

/-- Performs a command, and gives the files as they are then. -/
def perform (tree : Tree) (environment : Environment) (command : Command) :
    Tree × Except CommandFault Report :=
  match command with
  | .completions shell => (tree, .ok (.completion shell))
  | .split arguments =>
    match loadService tree environment with
    | .error cause => (tree, .error (.fault cause))
    | .ok service =>
      let (tree, result) := split tree service arguments
      (tree, result.map fun summary => .summary summary arguments.verbose)
  | .showConfig all =>
    (tree, match loadService tree environment with
      | .error cause => .error (.fault cause)
      | .ok service => .ok (.settings (settingsReport environment service all)))

end TextChunking.Cli
