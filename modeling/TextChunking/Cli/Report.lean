import TextChunking.Cli.Option
import TextChunking.Cli.SettingsReport
import TextChunking.Cli.Summary
import TextChunking.Ingest.Pipeline
/-!
# Reports of commands

What a command has to say when it is done, and how that is printed. A command that fails prints nothing
but its fault. The time that a run took is put into the report before it is printed.
-/

namespace TextChunking.Cli

open Json

/-- Why a command fails. -/
inductive CommandFault where
  | fault (cause : Fault)
  /-- The file for the documents cannot be created. -/
  | noOutputFile (path : Path) (cause : Fault)
  /-- The program breaks off. -/
  | aborted
  deriving DecidableEq

/-- The fault in words. -/
def CommandFault.message : CommandFault → String
  | .fault cause => cause.message
  | .noOutputFile path cause => "Cannot create output file '" ++ path ++ "': " ++ cause.message
  | .aborted => s!"a semaphore may not have more than MAX_PERMITS permits ({Pipeline.maxPermits})"

/-- The code with which the program ends. -/
def CommandFault.exitCode : CommandFault → UInt8
  | .aborted => 101
  | _ => 1

/-- What a command has to say. -/
inductive Report where
  /-- Files were split; on demand every document is listed. -/
  | summary (summary : Summary) (verbose : Bool)
  | settings (report : SettingsReport)
  | completion (shell : Shell)

/-- What a program prints. -/
structure Printed where
  stdout : String := ""
  stderr : String := ""
  deriving Repr, DecidableEq

/-- What a program leaves behind. -/
structure Outcome where
  exitCode : UInt8
  printed : Printed

namespace Report

/-- The report of a run that took the given time. -/
def timed (milliseconds : Nat) : Report → Report
  | .summary run verbose =>
    .summary { run with statistics := { run.statistics with milliseconds } } verbose
  | report => report

/-- Prints a report. -/
def print (format : OutputFormat) (colored : Bool) : Report → Printed
  | .summary run verbose =>
    match format with
    | .human => { stdout := run.text colored verbose, stderr := run.warningText colored }
    | .json => { stdout := run.toValue.pretty ++ "\n" }
  | .settings report =>
    match format with
    | .human => { stdout := report.text colored }
    | .json => { stdout := report.toValue.pretty ++ "\n" }
  | .completion shell => { stdout := shell.completion }

end Report

namespace Outcome

/-- What is printed for a fault. A program that breaks off says so in other words. -/
def faultText (colored : Bool) : CommandFault → String
  | .aborted => "panicked: " ++ CommandFault.aborted.message ++ "\n"
  | fault => Style.alarm.paint colored "Error" ++ ": " ++ fault.message ++ "\n"

/-- The outcome of a command. -/
def ofResult (format : OutputFormat) (colored : Bool) : Except CommandFault Report → Outcome
  | .ok report => { exitCode := 0, printed := report.print format colored }
  | .error fault => { exitCode := fault.exitCode, printed := { stderr := faultText colored fault } }

/-- The outcome of a command line that asks for no command. -/
def ofMisuse (misuse : Misuse) : Outcome :=
  let text := misuse.text ++ "\n"
  { exitCode := misuse.exitCode
    printed := if misuse.exitCode == 0 then { stdout := text } else { stderr := text } }

end Outcome

end TextChunking.Cli
