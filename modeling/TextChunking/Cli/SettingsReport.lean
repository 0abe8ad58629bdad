import TextChunking.Cli.Style
import TextChunking.Files.Path
import TextChunking.Json.Writer
import TextChunking.Settings.Basic
import TextChunking.Text.Quoted
/-!
# Reports on the settings

The settings as they are shown to a user, either in words or as JSON, and with them on demand where the
file of the settings is looked up.
-/

namespace TextChunking.Cli

open Json

/-- The settings to show. -/
structure SettingsReport where
  settings : Settings
  /-- The file of the settings, if it is to be shown. -/
  file : Option Path

namespace SettingsReport

/-- A list of patterns in words. -/
def patternsText (patterns : List String) : String :=
  "[" ++ String.intercalate ", " (patterns.map quoted) ++ "]"

/-- The lines about the metadata of all documents. -/
def metadataLines (colored : Bool) (metadata : Metadata) : String :=
  match metadata with
  | [] => "    base_metadata: " ++ Style.dim.paint colored "(none)" ++ "\n"
  | _ =>
    "    base_metadata:\n" ++
      String.join (metadata.map fun member =>
        "      " ++ member.1 ++ ": " ++ member.2.compact ++ "\n")

/-- The line about the file of the settings. -/
def fileLine (report : SettingsReport) (colored : Bool) : String :=
  match report.file with
  | some path => "  config_file: " ++ Style.blue.paint colored path ++ "\n"
  | none => ""

/-- The lines about the splitter. -/
def splitterLines (report : SettingsReport) (colored : Bool) : String :=
  let splitter := report.settings.splitter
  let number (n : Nat) : String := Style.yellow.paint colored (toString n)
  "  splitter:\n    max_chunk_size: " ++ number splitter.maxChunkSize ++ "\n    overlap: " ++
    number splitter.overlap ++ "\n" ++
    if report.settings.isDegraded then
      "    " ++ Style.yellow.paint colored "overlap >= max_chunk_size, hard splitting is degraded" ++
        "\n"
    else ""

/-- The lines about the input. -/
def inputLines (report : SettingsReport) : String :=
  let input := report.settings.input
  "  input:\n    mode: " ++ input.mode.name ++
    "\n    include_patterns: " ++ patternsText input.includePatterns ++
    "\n    exclude_patterns: " ++ patternsText input.excludePatterns ++
    "\n    max_file_size_mb: " ++ toString input.maxFileSizeMb ++ "\n"

/-- The lines about the limits. -/
def limitLines (report : SettingsReport) : String :=
  let limits := report.settings.limits
  "  limits:\n    max_layout_elements: " ++ toString limits.maxLayoutElements ++
    "\n    max_concurrent_files: " ++ toString limits.maxConcurrentFiles ++ "\n"

/-- The report in words. -/
def text (report : SettingsReport) (colored : Bool) : String :=
  Style.bold.paint colored "Configuration:" ++ "\n" ++ report.fileLine colored ++
    report.splitterLines colored ++ report.inputLines ++ "  output:\n" ++
    metadataLines colored report.settings.output.baseMetadata ++ report.limitLines

/-- The sizes of the splitter as a value, and whether they are degraded. -/
def splitterValue (settings : Settings) : Value :=
  .object
    [("max_chunk_size", .ofNat settings.splitter.maxChunkSize),
      ("overlap", .ofNat settings.splitter.overlap), ("degraded", .bool settings.isDegraded)]

/-- The report as a value. -/
def toValue (report : SettingsReport) : Value :=
  .object
    ((match report.file with
      | some path => [("config_file", .string path)]
      | none => []) ++
      [("splitter", splitterValue report.settings), ("input", report.settings.input.toValue),
        ("base_metadata", .object report.settings.output.baseMetadata),
        ("limits", report.settings.limits.toValue)])

end SettingsReport

end TextChunking.Cli
