import TextChunking.Chunk.Document
import TextChunking.Settings.InputMode
/-!
# Settings

The settings of a run in four groups, each setting with a default. Settings may be read that no run can
work with; `Settings.fault?` finds the first that is zero and must not be.
-/

namespace TextChunking

open Json

/-- The sizes of the splitter. -/
structure SplitterSettings where
  /-- The greatest size of a chunk, in characters. -/
  maxChunkSize : Nat := 1000
  /-- How many characters neighbouring hard windows share. -/
  overlap : Nat := 100
  deriving Repr, DecidableEq

/-- Which files are read, and how. -/
structure InputSettings where
  /-- How files are read. -/
  mode : InputMode := .auto
  /-- Patterns for the files of a directory. -/
  includePatterns : List String := ["*.json", "*.md", "*.markdown", "*.txt"]
  /-- Patterns for files and directories to leave out. -/
  excludePatterns : List String :=
    ["**/node_modules/**", "**/target/**", "**/.git/**", "**/build/**", "**/dist/**"]
  /-- Files of a directory that are larger are left out, in units of a mebibyte. -/
  maxFileSizeMb : Nat := 10
  deriving Repr, DecidableEq

/-- What is added to the output. -/
structure OutputSettings where
  /-- Metadata of every document. -/
  baseMetadata : Metadata := []

/-- Limits of a run. -/
structure LimitSettings where
  /-- The greatest number of layout elements of a file. -/
  maxLayoutElements : Nat := 10000
  /-- How many files are worked on at a time. -/
  maxConcurrentFiles : Nat := 4
  deriving Repr, DecidableEq

/-- The settings of a run. -/
structure Settings where
  splitter : SplitterSettings := {}
  input : InputSettings := {}
  output : OutputSettings := {}
  limits : LimitSettings := {}

/-- A setting that must not be zero. -/
inductive NonZeroSetting where
  | maxChunkSize
  | maxFileSize
  | maxLayoutElements
  | maxConcurrentFiles
  deriving Repr, DecidableEq

/-- The name of the setting in messages. -/
def NonZeroSetting.label : NonZeroSetting → String
  | .maxChunkSize => "Max chunk size"
  | .maxFileSize => "Max file size"
  | .maxLayoutElements => "Max layout elements"
  | .maxConcurrentFiles => "Max concurrent files"

namespace Settings

/-- The settings that must not be zero, in the order in which they are checked. -/
def nonZero (settings : Settings) : List (NonZeroSetting × Nat) :=
  [(.maxChunkSize, settings.splitter.maxChunkSize), (.maxFileSize, settings.input.maxFileSizeMb),
    (.maxLayoutElements, settings.limits.maxLayoutElements),
    (.maxConcurrentFiles, settings.limits.maxConcurrentFiles)]

/-- The first setting that is zero and must not be. -/
def fault? (settings : Settings) : Option NonZeroSetting :=
  (settings.nonZero.find? fun setting => setting.2 == 0).map (·.1)

/-- Whether the overlap leaves hard windows no progress but a single character. -/
def isDegraded (settings : Settings) : Bool :=
  settings.splitter.maxChunkSize ≤ settings.splitter.overlap

end Settings

/-! ### The JSON form -/

namespace SplitterSettings

/-- Reads the sizes of the splitter. -/
def read : Reader SplitterSettings := fun depth tree => do
  let default : SplitterSettings := {}
  let fields ← Fields.read? ["max_chunk_size", "overlap"] depth tree
  let maxChunkSize ← fields.withDefault "max_chunk_size" default.maxChunkSize Reader.unsigned
  let overlap ← fields.withDefault "overlap" default.overlap Reader.unsigned
  pure { maxChunkSize, overlap }

/-- The sizes of the splitter as a value. -/
def toValue (settings : SplitterSettings) : Value :=
  .object [("max_chunk_size", .ofNat settings.maxChunkSize), ("overlap", .ofNat settings.overlap)]

end SplitterSettings

/-- A list of patterns as a value. -/
def patternsValue (patterns : List String) : Value := .array (patterns.map .string)

namespace InputSettings

/-- Reads the settings of the input. -/
def read : Reader InputSettings := fun depth tree => do
  let default : InputSettings := {}
  let fields ← Fields.read?
    ["mode", "include_patterns", "exclude_patterns", "max_file_size_mb"] depth tree
  let mode ← fields.withDefault "mode" default.mode InputMode.read
  let includePatterns ← fields.withDefault "include_patterns" default.includePatterns
    (Reader.list Reader.string)
  let excludePatterns ← fields.withDefault "exclude_patterns" default.excludePatterns
    (Reader.list Reader.string)
  let maxFileSizeMb ← fields.withDefault "max_file_size_mb" default.maxFileSizeMb Reader.unsigned
  pure { mode, includePatterns, excludePatterns, maxFileSizeMb }

/-- The settings of the input as a value. -/
def toValue (settings : InputSettings) : Value :=
  .object
    [("mode", settings.mode.toValue), ("include_patterns", patternsValue settings.includePatterns),
      ("exclude_patterns", patternsValue settings.excludePatterns),
      ("max_file_size_mb", .ofNat settings.maxFileSizeMb)]

end InputSettings

namespace OutputSettings

/-- Reads the settings of the output. -/
def read : Reader OutputSettings := fun depth tree => do
  let fields ← Fields.read? ["base_metadata"] depth tree
  let baseMetadata ← fields.withDefault "base_metadata" [] Reader.members
  pure { baseMetadata }

/-- The settings of the output as a value. -/
def toValue (settings : OutputSettings) : Value :=
  .object [("base_metadata", .object settings.baseMetadata)]

end OutputSettings

namespace LimitSettings

/-- Reads the limits. -/
def read : Reader LimitSettings := fun depth tree => do
  let default : LimitSettings := {}
  let fields ← Fields.read? ["max_layout_elements", "max_concurrent_files"] depth tree
  let maxLayoutElements ← fields.withDefault "max_layout_elements" default.maxLayoutElements
    Reader.unsigned
  let maxConcurrentFiles ← fields.withDefault "max_concurrent_files" default.maxConcurrentFiles
    Reader.unsigned
  pure { maxLayoutElements, maxConcurrentFiles }

/-- The limits as a value. -/
def toValue (settings : LimitSettings) : Value :=
  .object
    [("max_layout_elements", .ofNat settings.maxLayoutElements),
      ("max_concurrent_files", .ofNat settings.maxConcurrentFiles)]

end LimitSettings

namespace Settings

/-- Reads settings. -/
def read : Reader Settings := fun depth tree => do
  let fields ← Fields.read? ["splitter", "input", "output", "limits"] depth tree
  let splitter ← fields.withDefault "splitter" {} SplitterSettings.read
  let input ← fields.withDefault "input" {} InputSettings.read
  let output ← fields.withDefault "output" {} OutputSettings.read
  let limits ← fields.withDefault "limits" {} LimitSettings.read
  pure { splitter, input, output, limits }

/-- The settings as a value. -/
def toValue (settings : Settings) : Value :=
  .object
    [("splitter", settings.splitter.toValue), ("input", settings.input.toValue),
      ("output", settings.output.toValue), ("limits", settings.limits.toValue)]

end Settings

end TextChunking
