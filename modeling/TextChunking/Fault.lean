import TextChunking.Files.Path
import TextChunking.Glob.Pattern
import TextChunking.Settings.Basic
import TextChunking.Text.Quoted
/-!
# Faults and warnings

Splitting itself never fails; what can fail is everything around it, which is the settings, the files,
and handing the documents on. A `Fault` says what went wrong, `Fault.category` of what sort that is, and
`Fault.message` puts the two into words. A `Warning` is what a run reports on the way although it goes
on.
-/

namespace TextChunking

/-- The sorts of faults. -/
inductive FaultCategory where
  | configuration
  | invalidInput
  | inputNotFound
  | limitExceeded
  | ingest
  | file
  | json
  | toml
  deriving Repr, DecidableEq

namespace FaultCategory

/-- What a message of the sort begins with. -/
def heading : FaultCategory → String
  | .configuration => "Configuration error"
  | .invalidInput => "Invalid input"
  | .inputNotFound => "Input not found"
  | .limitExceeded => "Limit exceeded"
  | .ingest => "Ingest failed"
  | .file => "IO error"
  | .json => "Serialization error"
  | .toml => "TOML parsing error"

/-- A message of the sort. -/
def message (category : FaultCategory) (detail : String) : String :=
  category.heading ++ ": " ++ detail

/-- Whether something that was asked for does not exist. -/
def isNotFound (category : FaultCategory) : Bool := category == .inputNotFound

/-- Whether the one who asked is to blame. -/
def isBadRequest (category : FaultCategory) : Bool :=
  category == .configuration || category == .invalidInput || category == .limitExceeded

end FaultCategory

/-- The two lists of patterns. -/
inductive PatternRole where
  | included
  | excluded
  deriving Repr, DecidableEq

/-- The name of the list in messages. -/
def PatternRole.label : PatternRole → String
  | .included => "include"
  | .excluded => "exclude"

/-- What can go wrong. -/
inductive Fault where
  /-- A splitter whose chunks could hold nothing. -/
  | noChunkSize
  /-- A setting is zero and must not be. -/
  | zeroSetting (setting : NonZeroSetting)
  /-- The settings cannot be read. -/
  | unreadableSettings (cause : FileFault)
  /-- A pattern is none. -/
  | badPattern (role : PatternRole) (pattern : String) (cause : GlobFault)
  /-- A file is not a text. -/
  | notText (path : Path)
  /-- A file is not a parse result. -/
  | notParseResult (path : Path)
  /-- An input does not exist. -/
  | inputNotFound (path : Path)
  /-- A parse result has too many elements. -/
  | tooManyElements (count limit : Nat)
  /-- Documents were refused. -/
  | batchRefused (batch : Nat)
  /-- A file cannot be read or written. -/
  | file (cause : FileFault)
  /-- A text is not JSON of the form that is asked for. -/
  | malformedJson
  /-- A text is not TOML of the form that is asked for. -/
  | malformedToml
  deriving DecidableEq

namespace Fault

/-- The sort of a fault. -/
def category : Fault → FaultCategory
  | .noChunkSize | .zeroSetting _ | .unreadableSettings _ | .badPattern .. => .configuration
  | .notText _ | .notParseResult _ => .invalidInput
  | .inputNotFound _ => .inputNotFound
  | .tooManyElements .. => .limitExceeded
  | .batchRefused _ => .ingest
  | .file _ => .file
  | .malformedJson => .json
  | .malformedToml => .toml

/-- What went wrong, without its sort. -/
def detail : Fault → String
  | .noChunkSize => "max_chunk_size must be non-zero"
  | .zeroSetting setting => setting.label ++ " must be non-zero"
  | .unreadableSettings cause => "Failed to read config file: " ++ cause.message
  | .badPattern role pattern cause =>
    "Invalid " ++ role.label ++ " pattern '" ++ pattern ++ "': " ++ cause.message
  | .notText path => "Skipping non-UTF-8 file: " ++ quoted path
  | .notParseResult path => quoted path ++ " is not a parse result"
  | .inputNotFound path => path
  | .tooManyElements count limit => s!"{count} layout elements (max {limit})"
  | .batchRefused batch => s!"batch {batch} refused"
  | .file cause => cause.message
  | .malformedJson => "malformed text"
  | .malformedToml => "malformed text"

/-- The fault in words. -/
def message (fault : Fault) : String := fault.category.message fault.detail

end Fault

/-! ### Warnings -/

/-- A warning. -/
inductive Warning where
  /-- The overlap of the settings is not smaller than the size of a chunk. -/
  | degradedSettings (overlap maxChunkSize : Nat)
  /-- The splitter advances by a single character. -/
  | degradedSplitter (overlap maxChunkSize : Nat)
  /-- A directory could not be listed. -/
  | notListed (path : Path) (cause : FileFault)
  /-- A file could not be read or split. -/
  | fileFailed (path : Path) (cause : Fault)
  /-- The documents of a file were not taken. -/
  | batchRejected (path : Path) (cause : Fault)
  deriving DecidableEq

/-- The warning in words. -/
def Warning.message : Warning → String
  | .degradedSettings overlap maxChunkSize =>
    s!"Overlap ({overlap}) is not less than max chunk size ({maxChunkSize}); " ++
      "hard splits will be heavily duplicated"
  | .degradedSplitter overlap maxChunkSize =>
    s!"Overlap {overlap} >= max chunk size {maxChunkSize}: " ++
      "hard splits will advance one character at a time"
  | .notListed path cause => "Walk error: IO error for operation on " ++ path ++ ": " ++ cause.message
  | .fileFailed path cause => "Failed to process " ++ quoted path ++ ": " ++ cause.message
  | .batchRejected path cause => "Sink rejected " ++ quoted path ++ ": " ++ cause.message

/-- A result with the warnings that were given on the way to it. -/
structure Reported (α : Type) where
  result : α
  warnings : List Warning

end TextChunking
