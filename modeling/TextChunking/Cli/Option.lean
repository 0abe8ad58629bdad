import TextChunking.Cli.Style
import TextChunking.Files.Path
import TextChunking.Json.Reader
import TextChunking.Settings.InputMode
import TextChunking.Text.Basic
import TextChunking.Text.Visible
/-!
# Options of the command line

The commands of the program, the options that each of them takes, and the values that may be given to
them. An argument is read into a `Given`, and a `Misuse` says what is wrong with a command line. A shell
learns the commands and the options from one line.
-/

namespace TextChunking.Cli

open Json

/-- The name of the program. -/
def programName : String := "semsplit"

/-- The version of the program. -/
def programVersion : String := "0.3.2"

/-- The forms of output. -/
inductive OutputFormat where
  | human
  | json
  deriving Repr, DecidableEq

/-- The shells for which completions can be written. -/
inductive Shell where
  | bash
  | elvish
  | fish
  | powershell
  | zsh
  deriving Repr, DecidableEq

/-- The commands of the program. -/
inductive CommandName where
  | split
  | showConfig
  | completions
  deriving Repr, DecidableEq

/-- The options of the program. -/
inductive OptionName where
  | help
  | version
  | format
  | logJson
  | maxChunkSize
  | overlap
  | mode
  | included
  | excluded
  | metadata
  | output
  | verbose
  | all
  deriving Repr, DecidableEq

/-- What is wrong with a command line, or what is asked for in place of a command. -/
inductive Misuse where
  /-- Help is asked for. -/
  | help
  /-- The version is asked for, of the program or of one of its commands. -/
  | version (command : Option CommandName)
  /-- There are no arguments at all. -/
  | nothing
  /-- There are options but no command. -/
  | noCommand
  | unknownCommand
  | unknownArgument
  /-- A required argument is missing. -/
  | missingArgument
  /-- An option is repeated that may be given once. -/
  | repeatedOption
  /-- A value is given to an option that takes none. -/
  | valueNotTaken
  /-- A value is missing, empty or none of those that are allowed. -/
  | badValue
  /-- A value cannot be read, for a reason. -/
  | unreadableValue (option : OptionName) (value reason : String)
  deriving Repr, DecidableEq

/-- An argument, read. -/
inductive Given where
  | format (format : OutputFormat)
  | logJson
  | maxChunkSize (size : Nat)
  | overlap (size : Nat)
  | mode (mode : InputMode)
  | included (pattern : String)
  | excluded (pattern : String)
  | metadata (key : String) (value : Value)
  | output (path : Path)
  | verbose
  | all
  | path (path : Path)
  | shell (shell : Shell)

namespace CommandName

/-- The word for a command. -/
def word : CommandName → String
  | .split => "split"
  | .showConfig => "show-config"
  | .completions => "completions"

/-- All commands. -/
def list : List CommandName := [.split, .showConfig, .completions]

/-- The command of a word. -/
def ofWord? (word : String) : Option CommandName := list.find? fun command => command.word == word

end CommandName

/-- The word that asks for help. -/
def helpWord : String := "help"

/-- The shell of a name. -/
def Shell.ofName? : String → Option Shell
  | "bash" => some .bash
  | "elvish" => some .elvish
  | "fish" => some .fish
  | "powershell" => some .powershell
  | "zsh" => some .zsh
  | _ => none

/-- The form of output of a name. -/
def OutputFormat.ofName? : String → Option OutputFormat
  | "human" => some .human
  | "json" => some .json
  | _ => none

namespace OptionName

/-- The long name of an option. -/
def long : OptionName → String
  | .help => "help"
  | .version => "version"
  | .format => "format"
  | .logJson => "log-json"
  | .maxChunkSize => "max-chunk-size"
  | .overlap => "overlap"
  | .mode => "mode"
  | .included => "include"
  | .excluded => "exclude"
  | .metadata => "metadata"
  | .output => "output"
  | .verbose => "verbose"
  | .all => "all"

/-- The letter of an option. -/
def letter? : OptionName → Option Char
  | .help => some 'h'
  | .version => some 'V'
  | .included => some 'i'
  | .excluded => some 'e'
  | .metadata => some 'm'
  | .output => some 'o'
  | .verbose => some 'v'
  | .all => some 'a'
  | _ => none

/-- Whether an option takes a value. -/
def takesValue : OptionName → Bool
  | .help | .version | .logJson | .verbose | .all => false
  | _ => true

/-- Whether an option may be given more than once. -/
def isRepeatable : OptionName → Bool
  | .included | .excluded | .metadata => true
  | _ => false

/-- The options that every command takes, and the program itself. -/
def general : List OptionName := [.help, .version, .format, .logJson]

/-- The options of a command, or of the program itself. -/
def ofCommand : Option CommandName → List OptionName
  | none | some .completions => general
  | some .split =>
    general ++
      [.maxChunkSize, .overlap, .mode, .included, .excluded, .metadata, .output, .verbose]
  | some .showConfig => general ++ [.all]

/-- An option as messages show it. -/
def display (option : OptionName) : String :=
  let place := String.ofList (option.long.toList.map fun c => if c == '-' then '_' else c.toUpper)
  "--" ++ option.long ++ " <" ++ place ++ ">"

/-! ### Values -/

/-- A value that was read, or the reason why it was not. -/
def orUnreadable {α : Type} (option : OptionName) (value : String) (found : Except String α) :
    Except Misuse α :=
  found.mapError fun reason => .unreadableValue option value reason

/-- A value that was found among those that are allowed. -/
def orBadValue {α : Type} (found? : Option α) : Except Misuse α :=
  match found? with
  | some found => .ok found
  | none => .error .badValue

/-- Reads a size. -/
def readSize (text : String) : Except String Nat :=
  (readUnsigned text.toList).mapError IntegerFault.message

/-- Reads an input mode. -/
def readMode (text : String) : Except String InputMode :=
  (InputMode.parse text).mapError InputMode.unknownMessage

/-- Reads a key and a value with an equals sign between them. What is no JSON is a string. -/
def readMetadata (text : String) : Except String (String × Value) :=
  let (key, rest) := text.toList.span fun c => c != '='
  let complaint (what : String) : String := "invalid metadata '" ++ text ++ "': " ++ what
  match rest with
  | [] => .error (complaint "expected KEY=VALUE")
  | _ :: rest =>
    let key := String.ofList (trim key)
    let value := String.ofList rest
    if key.isEmpty then .error (complaint "empty key")
    else .ok (key, (Value.read? value).getD (.string value))

/-- Reads a path, which may not be empty. -/
def readPath (text : String) : Except Misuse Path :=
  if text.isEmpty then .error .badValue else .ok text

/-- Reads the value of an option. -/
def read (option : OptionName) (value : String) : Except Misuse Given :=
  match option with
  | .format => (orBadValue (OutputFormat.ofName? value)).map .format
  | .maxChunkSize => (orUnreadable option value (readSize value)).map .maxChunkSize
  | .overlap => (orUnreadable option value (readSize value)).map .overlap
  | .mode => (orUnreadable option value (readMode value)).map .mode
  | .included => .ok (.included value)
  | .excluded => .ok (.excluded value)
  | .metadata =>
    (orUnreadable option value (readMetadata value)).map fun (key, value) => .metadata key value
  | .output => (readPath value).map .output
  | .help | .version | .logJson | .verbose | .all => .error .valueNotTaken

/-- What an option without a value says, for a command or for the program itself. -/
def raise (command : Option CommandName) : OptionName → Except Misuse Given
  | .help => .error .help
  | .version => .error (.version command)
  | .logJson => .ok .logJson
  | .verbose => .ok .verbose
  | .all => .ok .all
  | _ => .error .badValue

end OptionName

namespace Misuse

/-- The command of which the version is shown. -/
def versionText (command : Option CommandName) : String :=
  programName ++ (command.map fun command => "-" ++ command.word).getD "" ++ " " ++ programVersion

/-- What is written about a misuse, with styles. -/
def styledText : Misuse → String
  | .help | .nothing => "Usage: " ++ programName ++ " [OPTIONS] <COMMAND>"
  | .version command => versionText command
  | .noCommand => "error: a command is required"
  | .unknownCommand => "error: unrecognized command"
  | .unknownArgument => "error: unexpected argument"
  | .missingArgument => "error: a required argument was not provided"
  | .repeatedOption => "error: an option cannot be used multiple times"
  | .valueNotTaken => "error: unexpected value for an option"
  | .badValue => "error: invalid value for an option"
  | .unreadableValue option value reason =>
    Style.alarm.enclose "error:" ++ " invalid value '" ++ Style.yellow.enclose value ++ "' for '" ++
      Style.bold.enclose option.display ++ "': " ++ reason ++ "\n\nFor more information, try '" ++
      Style.bold.enclose "--help" ++ "'."

/-- What is written about a misuse, as it is shown without styles. What stands in a value may hide what
stands behind it. -/
def text (misuse : Misuse) : String := String.ofList (visible misuse.styledText.toList)

/-- The first line of what is written about a misuse. -/
def message (misuse : Misuse) : String := String.ofList (firstLine misuse.text.toList)

/-- The exit code: only what was asked for is a success. -/
def exitCode : Misuse → UInt8
  | .help | .version _ => 0
  | _ => 2

end Misuse

/-! ### Completions -/

/-- The options of all commands. -/
def allOptions : List OptionName :=
  (none :: CommandName.list.map some).flatMap OptionName.ofCommand |>.eraseDups

/-- The words that may follow the name of the program. -/
def completionWords : List String :=
  CommandName.list.map CommandName.word ++ allOptions.map fun option => "--" ++ option.long

/-- The line that registers the words with a shell. -/
def Shell.completion (shell : Shell) : String :=
  let words := String.intercalate " " completionWords
  match shell with
  | .bash => "complete -W \"" ++ words ++ "\" " ++ programName ++ "\n"
  | .elvish =>
    "set edit:completion:arg-completer[" ++ programName ++ "] = \x7b|@arguments| put " ++ words ++
      " \x7d\n"
  | .fish => "complete -c " ++ programName ++ " -a \"" ++ words ++ "\"\n"
  | .powershell =>
    "Register-ArgumentCompleter -Native -CommandName " ++ programName ++
      " -ScriptBlock \x7b " ++
      String.intercalate ", " (completionWords.map fun word => "\"" ++ word ++ "\"") ++ " \x7d\n"
  | .zsh => "#compdef " ++ programName ++ "\ncompadd -- " ++ words ++ "\n"

end TextChunking.Cli
