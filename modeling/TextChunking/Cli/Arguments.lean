import TextChunking.Cli.Option
/-!
# Reading the command line

The arguments are read from the left, first those of the program and then, behind the name of a command,
those of the command. A value that stands apart from its option is kept in waiting, and it is read only
when the next option or word comes or the arguments end; this decides which of several faults is found
first. `Reading` holds what was read so far and what is waiting.
-/

namespace TextChunking.Cli

open Json

/-- What was started and is not read yet. -/
inductive Waiting where
  | nothing
  /-- An option that takes a value, and the value if it has come. -/
  | option (option : OptionName) (value : Option String)
  /-- Words that belong to no option. -/
  | words (words : List String)
  deriving Repr, DecidableEq

/-- The arguments of a command, or of the program itself, as far as they were read. -/
structure Reading where
  command : Option CommandName
  given : List Given := []
  /-- The options that were read. -/
  used : List OptionName := []
  waiting : Waiting := .nothing
  /-- Whether there were words that belong to no option. -/
  hasWords : Bool := false

/-- A word that ends the reading of the program's own arguments. -/
inductive Turn where
  | help
  | command (command : CommandName)
  deriving Repr, DecidableEq

/-- The turn that a word is. -/
def Turn.ofWord? (word : String) : Option Turn :=
  if word == helpWord then some .help else (CommandName.ofWord? word).map .command

namespace Reading

/-- Whether an option waits for its value. -/
def awaitsValue (reading : Reading) : Bool :=
  match reading.waiting with
  | .option _ none => true
  | _ => false

/-- Adds what an option says. -/
def record (reading : Reading) (option : OptionName) (read : Except Misuse Given) :
    Except Misuse Reading :=
  if !option.isRepeatable && reading.used.contains option then .error .repeatedOption
  else read.map fun given =>
    { reading with given := reading.given ++ [given], used := option :: reading.used }

/-- Reads a word of a command. -/
def readWord (command : Option CommandName) (word : String) : Except Misuse Given :=
  match command with
  | some .completions => (OptionName.orBadValue (Shell.ofName? word)).map .shell
  | _ => (OptionName.readPath word).map .path

/-- Reads what is waiting. -/
def settle (reading : Reading) : Except Misuse Reading :=
  let settled := { reading with waiting := .nothing }
  match reading.waiting with
  | .nothing => .ok settled
  | .option _ none => .error .badValue
  | .option option (some value) => settled.record option (option.read value)
  | .words words =>
    (words.mapM (readWord reading.command)).map fun given =>
      { settled with given := settled.given ++ given }

/-- Starts an option, which may have its value with it. -/
def start (reading : Reading) (option : OptionName) (value : Option String) :
    Except Misuse Reading := do
  let settled ← reading.settle
  if !option.takesValue then settled.record option (option.raise reading.command)
  else match value with
    | some value => settled.record option (option.read value)
    | none => .ok { settled with waiting := .option option none }

/-- The options that can be given here. -/
def options (reading : Reading) : List OptionName := OptionName.ofCommand reading.command

/-- Reads an option by its long name. -/
def long (reading : Reading) (name : String) (value : Option String) : Except Misuse Reading :=
  match reading.options.find? fun option => option.long == name with
  | none => .error .unknownArgument
  | some option =>
    if value.isSome && !option.takesValue then .error .valueNotTaken
    else reading.start option value

/-- The value that stands behind the letter of an option. -/
def attached? : List Char → Option String
  | [] => none
  | '=' :: value => some (String.ofList value)
  | value => some (String.ofList value)

/-- Reads options by their letters. The first that takes a value takes what is left. -/
def letters (reading : Reading) : List Char → Except Misuse Reading
  | [] => .ok reading
  | letter :: rest =>
    match reading.options.find? fun option => option.letter? == some letter with
    | none => .error .unknownArgument
    | some option =>
      if option.takesValue then reading.start option (attached? rest)
      else do letters (← reading.start option none) rest

/-- Takes a word that belongs to no option. -/
def word (reading : Reading) (trailing : Bool) (word : String) : Except Misuse Reading :=
  match reading.command with
  | none =>
    if trailing && (Turn.ofWord? word).isSome then .error .unknownArgument
    else .error .unknownCommand
  | some .showConfig => .error .unknownArgument
  | some .completions =>
    if reading.hasWords then .error .unknownArgument
    else do
      let settled ← reading.settle
      .ok { settled with waiting := .words [word], hasWords := true }
  | some .split =>
    match reading.waiting with
    | .words words => .ok { reading with waiting := .words (words ++ [word]) }
    | _ => do
      let settled ← reading.settle
      .ok { settled with waiting := .words [word], hasWords := true }

/-- Takes a word as the value that an option waits for, or else as a word of its own. -/
def valueOrWord (reading : Reading) (text : String) : Except Misuse Reading :=
  match reading.waiting with
  | .option option none => .ok { reading with waiting := .option option (some text) }
  | _ => reading.word false text

/-- Reads one argument. -/
def argument (reading : Reading) (argument : String) : Except Misuse Reading :=
  match argument.toList with
  | '-' :: '-' :: rest =>
    match rest.span fun c => c != '=' with
    | (name, []) => reading.long (String.ofList name) none
    | (name, _ :: value) => reading.long (String.ofList name) (some (String.ofList value))
  | '-' :: letter :: rest => reading.letters (letter :: rest)
  | _ => reading.valueOrWord argument

/-- Reads arguments behind the mark that ends the options. -/
def readTrailing (reading : Reading) (arguments : List String) : Except Misuse Reading :=
  arguments.foldlM (fun reading argument => reading.word true argument) reading

/-- The turn that an argument is here, unless it is a value. -/
def turn? (reading : Reading) (argument : String) : Option Turn :=
  if reading.command.isNone && !reading.awaitsValue then Turn.ofWord? argument else none

/-- Reads arguments up to a turn, and gives the arguments behind it. -/
def readArguments (reading : Reading) :
    List String → Except Misuse (Reading × Option (Turn × List String))
  | [] => .ok (reading, none)
  | argument :: rest =>
    match reading.turn? argument with
    | some turn => .ok (reading, some (turn, rest))
    | none =>
      if argument == "--" then (reading.readTrailing rest).map fun reading => (reading, none)
      else do readArguments (← reading.argument argument) rest

end Reading

/-! ### What was asked for -/

/-- The arguments of the command that splits files. -/
structure SplitArguments where
  paths : List Path := []
  maxChunkSize : Option Nat := none
  overlap : Option Nat := none
  mode : Option InputMode := none
  includePatterns : List String := []
  excludePatterns : List String := []
  metadata : Members := []
  output : Option Path := none
  verbose : Bool := false

/-- A command with its arguments. -/
inductive Command where
  | split (arguments : SplitArguments)
  | showConfig (all : Bool)
  | completions (shell : Shell)

/-- A whole command line. -/
structure Invocation where
  format : OutputFormat
  command : Command

/-- Adds an argument to those of the command that splits files. -/
def SplitArguments.add (arguments : SplitArguments) : Given → SplitArguments
  | .path path => { arguments with paths := arguments.paths ++ [path] }
  | .maxChunkSize size => { arguments with maxChunkSize := some size }
  | .overlap size => { arguments with overlap := some size }
  | .mode mode => { arguments with mode := some mode }
  | .included pattern =>
    { arguments with includePatterns := arguments.includePatterns ++ [pattern] }
  | .excluded pattern =>
    { arguments with excludePatterns := arguments.excludePatterns ++ [pattern] }
  | .metadata key value => { arguments with metadata := arguments.metadata.insert key value }
  | .output path => { arguments with output := some path }
  | .verbose => { arguments with verbose := true }
  | _ => arguments

/-- Whether arguments ask for everything to be shown. -/
def asksForAll (given : List Given) : Bool :=
  given.any fun argument => match argument with
    | .all => true
    | _ => false

/-- The shell among arguments. -/
def shell? (given : List Given) : Option Shell :=
  given.findSome? fun argument => match argument with
    | .shell shell => some shell
    | _ => none

/-- The form of output among arguments. -/
def format? (given : List Given) : Option OutputFormat :=
  given.findSome? fun argument => match argument with
    | .format format => some format
    | _ => none

/-- The command with the arguments that were read for it. -/
def Command.ofGiven (name : CommandName) (given : List Given) : Except Misuse Command :=
  match name with
  | .split =>
    let arguments := given.foldl SplitArguments.add {}
    if arguments.paths.isEmpty then .error .missingArgument else .ok (.split arguments)
  | .showConfig => .ok (.showConfig (asksForAll given))
  | .completions =>
    match shell? given with
    | some shell => .ok (.completions shell)
    | none => .error .missingArgument

/-- What is wrong with a question for help on the commands that words name. -/
def helpOn : List String → Misuse
  | [] => .help
  | [word] => if (Turn.ofWord? word).isSome then .help else .unknownCommand
  | _ => .unknownCommand

namespace Invocation

/-- Reads the arguments of a command. -/
def readCommand (name : CommandName) (arguments : List String) :
    Except Misuse (Command × List Given) := do
  let (reading, _) ← Reading.readArguments { command := some name } arguments
  let reading ← reading.settle
  let command ← Command.ofGiven name reading.given
  .ok (command, reading.given)

/-- The form of output, for which the arguments of the command go before those of the program. -/
def formatOf (general own : List Given) : OutputFormat :=
  ((format? own).or (format? general)).getD .human

/-- Reads a whole command line. -/
def read (arguments : List String) : Except Misuse Invocation := do
  let (reading, turn) ← Reading.readArguments { command := none } arguments
  match turn with
  | some (.help, rest) => .error (helpOn rest)
  | some (.command name, rest) =>
    let (command, own) ← readCommand name rest
    let reading ← reading.settle
    .ok { format := formatOf reading.given own, command }
  | none =>
    let reading ← reading.settle
    if reading.given.isEmpty then .error .nothing else .error .noCommand

end Invocation

end TextChunking.Cli
