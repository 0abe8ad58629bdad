import TextChunking.Fault
import TextChunking.Files.Tree
import TextChunking.Settings.Toml
/-!
# Loading settings

Settings are read from one source: a file that the environment names, else the file in the directory of
the settings, else one in the working directory, else there are the defaults. Variables of the
environment are laid over what was read, each of them over one setting, and one that does not hold what
its setting needs counts for nothing. The outcome is checked as a whole.

The variables of the environment also name the directory and the file of the settings. One that names
either of them goes before those that name a place for the settings of all programs, and one that does
not hold a text counts as one that is not set (`Environment.get?`).
-/

namespace TextChunking

/-! ### Where settings are looked up -/

/-- What a program finds around it. -/
structure Environment where
  /-- The variables that are set, each name at most once, with the bytes of their values. -/
  bindings : List (String × ByteArray) := []
  /-- The directory of the user, if the system knows one. -/
  home? : Option Path := none

namespace Environment

/-- An environment in which all variables hold texts. -/
def ofTexts (texts : List (String × String)) (home? : Option Path) : Environment :=
  { bindings := texts.map fun (name, text) => (name, text.toUTF8), home? }

/-- The bytes of a variable that is set. -/
def bytes? (environment : Environment) (name : String) : Option ByteArray :=
  (environment.bindings.find? fun binding => binding.1 == name).map (·.2)

/-- The text that a variable holds, if it is set and holds one. -/
def get? (environment : Environment) (name : String) : Option String :=
  (environment.bytes? name).bind String.fromUTF8?

/-- The name of the directory of the settings below a place for all programs. -/
def settingsName : String := "semsplit"

/-- The directory of the settings. A user without a directory has the working directory. -/
def settingsDirectory (environment : Environment) : Path :=
  match environment.get? "SEMSPLIT_CONFIG_DIR" with
  | some directory => directory
  | none =>
    match environment.get? "XDG_CONFIG_HOME" with
    | some directory => Path.join directory settingsName
    | none => Path.join (Path.join (environment.home?.getD ".") ".config") settingsName

/-- The file of the settings, for a given directory of the settings. -/
def settingsFile (environment : Environment) (directory : Path) : Path :=
  (environment.get? "SEMSPLIT_CONFIG_FILE").getD (Path.join directory "config.toml")

end Environment

/-! ### Loading -/

namespace Settings

/-- Reads settings from a file. -/
def ofFile (tree : Tree) (path : Path) : Except Fault Settings :=
  match tree.readText path with
  | .error cause => .error (.unreadableSettings cause)
  | .ok text =>
    match ofToml? text with
    | some settings => .ok settings
    | none => .error .malformedToml

/-- The file of settings in the working directory. -/
def localFile : Path := "semsplit.toml"

/-- Reads settings from the first source that there is, for a given directory of the settings. -/
def readSource (tree : Tree) (environment : Environment) (directory : Path) : Except Fault Settings :=
  match environment.get? "SEMSPLIT_CONFIG" with
  | some path => ofFile tree path
  | none =>
    let file := environment.settingsFile directory
    if tree.has file then ofFile tree file
    else if tree.has localFile then ofFile tree localFile
    else .ok {}

/-- The value of a variable that is set and can be read, or else what is there. -/
def orVariable {α : Type} (environment : Environment) (name : String)
    (parse : String → Except String α) (present : α) : α :=
  match environment.get? name with
  | none => present
  | some text =>
    match parse text with
    | .ok value => value
    | .error _ => present

/-- Reads a size as a user writes it. -/
def parseSize (text : String) : Except String Nat :=
  (readUnsigned text.toList).mapError IntegerFault.message

/-- Settings with the variables of the environment laid over them. -/
def overlay (settings : Settings) (environment : Environment) : Settings :=
  { settings with
    splitter :=
      { maxChunkSize :=
          orVariable environment "SEMSPLIT_MAX_CHUNK_SIZE" parseSize settings.splitter.maxChunkSize
        overlap := orVariable environment "SEMSPLIT_OVERLAP" parseSize settings.splitter.overlap }
    input :=
      { settings.input with
        mode := orVariable environment "SEMSPLIT_INPUT_MODE" InputMode.parse settings.input.mode
        maxFileSizeMb :=
          orVariable environment "SEMSPLIT_MAX_FILE_SIZE_MB" parseSize settings.input.maxFileSizeMb }
    limits :=
      { maxLayoutElements :=
          orVariable environment "SEMSPLIT_MAX_LAYOUT_ELEMENTS" parseSize
            settings.limits.maxLayoutElements
        maxConcurrentFiles :=
          orVariable environment "SEMSPLIT_MAX_CONCURRENT_FILES" parseSize
            settings.limits.maxConcurrentFiles } }

/-- Loads the settings of a run, for a given directory of the settings. -/
def loadFrom (tree : Tree) (environment : Environment) (directory : Path) : Except Fault Settings := do
  let settings ← readSource tree environment directory
  let settings := settings.overlay environment
  match settings.fault? with
  | some setting => .error (.zeroSetting setting)
  | none => .ok settings

/-- Loads the settings of a run. -/
def load (tree : Tree) (environment : Environment) : Except Fault Settings :=
  loadFrom tree environment environment.settingsDirectory

end Settings

end TextChunking
