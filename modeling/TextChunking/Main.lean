import TextChunking.Cli.Perform
/-!
# The program

The outer layer of the command line. It copies the files that the arguments and the environment name into
a tree, lets the command work on the tree, prints its report, and writes the output file back.
-/

namespace TextChunking.Main

open Cli

/-- The variables of the environment that the program looks at. -/
def variableNames : List String :=
  ["XDG_CONFIG_HOME", "SEMSPLIT_CONFIG", "SEMSPLIT_CONFIG_DIR", "SEMSPLIT_CONFIG_FILE",
    "SEMSPLIT_MAX_CHUNK_SIZE", "SEMSPLIT_OVERLAP", "SEMSPLIT_INPUT_MODE", "SEMSPLIT_MAX_FILE_SIZE_MB",
    "SEMSPLIT_MAX_LAYOUT_ELEMENTS", "SEMSPLIT_MAX_CONCURRENT_FILES"]

/-- The environment, as far as the program looks at it. -/
def environment : IO Environment := do
  let texts ← variableNames.filterMapM fun name =>
    return (← IO.getEnv name).map fun text => (name, text)
  return .ofTexts texts ((← IO.getEnv "HOME").filter fun home => !home.isEmpty)

/-- The tree after a change, or the tree as it was if the change is not possible. -/
def orUnchanged (tree : Tree) (changed : Except FileFault Tree) : Tree := changed.toOption.getD tree

/-- What a link leads to in the end, or the link itself if that is nothing. -/
def targetOf (link : String) : IO Path := do
  try return (← IO.FS.realPath link).toString catch _ => return link

/-- Copies what a real path leads to into a tree, under another path. Links inside a directory are kept as
links, and its hidden directories are left out, since none of them is ever entered. -/
partial def copyInto (tree : Tree) (path : Path) (real : String) : IO Tree := do
  let found ← IO.FS.realPath real
  if ← found.isDir then
    (← found.readDir).foldlM
      (fun tree entry => do
        let path := Path.join path entry.fileName
        match (← entry.path.symlinkMetadata).type with
        | .symlink => return orUnchanged tree (tree.makeLink path (← targetOf entry.path.toString))
        | .dir =>
          if entry.fileName.startsWith "." then return tree
          else copyInto tree path entry.path.toString
        | _ => copyInto tree path entry.path.toString)
      (orUnchanged tree (tree.makeDirectory path))
  else return orUnchanged tree (tree.writeFile path (← IO.FS.readBinFile found))

/-- Copies what a path leads to, unless it leads to nothing that can be read. -/
def copy (tree : Tree) (path : Path) : IO Tree := do
  try copyInto tree path path catch _ => return tree

/-- The directory in which a path ends. -/
def parentOf (path : Path) : Path :=
  (if path.isAbsolute then "/" else "") ++ String.intercalate "/" path.names.dropLast

/-- Makes room for a file that may be created. -/
def copyParent (tree : Tree) (path : Path) : IO Tree := do
  try
    if ← (← IO.FS.realPath (parentOf path)).isDir then
      return orUnchanged tree (tree.makeDirectory (parentOf path))
    else return tree
  catch _ => return tree

/-- The files in which settings may be found. -/
def settingsFiles (environment : Environment) : List Path :=
  (environment.get? "SEMSPLIT_CONFIG").toList ++
    [environment.settingsFile environment.settingsDirectory, Settings.localFile]

/-- The tree of the files that a command may look at. -/
def snapshot (environment : Environment) (command : Command) : IO Tree := do
  let working := Path.names (← IO.FS.realPath ".").toString
  let empty := orUnchanged {} (Tree.makeDirectory {} ("/" ++ String.intercalate "/" working))
  let tree ← (settingsFiles environment).foldlM copy { empty with working }
  match command with
  | .split arguments =>
    let tree ← arguments.paths.foldlM copy tree
    let tree ← arguments.output.toList.foldlM copyParent tree
    arguments.output.toList.foldlM copy tree
  | _ => return tree

/-- Writes the output file of a command, if the command has changed it. -/
def writeBack (before after : Tree) : Command → IO Unit
  | .split arguments => do
    for path in arguments.output do
      if let .ok bytes := after.readBytes path then
        if let .ok old := before.readBytes path then
          if old.data == bytes.data then return
        IO.FS.writeBinFile path bytes
  | _ => return

/-- Whether the output has styles: when it goes to a terminal, unless the environment says otherwise. -/
def isColored : IO Bool := do
  if (← IO.getEnv "CLICOLOR_FORCE").any fun value => value != "0" then return true
  if (← IO.getEnv "NO_COLOR").isSome || (← IO.getEnv "CLICOLOR") == some "0" then return false
  (← IO.getStdout).isTty

/-- Performs a command line. -/
def runInvocation (invocation : Invocation) : IO Outcome := do
  let environment ← environment
  let start ← IO.monoMsNow
  let before ← snapshot environment invocation.command
  let (after, result) ← IO.lazyPure fun _ => perform before environment invocation.command
  writeBack before after invocation.command
  let milliseconds := (← IO.monoMsNow) - start
  return .ofResult invocation.format (← isColored) (result.map (Report.timed milliseconds))

/-- Runs the program. -/
def run (arguments : List String) : IO UInt32 := do
  let outcome ← match Invocation.read arguments with
    | .error misuse => pure (Outcome.ofMisuse misuse)
    | .ok invocation => runInvocation invocation
  IO.print outcome.printed.stdout
  IO.eprint outcome.printed.stderr
  return outcome.exitCode.toUInt32

end TextChunking.Main

/-- The program. -/
def main (arguments : List String) : IO UInt32 := TextChunking.Main.run arguments
