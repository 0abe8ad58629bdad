import TextChunking.Fault
import TextChunking.Files.Tree
/-!
# Finding the files to split

Inputs are files, which are taken as they are, and directories, whose files are selected by patterns and
by size. Below a directory no link is followed, and hidden or excluded directories are not entered. The
files of one directory come in the order of their paths, whatever the order of its listing
(`Discovery.filesBelow`). A directory that cannot be listed is reported, and a file that cannot be looked at has
no size: the system may refuse either, and a path that grows on the way down may become too long.
-/

namespace TextChunking

/-- What selects the files of a directory. -/
structure Discovery where
  /-- Patterns of which a file must match one, if there are any. -/
  included : List Glob
  /-- Patterns that leave out files and directories. -/
  excluded : List Glob
  /-- Files with more bytes are left out. -/
  maxBytes : Nat

namespace Discovery

/-- Reads a list of patterns. -/
def readPatterns (role : PatternRole) (patterns : List String) : Except Fault (List Glob) :=
  patterns.mapM fun pattern =>
    match Glob.parse pattern with
    | .ok glob => .ok glob
    | .error cause => .error (.badPattern role pattern cause)

/-- The number of bytes of a number of mebibytes, as a 64-bit word. -/
def bytesOfMb (megabytes : Nat) : Nat := megabytes * 1024 * 1024 % wordLimit

/-- The selection that settings ask for. -/
def ofSettings (settings : InputSettings) : Except Fault Discovery := do
  let included ← readPatterns .included settings.includePatterns
  let excluded ← readPatterns .excluded settings.excludePatterns
  .ok { included, excluded, maxBytes := bytesOfMb settings.maxFileSizeMb }

/-- Whether a path is excluded. -/
def excludes (discovery : Discovery) (path : Path) : Bool :=
  discovery.excluded.any fun glob => glob.isMatch path

/-- Whether the path or the name of a file is included. -/
def includes (discovery : Discovery) (path : Path) (name : String) : Bool :=
  discovery.included.isEmpty ||
    discovery.included.any fun glob => glob.isMatch path || glob.isMatch name

/-- Whether a directory with a given path and name is entered. -/
def enters (discovery : Discovery) (path : Path) (name : String) : Bool :=
  name.toList.head? != some '.' && !discovery.excludes path

/-- Whether a file with a given path, name and size is selected. A size that is not known is no reason to
leave the file out. -/
def selects (discovery : Discovery) (path : Path) (name : String) (size : Option Nat) : Bool :=
  size.all (fun size => size ≤ discovery.maxBytes) && discovery.includes path name &&
    !discovery.excludes path

/-- What is found below a directory. -/
inductive Finding where
  /-- A selected file. -/
  | file (path : Path)
  /-- A directory that cannot be listed. -/
  | unlisted (path : Path) (cause : FileFault)
  deriving Repr, DecidableEq

/-- The path of a selected file. -/
def Finding.file? : Finding → Option Path
  | .file path => some path
  | .unlisted .. => none

/-- The warning about a directory that cannot be listed. -/
def Finding.warning? : Finding → Option Warning
  | .file _ => none
  | .unlisted path cause => some (.notListed path cause)

mutual

/-- What is found at or below a node with a given path and name. -/
def findingsAt (discovery : Discovery) (tree : Tree) (path : Path) (name : String) :
    Node → List Finding
  | .file id =>
    if discovery.selects path name (tree.sizeBelow? path id) then [.file path] else []
  | .directory entries =>
    if !discovery.enters path name then []
    else match tree.faultBelow? .list path with
      | some cause => [.unlisted path cause]
      | none => findingsIn discovery tree path entries
  | .link _ => []

/-- What is found below a directory, in the order of its listing. -/
def findingsIn (discovery : Discovery) (tree : Tree) (parent : Path) :
    List (String × Node) → List Finding
  | [] => []
  | (name, node) :: rest =>
    findingsAt discovery tree (parent.join name) name node ++ findingsIn discovery tree parent rest

end

/-- What is found below a directory that is an input, which is entered whatever its name. -/
def findingsBelow (discovery : Discovery) (tree : Tree) (root : Path) (entries : Entries) : List Finding :=
  match tree.faultBelow? .list root with
  | some cause => [.unlisted root cause]
  | none => discovery.findingsIn tree root entries

/-- The selected files below a directory, in the order of their paths. -/
def filesBelow (discovery : Discovery) (tree : Tree) (root : Path) (entries : Entries) :
    Reported (List Path) :=
  let findings := discovery.findingsBelow tree root entries
  { result := (findings.filterMap Finding.file?).mergeSort Path.le
    warnings := findings.filterMap Finding.warning? }

/-- The files of one input. -/
def filesOf (discovery : Discovery) (tree : Tree) (path : Path) :
    Except Fault (Reported (List Path)) :=
  if tree.isFile path then .ok ⟨[path], []⟩
  else match tree.entries? path with
    | some entries => .ok (discovery.filesBelow tree path entries)
    | none => .error (.inputNotFound path)

/-- The files of all inputs, in the order of the inputs. An input that does not exist is a fault. -/
def files (discovery : Discovery) (tree : Tree) : List Path → Reported (Except Fault (List Path))
  | [] => ⟨.ok [], []⟩
  | path :: rest =>
    match discovery.filesOf tree path with
    | .error fault => ⟨.error fault, []⟩
    | .ok ⟨found, warnings⟩ =>
      let ⟨more, later⟩ := files discovery tree rest
      ⟨more.map (found ++ ·), warnings ++ later⟩

end Discovery

end TextChunking
