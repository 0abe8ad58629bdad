import TextChunking.Files.Path
/-!
# Trees of files

A value for a file system: directories, links and files, with the contents of the files kept apart so
that an open file can outlive its name. `Tree.follow` finds what a path leads to, one component after
another and through at most forty links. A path that is not absolute starts at the working directory.

A system may also refuse what a tree would allow, for want of rights or because a device fails. What it refuses
is a function of the tree about which nothing is known, and all access by path asks it first (`Tree.reach`).
-/

namespace TextChunking

/-- Something with a name in a directory. -/
inductive Node where
  /-- A file, by the number of its contents. -/
  | file (id : Nat)
  /-- A directory with its entries in the order of their listing. -/
  | directory (entries : List (String × Node))
  /-- A symbolic link. -/
  | link (target : Path)

instance : Inhabited Node := ⟨.directory []⟩

/-- The entries of a directory. -/
abbrev Entries : Type := List (String × Node)

namespace Entries

/-- The entry with a name. -/
def get? (name : String) (entries : Entries) : Option Node :=
  (entries.find? fun entry => entry.1 == name).map (·.2)

/-- Puts an entry in the place of one with the same name, or else behind all others. -/
def set (name : String) (node : Node) : Entries → Entries
  | [] => [(name, node)]
  | entry :: rest => if entry.1 == name then (name, node) :: rest else entry :: set name node rest

/-- Takes the entry with a name away. -/
def remove (name : String) (entries : Entries) : Entries :=
  entries.filter fun entry => entry.1 != name

/-- The entries of the directory that a row of names leads to. -/
def at? (entries : Entries) : List String → Option Entries
  | [] => some entries
  | name :: rest =>
    match entries.get? name with
    | some (.directory inner) => at? inner rest
    | _ => none

/-- Changes the entries of the directory that a row of names leads to. -/
def update (change : Entries → Entries) (entries : Entries) : List String → Entries
  | [] => change entries
  | name :: rest =>
    match entries.get? name with
    | some (.directory inner) => entries.set name (.directory (update change inner rest))
    | _ => entries

end Entries

/-- What a path is used for. -/
inductive Access where
  /-- To see what there is. -/
  | look
  /-- To list a directory. -/
  | list
  /-- To read a file. -/
  | read
  /-- To open a file for writing, empty. -/
  | create
  deriving Repr, DecidableEq

/-- The files of a file system. -/
structure Tree where
  root : Entries := []
  /-- The working directory, by the names that lead to it. -/
  working : List String := []
  contents : Array ByteArray := #[]
  /-- Why the system refuses an access to a path, if it does. -/
  refusal? : Access → Path → Option FileFault := fun _ _ => none
  /-- Why a write into an open file fails before anything is written, if it does: by the number of the contents
  and the number of writes before it. -/
  writeFault? : Nat → Nat → Option FileFault := fun _ _ => none

/-- What a path leads to. -/
inductive Place where
  /-- A node, in the directory that the names lead to. -/
  | node (directory : List String) (name : String) (node : Node)
  /-- The directory that the names lead to. -/
  | inside (directory : List String)
  /-- Nothing, but in the directory that the names lead to there is room for it. -/
  | vacant (directory : List String) (name : String)
  deriving Inhabited

namespace Tree

/-- How many links a path may lead through. -/
def maxLinks : Nat := 40

/-- The greatest number of bytes of a name. -/
def maxNameBytes : Nat := 255

/-- The number of bytes from which on a path is too long. -/
def maxPathBytes : Nat := 4096

/-- What a path is followed for. -/
inductive Purpose where
  /-- To use what it leads to. -/
  | use
  /-- To use its last name itself, even if that is a link. -/
  | name
  /-- To make a file, for which no slash may stand behind the last name. -/
  | create
  deriving Repr, DecidableEq

/-- Follows the names in `todo` from a directory that exists, through at most `links` links.
`directory` has the innermost name first, and above the root there is the root again. With `asDirectory`
a slash stands behind the last name, which must then lead to a directory. -/
def followFrom (tree : Tree) (purpose : Purpose) (links : Nat) (asDirectory : Bool)
    (directory : List String) : List String → Except FileFault Place
  | [] => .ok (.inside directory.reverse)
  | "." :: todo => followFrom tree purpose links asDirectory directory todo
  | ".." :: todo => followFrom tree purpose links asDirectory directory.tail todo
  | name :: todo =>
    if todo.isEmpty && asDirectory && purpose == .create then .error .isDirectory
    else if maxNameBytes < name.utf8ByteSize then .error .nameTooLong
    else match (tree.root.at? directory.reverse).bind (Entries.get? name) with
      | none =>
        if todo.isEmpty && !asDirectory then .ok (.vacant directory.reverse name)
        else .error .notFound
      | some (.directory _) =>
        followFrom tree purpose links asDirectory (name :: directory) todo
      | some (.file id) =>
        if todo.isEmpty && !asDirectory then .ok (.node directory.reverse name (.file id))
        else .error .notDirectory
      | some (.link target) =>
        if todo.isEmpty && purpose == .name then
          if asDirectory then .error .notDirectory
          else .ok (.node directory.reverse name (.link target))
        else match links with
          | 0 => .error .tooManyLinks
          | links + 1 =>
            followFrom tree purpose links (asDirectory || (todo.isEmpty && target.endsInSlash))
              (if target.isAbsolute then [] else directory) (target.names ++ todo)
termination_by todo => (links, todo.length)

/-- Whether a path has too many bytes to be followed. -/
def isTooLong (path : Path) : Bool := maxPathBytes ≤ path.utf8ByteSize

/-- The fault of a path that can lead nowhere. -/
def pathFault? (path : Path) : Option FileFault :=
  if path.toList.contains '\x00' then some .nulInPath
  else if path.isEmpty then some .notFound
  else if isTooLong path then some .nameTooLong
  else none

/-- The directory at which a path starts, the innermost name first. -/
def startOf (tree : Tree) (path : Path) : List String :=
  if path.isAbsolute then [] else tree.working.reverse

/-- Finds what a path leads to. -/
def follow (tree : Tree) (purpose : Purpose) (path : Path) : Except FileFault Place :=
  match pathFault? path with
  | some fault => .error fault
  | none => tree.followFrom purpose maxLinks path.endsInSlash (tree.startOf path) path.names

/-- What a path is followed for when it is used. -/
def purposeOf : Access → Purpose
  | .create => .create
  | _ => .use

/-- Finds what a path leads to when it is used, unless the system refuses that. -/
def reach (tree : Tree) (access : Access) (path : Path) : Except FileFault Place :=
  match tree.refusal? access path with
  | some fault => .error fault
  | none => tree.follow (purposeOf access) path

/-! ### Reading -/

/-- Whether a path leads to anything. -/
def has (tree : Tree) (path : Path) : Bool :=
  match tree.reach .look path with
  | .ok (.node ..) | .ok (.inside _) => true
  | _ => false

/-- Whether a path leads to a file. -/
def isFile (tree : Tree) (path : Path) : Bool :=
  match tree.reach .look path with
  | .ok (.node _ _ (.file _)) => true
  | _ => false

/-- The entries of the directory that a path leads to. -/
def entries? (tree : Tree) (path : Path) : Option Entries :=
  match tree.reach .look path with
  | .ok (.inside directory) => tree.root.at? directory
  | _ => none

/-- The fault of using the path of something that was found by listing directories: the system may refuse it, and
the path may have become too long on the way down. -/
def faultBelow? (tree : Tree) (access : Access) (path : Path) : Option FileFault :=
  match tree.refusal? access path with
  | some fault => some fault
  | none => if isTooLong path then some .nameTooLong else none

/-- The contents of an open file. -/
def bytesOf (tree : Tree) (id : Nat) : ByteArray := tree.contents.getD id ByteArray.empty

/-- The number of bytes of a file that was found by listing directories, unless it cannot be looked at. -/
def sizeBelow? (tree : Tree) (path : Path) (id : Nat) : Option Nat :=
  match tree.faultBelow? .look path with
  | some _ => none
  | none => some (tree.bytesOf id).size

/-- Reads the bytes of a file. -/
def readBytes (tree : Tree) (path : Path) : Except FileFault ByteArray :=
  match tree.reach .read path with
  | .ok (.node _ _ (.file id)) => .ok (tree.bytesOf id)
  | .ok (.inside _) => .error .isDirectory
  | .ok _ => .error .notFound
  | .error fault => .error fault

/-- Reads a file as a text. -/
def readText (tree : Tree) (path : Path) : Except FileFault String := do
  let bytes ← tree.readBytes path
  match String.fromUTF8? bytes with
  | some text => .ok text
  | none => .error .notUtf8

/-! ### Writing -/

/-- Puts a node into a directory that exists. -/
def put (tree : Tree) (directory : List String) (name : String) (node : Node) : Tree :=
  { tree with root := tree.root.update (Entries.set name node) directory }

/-- Opens a file for writing, empty: a new one, or the one that is there. -/
def create (tree : Tree) (path : Path) : Except FileFault (Tree × Nat) :=
  match tree.reach .create path with
  | .ok (.node _ _ (.file id)) =>
    .ok ({ tree with contents := tree.contents.setIfInBounds id ByteArray.empty }, id)
  | .ok (.vacant directory name) =>
    let id := tree.contents.size
    .ok ({ tree.put directory name (.file id) with contents := tree.contents.push ByteArray.empty },
      id)
  | .ok _ => .error .isDirectory
  | .error fault => .error fault

/-- Writes bytes into an open file at a place; a gap in front of the place is filled with zeros. -/
def writeAt (tree : Tree) (id offset : Nat) (bytes : ByteArray) : Tree :=
  let old := tree.bytesOf id
  let gap := ByteArray.mk (Array.replicate (offset - old.size) 0)
  let front := old.extract 0 offset
  let back := old.extract (offset + bytes.size) old.size
  { tree with contents := tree.contents.setIfInBounds id (front ++ gap ++ bytes ++ back) }

/-- Makes the directories that `names` lead through, below the one that `path` leads to. -/
def makeDirectoriesBelow (tree : Tree) (path : Path) : List String → Except FileFault Tree
  | [] => .ok tree
  | name :: names =>
    let path := Path.join path name
    match tree.follow .use path with
    | .ok (.vacant directory name) =>
      makeDirectoriesBelow (tree.put directory name (.directory [])) path names
    | .ok (.inside _) => makeDirectoriesBelow tree path names
    | .ok (.node ..) => .error .notDirectory
    | .error fault => .error fault

/-- Makes the directories that the names of a path lead through, where they do not exist. -/
def makeDirectories (tree : Tree) (path : Path) (names : List String) : Except FileFault Tree :=
  tree.makeDirectoriesBelow (if path.isAbsolute then "/" else "") names

/-- Writes a file, with the directories on the way to it. -/
def writeFile (tree : Tree) (path : Path) (bytes : ByteArray) : Except FileFault Tree := do
  let tree ← tree.makeDirectories path path.names.dropLast
  let (tree, id) ← tree.create path
  .ok (tree.writeAt id 0 bytes)

/-- Makes a directory, with those on the way to it. -/
def makeDirectory (tree : Tree) (path : Path) : Except FileFault Tree :=
  tree.makeDirectories path path.names

/-- Makes a symbolic link, with the directories on the way to it. -/
def makeLink (tree : Tree) (path target : Path) : Except FileFault Tree := do
  let tree ← tree.makeDirectories path path.names.dropLast
  match ← tree.follow .name path with
  | .vacant directory name => .ok (tree.put directory name (.link target))
  | _ => .error .exists

/-- Takes a file or a link away; its contents stay for those who have it open. -/
def removeFile (tree : Tree) (path : Path) : Except FileFault Tree := do
  match ← tree.follow .name path with
  | .node directory name _ =>
    .ok { tree with root := tree.root.update (Entries.remove name) directory }
  | .inside _ => .error .isDirectory
  | .vacant .. => .error .notFound

end Tree

end TextChunking
