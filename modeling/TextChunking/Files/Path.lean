/-!
# Paths

A path is kept as it was written, since that is how it is shown. Its components leave out empty ones and
all single dots but one at the front, and it is by their components that paths are compared, so that
files sort directory by directory.

A `FileFault` says why the file at a path cannot be read or written, with the words of the operating
system.
-/

namespace TextChunking

/-- A path as it is written. -/
abbrev Path : Type := String

namespace Path

/-- A component of a path. -/
inductive Component where
  | root
  | current
  | parent
  | name (name : String)
  deriving Repr, DecidableEq

/-- What stands between the slashes of a path, without what is empty. -/
def names (path : Path) : List String :=
  ((path.toList.splitBy fun a b => a != '/' && b != '/').filter fun part => part != ['/']).map
    String.ofList

/-- Whether a path starts at the root. -/
def isAbsolute (path : Path) : Bool := path.toList.head? == some '/'

/-- Whether a path ends in a slash. -/
def endsInSlash (path : Path) : Bool := path.toList.getLast? == some '/'

/-- The component of a name that is not the first one. -/
def component? : String → Option Component
  | "." => none
  | ".." => some .parent
  | name => some (.name name)

/-- The components of a path. -/
def components (path : Path) : List Component :=
  let names := path.names
  if path.isAbsolute then .root :: names.filterMap component?
  else match names with
    | "." :: rest => .current :: rest.filterMap component?
    | names => names.filterMap component?

/-- The name of the file or directory that a path leads to. -/
def fileName? (path : Path) : Option String :=
  match path.components.getLast? with
  | some (.name name) => some name
  | _ => none

/-- The extension of the file name: what stands behind its last dot, unless nothing stands in front. -/
def extension? (path : Path) : Option String := do
  let name ← path.fileName?
  let back := name.toList.reverse
  let extension := back.takeWhile fun c => c != '.'
  match back.dropWhile fun c => c != '.' with
  | _ :: _ :: _ => some (String.ofList extension.reverse)
  | _ => none

/-- A path behind another one. -/
def join (path other : Path) : Path :=
  if other.isAbsolute then other
  else if path.isEmpty || path.endsInSlash then path ++ other
  else path ++ "/" ++ other

/-- The place of the kind of a component in the order of components. -/
def Component.rank : Component → Nat
  | .root => 0
  | .current => 1
  | .parent => 2
  | .name _ => 3

/-- Whether a component does not come behind another one. -/
def Component.le : Component → Component → Bool
  | .name a, .name b => a ≤ b
  | a, b => a.rank ≤ b.rank

/-- Whether a row of components does not come behind another one. -/
def componentsLe : List Component → List Component → Bool
  | [], _ => true
  | _ :: _, [] => false
  | a :: as, b :: bs => if a = b then componentsLe as bs else a.le b

/-- Whether a path does not come behind another one. -/
def le (a b : Path) : Bool := componentsLe a.components b.components

end Path

/-! ### Faults -/

/-- Why an operation on a file fails. -/
inductive FileFault where
  /-- There is nothing at the path. -/
  | notFound
  /-- There is something at the path already. -/
  | exists
  /-- A name of the path, or the whole of it, is too long. -/
  | nameTooLong
  /-- The path leads through something that is no directory. -/
  | notDirectory
  /-- The path leads to a directory. -/
  | isDirectory
  /-- The path leads through too many links. -/
  | tooManyLinks
  /-- The path holds a character that no path can hold. -/
  | nulInPath
  /-- The bytes are not a text. -/
  | notUtf8
  /-- The system refuses for a reason of its own, such as rights or a full device. -/
  | refused (reason : String)
  deriving Repr, DecidableEq

/-- The wording of a fault. -/
def FileFault.message : FileFault → String
  | .notFound => "No such file or directory (os error 2)"
  | .exists => "File exists (os error 17)"
  | .nameTooLong => "File name too long (os error 36)"
  | .notDirectory => "Not a directory (os error 20)"
  | .isDirectory => "Is a directory (os error 21)"
  | .tooManyLinks => "Too many levels of symbolic links (os error 40)"
  | .nulInPath => "file name contained an unexpected NUL byte"
  | .notUtf8 => "stream did not contain valid UTF-8"
  | .refused reason => reason

end TextChunking
