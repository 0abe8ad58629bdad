import TextChunking.Fault
import TextChunking.Files.Tree
import TextChunking.Split.Splitter
/-!
# Reading the files to split

A file is read as a parse result, as markdown or as plain text, and each of them has a content type. In
the automatic mode the extension decides (`InputMode.resolve`).
-/

namespace TextChunking

/-- What a file is read as. -/
inductive SourceKind where
  | layout
  | markdown
  | text
  deriving Repr, DecidableEq

/-- The content type of what a file is read as. -/
def SourceKind.contentType : SourceKind → String
  | .layout => "application/json"
  | .markdown => "text/markdown"
  | .text => "text/plain"

/-- The input mode that reads every file as given. -/
def SourceKind.mode : SourceKind → InputMode
  | .layout => .layout
  | .markdown => .markdown
  | .text => .text

/-- What a file with a given extension is read as. -/
def SourceKind.ofExtension (extension : Option String) : SourceKind :=
  match extension.map fun name => String.ofList (name.toList.map Char.toLower) with
  | some "json" => .layout
  | some "md" | some "markdown" => .markdown
  | _ => .text

/-- What a mode reads the file at a path as. -/
def InputMode.resolve (mode : InputMode) (path : Path) : SourceKind :=
  match mode with
  | .auto => .ofExtension path.extension?
  | .layout => .layout
  | .markdown => .markdown
  | .text => .text

/-- An input for the splitter, and the content type of its file. -/
structure Source where
  input : SplitInput
  contentType : String

namespace Source

/-- The fault of a file that cannot be read. -/
def faultOf (path : Path) : FileFault → Fault
  | .notUtf8 => .notText path
  | .notFound => .inputNotFound path
  | cause => .file cause

/-- The input that the text of a file is. -/
def ofText (kind : SourceKind) (path : Path) (text : String) : Except Fault Source :=
  match kind with
  | .layout =>
    match ParseResult.ofText? text with
    | some result => .ok { input := .structured result, contentType := kind.contentType }
    | none => .error (.notParseResult path)
  | .markdown => .ok { input := .markdown text, contentType := kind.contentType }
  | .text => .ok { input := .text text, contentType := kind.contentType }

/-- Reads the file at a path. -/
def read (tree : Tree) (mode : InputMode) (path : Path) : Except Fault Source :=
  match tree.readText path with
  | .ok text => ofText (mode.resolve path) path text
  | .error cause => .error (faultOf path cause)

end Source

end TextChunking
