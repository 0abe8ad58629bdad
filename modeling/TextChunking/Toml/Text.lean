import TextChunking.Toml.Scan
/-!
# Strings of TOML

There are four forms of strings: with or without escapes, on one line or on many. A string on many lines
starts behind a line end that follows its opening, and up to two quotes may stand in front of the three
that close it. A string with escapes is read into its parts first, since a backslash at the end of a line
removes all blank characters that follow it but none that is escaped.
-/

namespace TextChunking.Toml

/-- A part of a string with escapes. -/
inductive TextPart where
  /-- A character that stands for itself. -/
  | plain (c : Char)
  /-- A character that was written as an escape. -/
  | escaped (c : Char)
  /-- A backslash at the end of a line. -/
  | joint
  deriving Repr, DecidableEq

/-- The character that a one-letter escape stands for. -/
def escape? : Char → Option Char
  | 'b' => some '\x08'
  | 't' => some '\t'
  | 'n' => some '\n'
  | 'f' => some '\x0c'
  | 'r' => some '\r'
  | '"' => some '"'
  | '\\' => some '\\'
  | _ => none

/-- The character whose code point hexadecimal digits write. -/
def codePoint? (digits : List Char) : Option Char := do
  let value ← digits.foldlM (fun n c => (hexDigitValue? c).map fun digit => n * 16 + digit) 0
  if value.isValidChar then some (Char.ofNat value) else none

/-- Reads the parts of a string with escapes up to its end, behind the parts `done`, the last one
first. -/
def parts? (manyLines : Bool) (done : List TextPart) : Scan (List TextPart)
  | [] => none
  | '\\' :: 'u' :: a :: b :: c :: d :: rest =>
    match codePoint? [a, b, c, d] with
    | some c => parts? manyLines (.escaped c :: done) rest
    | none => none
  | '\\' :: 'U' :: a :: b :: c :: d :: e :: f :: g :: h :: rest =>
    match codePoint? [a, b, c, d, e, f, g, h] with
    | some c => parts? manyLines (.escaped c :: done) rest
    | none => none
  | '\\' :: c :: rest =>
    match escape? c with
    | some c => parts? manyLines (.escaped c :: done) rest
    | none =>
      if manyLines && (isSpace c || c == '\n') then parts? manyLines (.plain c :: .joint :: done) rest
      else none
  | '"' :: rest =>
    if !manyLines then some (done.reverse, rest)
    else match rest with
      | '"' :: '"' :: '"' :: '"' :: rest => some ((.plain '"' :: .plain '"' :: done).reverse, rest)
      | '"' :: '"' :: '"' :: rest => some ((.plain '"' :: done).reverse, rest)
      | '"' :: '"' :: rest => some (done.reverse, rest)
      | rest => parts? manyLines (.plain '"' :: done) rest
  | c :: rest =>
    if (isPlain c && c != '\\') || (manyLines && c == '\n') then
      parts? manyLines (.plain c :: done) rest
    else none

/-- Whether a part is a blank character or a line end that stands for itself. -/
def TextPart.isGap : TextPart → Bool
  | .plain c => isSpace c || c == '\n'
  | _ => false

/-- The characters that parts make behind the characters `done`, the last one first. While `joining`,
blank characters are left out. A joint must have a line end among them. -/
def joinParts? (joining : Bool) (done : List Char) : List TextPart → Option (List Char)
  | [] => some done.reverse
  | .plain c :: rest =>
    if joining && (TextPart.plain c).isGap then joinParts? true done rest
    else joinParts? false (c :: done) rest
  | .escaped c :: rest => joinParts? false (c :: done) rest
  | .joint :: rest =>
    if (rest.takeWhile TextPart.isGap).contains (.plain '\n') then joinParts? true done rest
    else none

/-- Reads a string without escapes up to its end, behind the characters `done`, the last one first. -/
def literal? (manyLines : Bool) (done : List Char) : Scan (List Char)
  | [] => none
  | '\x27' :: rest =>
    if !manyLines then some (done.reverse, rest)
    else match rest with
      | '\x27' :: '\x27' :: '\x27' :: '\x27' :: rest => some (('\x27' :: '\x27' :: done).reverse, rest)
      | '\x27' :: '\x27' :: '\x27' :: rest => some (('\x27' :: done).reverse, rest)
      | '\x27' :: '\x27' :: rest => some (done.reverse, rest)
      | rest => literal? manyLines ('\x27' :: done) rest
  | c :: rest =>
    if isPlain c || (manyLines && c == '\n') then literal? manyLines (c :: done) rest else none

/-- The text behind a line end at its front, if there is one. -/
def skipNewline : List Char → List Char
  | '\n' :: rest => rest
  | text => text

/-- Reads a string with escapes behind its opening. -/
def basicText? (manyLines : Bool) : Scan String := fun text => do
  let (parts, rest) ← parts? manyLines [] text
  let text ← joinParts? false [] parts
  pure (String.ofList text, rest)

/-- Reads a string without escapes behind its opening. -/
def literalText? (manyLines : Bool) : Scan String := fun text =>
  (literal? manyLines [] text).map fun (text, rest) => (String.ofList text, rest)

/-- Reads a string on one line. -/
def lineText? : Scan String
  | '"' :: rest => basicText? false rest
  | '\x27' :: rest => literalText? false rest
  | _ => none

/-- Reads a string of any form. -/
def text? : Scan String
  | '"' :: '"' :: '"' :: rest => basicText? true (skipNewline rest)
  | '\x27' :: '\x27' :: '\x27' :: rest => literalText? true (skipNewline rest)
  | text => lineText? text

/-! ### Keys -/

/-- A character of a key that needs no quotes. -/
def isBare (c : Char) : Bool := c.isAlphanum || c == '_' || c == '-'

/-- Reads one part of a key. -/
def keyPart? : Scan String := fun text =>
  match text.span isBare with
  | ([], _) => lineText? text
  | (bare, rest) => some (String.ofList bare, rest)

/-- The greatest number of parts of a key. -/
def maxKeyParts : Nat := 79

/-- Reads a key of at most the given number of parts, with dots between them and blank characters around
them. -/
def keyUpTo? : Nat → Scan (List String)
  | 0, _ => none
  | parts + 1, text => do
    let (part, rest) ← keyPart? (skipSpaces text)
    match skipSpaces rest with
    | '.' :: rest => (keyUpTo? parts rest).map fun (more, rest) => (part :: more, rest)
    | rest => some ([part], rest)

/-- Reads a key: the tables it leads through, and the name in the last of them. -/
def key? : Scan (List String × String) := fun text => do
  let (parts, rest) ← keyUpTo? maxKeyParts text
  pure ((parts.dropLast, ← parts.getLast?), rest)

end TextChunking.Toml
