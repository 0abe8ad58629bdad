import TextChunking.Json.Value
import TextChunking.Number.Integer
/-!
# JSON texts as they are written

Between the characters of a JSON text and its value stands the `Syntax` tree, which keeps what only some
readers look at: the digits of a number, the members of an object in their order and with repeated keys,
and strings that no Unicode text matches because a surrogate stands alone in them. A reader that skips a
member accepts any tree; one that takes its value asks for `Syntax.value?`.

`tokens?` cuts a text into its punctuation, literals, numbers and strings, and refuses a text with
anything else in it. Every token takes at least one character, so that the length of the text bounds the
number of steps. A string is read in two steps: its parts first, which are characters and UTF-16 units
written as escapes, and then the text that the parts make together.

`build?` reads a row of tokens with a stack of the containers that are open. It either waits for a value
or has just finished one, and every token decides between one step and refusal; so the tree is built in
one pass however deep the containers are nested.
-/

namespace TextChunking.Json

/-! ### Syntax trees -/

/-- A number as it is written: its digits in front of the point, behind it, and in the exponent. -/
structure NumberText where
  negative : Bool
  whole : List Char
  fraction : Option (List Char)
  exponent : Option (Bool × List Char)
  deriving Repr, DecidableEq

/-- The text of a string, or nothing when a surrogate stands alone in it. -/
abbrev StringText : Type := Option String

/-- A JSON text, read for its form only. -/
inductive Syntax where
  | null
  | bool (value : Bool)
  | number (text : NumberText)
  | string (text : StringText)
  | array (items : List Syntax)
  | object (members : List (StringText × Syntax))

instance : Inhabited Syntax := ⟨.null⟩

/-! ### Tokens -/

/-- A token of a JSON text. -/
inductive Token where
  | openBrace
  | closeBrace
  | openBracket
  | closeBracket
  | comma
  | colon
  | null
  | bool (value : Bool)
  | number (text : NumberText)
  | string (text : StringText)
  deriving Repr, DecidableEq

/-- The four characters that may stand between tokens. -/
def isSpace (c : Char) : Bool := c == ' ' || c == '\n' || c == '\t' || c == '\r'

/-! ### Strings -/

/-- A part of a string: a character, or a UTF-16 unit that was written by its number. -/
inductive StringPart where
  | char (c : Char)
  | unit (value : Nat)
  deriving Repr, DecidableEq

/-- The number that four hexadecimal digits write. -/
def hexUnit? (a b c d : Char) : Option Nat := do
  let a ← hexDigitValue? a
  let b ← hexDigitValue? b
  let c ← hexDigitValue? c
  let d ← hexDigitValue? d
  pure (((a * 16 + b) * 16 + c) * 16 + d)

/-- The character that a one-letter escape stands for. -/
def escape? : Char → Option Char
  | '"' => some '"'
  | '\\' => some '\\'
  | '/' => some '/'
  | 'b' => some '\x08'
  | 'f' => some '\x0c'
  | 'n' => some '\n'
  | 'r' => some '\r'
  | 't' => some '\t'
  | _ => none

/-- Reads the parts of a string up to the closing quote, behind the parts `done`, the last one first. -/
def stringParts? (done : List StringPart) : List Char → Option (List StringPart × List Char)
  | [] => none
  | '"' :: rest => some (done.reverse, rest)
  | '\\' :: 'u' :: a :: b :: c :: d :: rest =>
    match hexUnit? a b c d with
    | some value => stringParts? (.unit value :: done) rest
    | none => none
  | '\\' :: c :: rest =>
    match escape? c with
    | some c => stringParts? (.char c :: done) rest
    | none => none
  | c :: rest => if c.toNat < 0x20 || c == '\\' then none else stringParts? (.char c :: done) rest

/-- A UTF-16 unit that starts a pair. -/
def isHighSurrogate (unit : Nat) : Bool := 0xD800 ≤ unit && unit < 0xDC00

/-- A UTF-16 unit that ends a pair. -/
def isLowSurrogate (unit : Nat) : Bool := 0xDC00 ≤ unit && unit < 0xE000

/-- Reads the characters that the parts of a string make, behind the characters `done`, the last one
first. -/
def joinParts? (done : List Char) : List StringPart → Option (List Char)
  | [] => some done.reverse
  | .char c :: rest => joinParts? (c :: done) rest
  | .unit high :: rest =>
    if isHighSurrogate high then
      match rest with
      | .unit low :: rest =>
        if isLowSurrogate low then
          joinParts? (Char.ofNat (0x10000 + (high - 0xD800) * 0x400 + (low - 0xDC00)) :: done) rest
        else none
      | _ => none
    else if isLowSurrogate high then none
    else joinParts? (Char.ofNat high :: done) rest

/-- The text that the parts of a string make. -/
def StringText.ofParts (parts : List StringPart) : StringText :=
  (joinParts? [] parts).map String.ofList

/-! ### Numbers -/

/-- The decimal digits at the front of a text, and what follows them. -/
def digits (text : List Char) : List Char × List Char :=
  text.span fun c => '0' ≤ c ∧ c ≤ '9'

/-- Reads the digits of an integer part: a zero alone, or digits that do not start with one. -/
def wholePart? : List Char → Option (List Char × List Char)
  | '0' :: rest => some (['0'], rest)
  | text => match digits text with
    | ([], _) => none
    | found => some found

/-- Reads the point and the digits behind it, if there is a point. -/
def fractionPart? : List Char → Option (Option (List Char) × List Char)
  | '.' :: rest => match digits rest with
    | ([], _) => none
    | (found, rest) => some (some found, rest)
  | text => some (none, text)

/-- Splits the sign off an exponent. -/
def exponentSign : List Char → Bool × List Char
  | '+' :: rest => (false, rest)
  | '-' :: rest => (true, rest)
  | text => (false, text)

/-- Reads the exponent, if there is one. -/
def exponentPart? : List Char → Option (Option (Bool × List Char) × List Char)
  | [] => some (none, [])
  | c :: rest =>
    if c == 'e' || c == 'E' then
      let (negative, rest) := exponentSign rest
      match digits rest with
      | ([], _) => none
      | (found, rest) => some (some (negative, found), rest)
    else some (none, c :: rest)

/-- Reads a number without its sign. -/
def numberText? (negative : Bool) (text : List Char) : Option (NumberText × List Char) := do
  let (whole, rest) ← wholePart? text
  let (fraction, rest) ← fractionPart? rest
  let (exponent, rest) ← exponentPart? rest
  pure (⟨negative, whole, fraction, exponent⟩, rest)

/-! ### Cutting a text into tokens -/

/-- Reads the token at the front of a text. -/
def token? : List Char → Option (Token × List Char)
  | '{' :: rest => some (.openBrace, rest)
  | '}' :: rest => some (.closeBrace, rest)
  | '[' :: rest => some (.openBracket, rest)
  | ']' :: rest => some (.closeBracket, rest)
  | ',' :: rest => some (.comma, rest)
  | ':' :: rest => some (.colon, rest)
  | 'n' :: 'u' :: 'l' :: 'l' :: rest => some (.null, rest)
  | 't' :: 'r' :: 'u' :: 'e' :: rest => some (.bool true, rest)
  | 'f' :: 'a' :: 'l' :: 's' :: 'e' :: rest => some (.bool false, rest)
  | '"' :: rest =>
    (stringParts? [] rest).map fun (parts, rest) => (.string (StringText.ofParts parts), rest)
  | '-' :: rest => (numberText? true rest).map fun (text, rest) => (.number text, rest)
  | text => (numberText? false text).map fun (text, rest) => (.number text, rest)

/-- Reads the tokens of a text behind those in `done`, the last one first, in at most `fuel` steps. -/
def tokensFrom? : Nat → List Token → List Char → Option (List Token)
  | 0, done, text => if text.isEmpty then some done.reverse else none
  | fuel + 1, done, text =>
    match text with
    | [] => some done.reverse
    | c :: rest =>
      if isSpace c then tokensFrom? fuel done rest
      else match token? (c :: rest) with
        | some (token, rest) => tokensFrom? fuel (token :: done) rest
        | none => none

/-- The tokens of a text. -/
def tokens? (text : List Char) : Option (List Token) := tokensFrom? text.length [] text

/-! ### The tree of a row of tokens -/

/-- A container that is open: what it holds so far, the last item first, and for an object the key of
the value that comes next. -/
inductive Container where
  | array (items : List Syntax)
  | object (members : List (StringText × Syntax)) (key : StringText)

/-- Reads tokens inside open containers. `finished` is the value that was just read, if there is one. -/
def build? : Option Syntax → List Container → List Token → Option Syntax
  | none, stack, .null :: rest => build? (some .null) stack rest
  | none, stack, .bool value :: rest => build? (some (.bool value)) stack rest
  | none, stack, .number text :: rest => build? (some (.number text)) stack rest
  | none, stack, .string text :: rest => build? (some (.string text)) stack rest
  | none, stack, .openBracket :: .closeBracket :: rest => build? (some (.array [])) stack rest
  | none, stack, .openBracket :: rest => build? none (.array [] :: stack) rest
  | none, stack, .openBrace :: .closeBrace :: rest => build? (some (.object [])) stack rest
  | none, stack, .openBrace :: .string key :: .colon :: rest =>
    build? none (.object [] key :: stack) rest
  | some value, [], [] => some value
  | some value, .array items :: stack, .comma :: rest =>
    build? none (.array (value :: items) :: stack) rest
  | some value, .array items :: stack, .closeBracket :: rest =>
    build? (some (.array (value :: items).reverse)) stack rest
  | some value, .object members key :: stack, .comma :: .string next :: .colon :: rest =>
    build? none (.object ((key, value) :: members) next :: stack) rest
  | some value, .object members key :: stack, .closeBrace :: rest =>
    build? (some (.object ((key, value) :: members).reverse)) stack rest
  | _, _, _ => none

/-- Reads a JSON text for its form. -/
def Syntax.read? (text : String) : Option Syntax :=
  (tokens? text.toList).bind (build? none [])

end TextChunking.Json
