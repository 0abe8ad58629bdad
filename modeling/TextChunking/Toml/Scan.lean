import TextChunking.Number.Integer
/-!
# Reading TOML from the left

What the readers of a TOML text share. A `Scan` reads something at the front of a text and gives what is
left behind it. Line ends are made uniform before anything else is read (`uniformLines?`), so that a line
feed is the only end of a line from then on.
-/

namespace TextChunking.Toml

/-- Reads something at the front of a text, and gives what is left behind it. -/
abbrev Scan (α : Type) : Type := List Char → Option (α × List Char)

/-- Writes every line end as a line feed. A carriage return that ends no line is refused. -/
def uniformLines? (done : List Char) : List Char → Option (List Char)
  | [] => some done.reverse
  | '\r' :: '\n' :: rest => uniformLines? ('\n' :: done) rest
  | c :: rest => if c == '\r' then none else uniformLines? (c :: done) rest

/-- The blank characters of a line. -/
def isSpace (c : Char) : Bool := c == ' ' || c == '\t'

/-- A character that may stand as itself in comments and strings: a tab, or any but a control. -/
def isPlain (c : Char) : Bool := c == '\t' || (0x20 ≤ c.toNat && c.toNat != 0x7F)

/-- The text behind the blank characters at its front. -/
def skipSpaces (text : List Char) : List Char := text.dropWhile isSpace

/-- The text behind a comment at its front, if there is one. -/
def skipComment : List Char → List Char
  | '#' :: rest => rest.dropWhile isPlain
  | text => text

/-- The text behind the rest of a line that says nothing more. -/
def lineEnd? (text : List Char) : Option (List Char) :=
  match skipComment (skipSpaces text) with
  | [] => some []
  | '\n' :: rest => some rest
  | _ => none

/-- The text behind blank characters, line ends and comments. -/
def skipGap (inComment : Bool) : List Char → List Char
  | [] => []
  | c :: rest =>
    if c == '\n' then skipGap false rest
    else if inComment then if isPlain c then skipGap true rest else c :: rest
    else if isSpace c then skipGap false rest
    else if c == '#' then skipGap true rest
    else c :: rest

/-- Reads one character. -/
def mark? (c : Char) : List Char → Option (List Char)
  | [] => none
  | d :: rest => if d == c then some rest else none

/-! ### Digits -/

/-- Reads the digits of a class behind those in `done`, the last one first. A low line may stand between
two digits, and nowhere else. -/
def moreDigits? (isDigit : Char → Bool) (done : List Char) : Scan (List Char)
  | '_' :: c :: rest => if isDigit c then moreDigits? isDigit (c :: done) rest else none
  | c :: rest =>
    if isDigit c then moreDigits? isDigit (c :: done) rest
    else if c == '_' then none
    else some (done.reverse, c :: rest)
  | [] => some (done.reverse, [])

/-- Reads at least one digit of a class. -/
def digits? (isDigit : Char → Bool) : Scan (List Char)
  | [] => none
  | c :: rest => if isDigit c then moreDigits? isDigit [c] rest else none

/-- A decimal digit. -/
def isDecimal (c : Char) : Bool := (digitValue? c).isSome

end TextChunking.Toml
