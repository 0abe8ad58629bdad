/-!
# What a terminal shows of a text

A terminal takes an escape character and what belongs to it as an instruction, and shows neither these
sequences nor control characters other than whitespace. `visible` keeps what is shown. A sequence ends with
its last character, with the two controls that cancel it, or with whitespace that is shown in spite of it;
another escape character starts a new one. The terminal reads bytes: a character beyond ASCII belongs to
the sequence that it stands in, but ends a string when one of its bytes is the terminator of strings.
-/

namespace TextChunking

/-- Where a terminal stands in a sequence. -/
inductive SequenceState where
  /-- Outside any sequence. -/
  | outside
  /-- Behind an escape character. -/
  | escaped
  /-- Behind an escape character and what makes its sequence longer. -/
  | extended
  /-- Inside a control sequence, which ends with a letter or another character of that column. -/
  | control
  /-- Inside a command for the system, which a bell ends. -/
  | command
  /-- At the start of a control string for a device. -/
  | device
  /-- Inside the parameters of a control string for a device. -/
  | deviceParameters
  /-- Inside what makes a control string for a device longer. -/
  | deviceExtended
  /-- Inside a string, which its terminator ends. -/
  | string
  deriving Repr, DecidableEq

/-- The ASCII characters that are whitespace and no vertical tabulation. -/
def isPlainSpace (c : Char) : Bool :=
  c == ' ' || c == '\t' || c == '\n' || c == '\x0c' || c == '\r'

/-- The controls of ASCII. -/
def isControl (c : Char) : Bool := c.toNat < 0x20 || c.toNat == 0x7F

/-- Whether a character has a code point in a range. -/
def isBetween (first last : Nat) (c : Char) : Bool := first ≤ c.toNat && c.toNat ≤ last

/-- The byte that ends a string. -/
def stringTerminator : UInt8 := 0x9C

/-- Whether the terminator of strings is among the bytes of a character. -/
def holdsTerminator (c : Char) : Bool := (String.utf8EncodeChar c).contains stringTerminator

namespace SequenceState

/-- The state behind a character that follows an escape character. -/
def afterEscape (c : Char) : SequenceState :=
  if c == '[' then .control
  else if c == ']' then .command
  else if c == 'P' then .device
  else if c == 'X' || c == '^' || c == '_' then .string
  else if isBetween 0x20 0x2F c then .extended
  else if isBetween 0x30 0x7E c then .outside
  else .escaped

/-- The state behind a character in the head of a control string for a device. Behind the character with
the code point `body`, or a later one, comes the string itself. -/
def afterDevice (state : SequenceState) (body : Nat) (c : Char) : SequenceState :=
  if isBetween 0x20 0x2F c then .deviceExtended
  else if isBetween body 0x7E c then .string
  else if isBetween 0x30 0x3F c then .deviceParameters
  else state

/-- The state behind a character that is not shown. -/
def next (state : SequenceState) (c : Char) : SequenceState :=
  if c == '\x1b' then .escaped
  else if c == '\x18' || c == '\x1a' then .outside
  else match state with
    | .outside => .outside
    | .escaped => afterEscape c
    | .extended => if isBetween 0x30 0x7E c then .outside else .extended
    | .control => if isBetween 0x40 0x7E c then .outside else .control
    | .command => if c == '\x07' then .outside else .command
    | .device => afterDevice .device 0x40 c
    | .deviceParameters => afterDevice .deviceParameters 0x3C c
    | .deviceExtended => afterDevice .deviceExtended 0x30 c
    | .string => if holdsTerminator c then .outside else .string

/-- Whether a character is shown. -/
def shows (state : SequenceState) (c : Char) : Bool :=
  match state with
  | .outside => !isControl c || isPlainSpace c
  | .escaped | .extended | .control => c != ' ' && isPlainSpace c
  | _ => false

end SequenceState

/-- What is shown of a text from a state on. -/
def visibleFrom (state : SequenceState) : List Char → List Char
  | [] => []
  | c :: rest =>
    if state.shows c then c :: visibleFrom .outside rest else visibleFrom (state.next c) rest

/-- What is shown of a text. -/
def visible (text : List Char) : List Char := visibleFrom .outside text

end TextChunking
