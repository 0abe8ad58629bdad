import TextChunking.Number.Binary64
import TextChunking.Toml.DateTime
import TextChunking.Toml.Text
/-!
# Values of TOML

The values of a TOML document, and the reading of those that hold no others. An integer fits a signed
64-bit word; its digits may be hexadecimal, octal or binary, then without a sign. A float that is too
large is refused, and infinity has to be written as such.
-/

namespace TextChunking.Toml

/-- A value of a TOML document. -/
inductive Value where
  | string (value : String)
  | integer (value : Int)
  | float (value : Float)
  | boolean (value : Bool)
  | dateTime (value : DateTime)
  | array (items : List Value)
  | table (entries : List (String × Value))

instance : Inhabited Value := ⟨.boolean false⟩

/-! ### Numbers -/

/-- Reads a number in a base below seventeen behind its mark. -/
def radix? (base : Nat) : Scan Int := fun text => do
  let isDigit (c : Char) : Bool := (hexDigitValue? c).any fun digit => digit < base
  let (digits, rest) ← digits? isDigit text
  let value := digits.foldl (fun n c => n * base + (hexDigitValue? c).getD 0) 0
  if value < signedLimit then some (Int.ofNat value, rest) else none

/-- Splits a sign off. -/
def sign : List Char → List Char × List Char
  | '+' :: rest => ([], rest)
  | '-' :: rest => (['-'], rest)
  | text => ([], text)

/-- Reads the integer part of a number: a zero alone, or digits that do not start with one. -/
def whole? : Scan (List Char)
  | '0' :: rest => some (['0'], rest)
  | text => digits? isDecimal text

/-- Reads the point and the digits behind it, if there is a point. -/
def decimals? : Scan (List Char)
  | '.' :: rest => (digits? isDecimal rest).map fun (digits, rest) => ('.' :: digits, rest)
  | text => some ([], text)

/-- Reads the exponent, if there is one. -/
def exponent? : Scan (List Char)
  | [] => some ([], [])
  | c :: rest =>
    if c == 'e' || c == 'E' then
      let (negative, rest) := sign rest
      (digits? isDecimal rest).map fun (digits, rest) => ('e' :: negative ++ digits, rest)
    else some ([], c :: rest)

/-- Reads a decimal number. -/
def decimal? (negative : List Char) : Scan Value := fun text => do
  let (whole, rest) ← whole? text
  let (decimals, rest) ← decimals? rest
  let (exponent, rest) ← exponent? rest
  if decimals.isEmpty && exponent.isEmpty then
    pure (.integer (← readSigned? (negative ++ whole)), rest)
  else
    let x ← readFloat? (negative ++ whole ++ decimals ++ exponent)
    if x == 1.0 / 0.0 then none else some (.float x, rest)

/-- Reads a number. -/
def number? : Scan Value
  | '0' :: 'x' :: rest => (radix? 16 rest).map fun (i, rest) => (.integer i, rest)
  | '0' :: 'o' :: rest => (radix? 8 rest).map fun (i, rest) => (.integer i, rest)
  | '0' :: 'b' :: rest => (radix? 2 rest).map fun (i, rest) => (.integer i, rest)
  | text =>
    let (negative, rest) := sign text
    match rest with
    | 'i' :: 'n' :: 'f' :: rest =>
      some (.float (if negative.isEmpty then 1.0 / 0.0 else -1.0 / 0.0), rest)
    | 'n' :: 'a' :: 'n' :: rest => some (.float (0.0 / 0.0), rest)
    | rest => decimal? negative rest

/-- Reads a value that holds no others. -/
def scalar? : Scan Value
  | 't' :: 'r' :: 'u' :: 'e' :: rest => some (.boolean true, rest)
  | 'f' :: 'a' :: 'l' :: 's' :: 'e' :: rest => some (.boolean false, rest)
  | text =>
    match text? text with
    | some (s, rest) => some (.string s, rest)
    | none =>
      match dateTime? text with
      | some (value, rest) => some (.dateTime value, rest)
      | none => number? text

end TextChunking.Toml
