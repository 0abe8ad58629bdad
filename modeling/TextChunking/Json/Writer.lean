import TextChunking.Json.Value
/-!
# Writing JSON

A value is written either without any blank character or with one item a line and two spaces of
indentation a level. Members are written in the order in which the value holds them. A double is
written with the fewest digits that read back, positionally from `10 ^ -5` up to `10 ^ 16` and with a
signed exponent elsewhere, and always so that it cannot be taken for an integer.
-/

namespace TextChunking.Json

/-! ### Numbers -/

/-- The digits of a decimal without the zeros at its end, and how many zeros those were. -/
def stripZeros (digits : List Char) : List Char × Nat :=
  let kept := (digits.reverse.dropWhile (· == '0')).reverse
  (kept, digits.length - kept.length)

/-- A positive decimal that has `digits` and the first of them at the power `lead` of ten. -/
def decimalText (digits : List Char) (lead : Int) : List Char :=
  match lead with
  | .ofNat e =>
    if 16 ≤ e then exponential digits ('+' :: Nat.toDigits 10 e)
    else if digits.length ≤ e + 1 then
      digits ++ List.replicate (e + 1 - digits.length) '0' ++ ['.', '0']
    else digits.take (e + 1) ++ '.' :: digits.drop (e + 1)
  | .negSucc e =>
    if 5 ≤ e then exponential digits ('-' :: Nat.toDigits 10 (e + 1))
    else ['0', '.'] ++ List.replicate e '0' ++ digits
where
  /-- One digit in front of the point, and the exponent. -/
  exponential : List Char → List Char → List Char
    | [], exponent => 'e' :: exponent
    | [d], exponent => d :: 'e' :: exponent
    | d :: rest, exponent => d :: '.' :: rest ++ 'e' :: exponent

/-- A finite double; the words for the others are no JSON. -/
def floatText (x : Float) : List Char :=
  match Binary64.parts x with
  | .nan => "NaN".toList
  | .infinite negative => if negative then "-inf".toList else "inf".toList
  | .finite negative mantissa exponent =>
    let sign := if negative then ['-'] else []
    if mantissa == 0 then sign ++ "0.0".toList
    else
      let decimal := Binary64.shortest mantissa exponent
      let (digits, zeros) := stripZeros (Nat.toDigits 10 decimal.digits)
      sign ++ decimalText digits
        (decimal.exponent + Int.ofNat zeros + Int.ofNat digits.length - 1)

/-- An integer. -/
def intText : Int → List Char
  | .ofNat n => Nat.toDigits 10 n
  | .negSucc n => '-' :: Nat.toDigits 10 (n + 1)

/-- A number. -/
def Number.text : Number → List Char
  | .int i => intText i
  | .float x => floatText x

/-! ### Strings -/

/-- A lower-case hexadecimal digit. -/
def hexDigit (n : Nat) : Char := if n < 10 then Char.ofNat (0x30 + n) else Char.ofNat (0x57 + n)

/-- What stands for a character inside a string. -/
def stringChar (c : Char) : List Char :=
  if c == '"' || c == '\\' then ['\\', c]
  else if 0x20 ≤ c.toNat then [c]
  else if c == '\n' then ['\\', 'n']
  else if c == '\t' then ['\\', 't']
  else if c == '\r' then ['\\', 'r']
  else if c == '\x08' then ['\\', 'b']
  else if c == '\x0c' then ['\\', 'f']
  else ['\\', 'u', '0', '0', hexDigit (c.toNat / 16), hexDigit (c.toNat % 16)]

/-- A string. -/
def stringText (s : String) : List Char := '"' :: (s.toList.flatMap stringChar ++ ['"'])

/-! ### Values without blanks -/

mutual

/-- A value without blank characters between its tokens. -/
def Value.compactText : Value → List Char
  | .null => "null".toList
  | .bool true => "true".toList
  | .bool false => "false".toList
  | .number n => n.text
  | .string s => stringText s
  | .array [] => ['[', ']']
  | .array (item :: rest) => '[' :: (item.compactText ++ compactItems rest)
  | .object [] => ['{', '}']
  | .object ((key, item) :: rest) =>
    '{' :: (stringText key ++ ':' :: (item.compactText ++ compactMembers rest))

/-- The items of an array after the first, and its end. -/
def compactItems : List Value → List Char
  | [] => [']']
  | item :: rest => ',' :: (item.compactText ++ compactItems rest)

/-- The members of an object after the first, and its end. -/
def compactMembers : List (String × Value) → List Char
  | [] => ['}']
  | (key, item) :: rest => ',' :: (stringText key ++ ':' :: (item.compactText ++ compactMembers rest))

end

/-- A value as a string without blank characters between its tokens. -/
def Value.compact (value : Value) : String := String.ofList value.compactText

/-! ### Values on many lines -/

/-- A line feed and the indentation of a level. -/
def newLine (level : Nat) : List Char := '\n' :: List.replicate (2 * level) ' '

mutual

/-- A value with one item a line, inside `level` containers. -/
def Value.prettyText (level : Nat) : Value → List Char
  | .array (item :: rest) =>
    '[' :: (newLine (level + 1) ++ (item.prettyText (level + 1) ++ prettyItems level rest))
  | .object ((key, item) :: rest) =>
    '{' :: (newLine (level + 1) ++ (stringText key ++ ':' :: ' ' ::
      (item.prettyText (level + 1) ++ prettyMembers level rest)))
  | .null => "null".toList
  | .bool true => "true".toList
  | .bool false => "false".toList
  | .number n => n.text
  | .string s => stringText s
  | .array [] => ['[', ']']
  | .object [] => ['{', '}']

/-- The items of an array after the first, and its end. -/
def prettyItems (level : Nat) : List Value → List Char
  | [] => newLine level ++ [']']
  | item :: rest =>
    ',' :: (newLine (level + 1) ++ (item.prettyText (level + 1) ++ prettyItems level rest))

/-- The members of an object after the first, and its end. -/
def prettyMembers (level : Nat) : List (String × Value) → List Char
  | [] => newLine level ++ ['}']
  | (key, item) :: rest =>
    ',' :: (newLine (level + 1) ++ (stringText key ++ ':' :: ' ' ::
      (item.prettyText (level + 1) ++ prettyMembers level rest)))

end

/-- A value as a string with one item a line. -/
def Value.pretty (value : Value) : String := String.ofList (value.prettyText 0)

end TextChunking.Json
