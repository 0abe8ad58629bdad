/-!
# Integers in decimal

Reading of decimal integers that have to fit a 64-bit word. A sign may stand in front of the digits, a
minus only where the word is signed. `IntegerFault` says what is wrong with a text that is not such a
number; the digits are read from the left, so the first fault in that order is the one reported.
-/

namespace TextChunking

/-- One more than the greatest unsigned 64-bit integer. -/
def wordLimit : Nat := Nat.pow 2 64

/-- One more than the greatest signed 64-bit integer. -/
def signedLimit : Nat := Nat.pow 2 63

/-- Why a text is not an integer of the kind that is asked for. -/
inductive IntegerFault where
  | empty
  | invalidDigit
  | tooLarge
  deriving Repr, DecidableEq

/-- The wording of a fault. -/
def IntegerFault.message : IntegerFault → String
  | .empty => "cannot parse integer from empty string"
  | .invalidDigit => "invalid digit found in string"
  | .tooLarge => "number too large to fit in target type"

/-- The value of an ASCII digit. -/
def digitValue? (c : Char) : Option Nat :=
  if '0' ≤ c ∧ c ≤ '9' then some (c.toNat - '0'.toNat) else none

/-- The value of a hexadecimal digit. -/
def hexDigitValue? (c : Char) : Option Nat :=
  if '0' ≤ c ∧ c ≤ '9' then some (c.toNat - '0'.toNat)
  else if 'a' ≤ c ∧ c ≤ 'f' then some (c.toNat - 'a'.toNat + 10)
  else if 'A' ≤ c ∧ c ≤ 'F' then some (c.toNat - 'A'.toNat + 10)
  else none

/-- Reads digits behind the number read so far, which stays below `limit`. -/
def readDigits (limit : Nat) : Nat → List Char → Except IntegerFault Nat
  | value, [] => .ok value
  | value, c :: rest =>
    match digitValue? c with
    | none => .error .invalidDigit
    | some digit =>
      if value * 10 + digit < limit then readDigits limit (value * 10 + digit) rest
      else .error .tooLarge

/-- Reads a number below `limit` from at least one digit. -/
def readNatural (limit : Nat) (text : List Char) : Except IntegerFault Nat :=
  if text.isEmpty then .error .invalidDigit else readDigits limit 0 text

/-- Reads an unsigned 64-bit integer, with or without a plus sign. -/
def readUnsigned : List Char → Except IntegerFault Nat
  | [] => .error .empty
  | '+' :: rest => readNatural wordLimit rest
  | text => readNatural wordLimit text

/-- Reads a signed 64-bit integer. -/
def readSigned? : List Char → Option Int
  | '+' :: rest => (readNatural signedLimit rest).toOption.map Int.ofNat
  | '-' :: rest => (readNatural (signedLimit + 1) rest).toOption.map fun n => -Int.ofNat n
  | text => (readNatural signedLimit text).toOption.map Int.ofNat

end TextChunking
