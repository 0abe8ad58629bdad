import TextChunking.Json.Syntax
/-!
# The value of a JSON text

`Syntax.value?` takes the value of a tree: strings must be texts, numbers must lie in the range of
doubles, and containers may be nested only to a given depth. Of several members with one key the last
one counts. `NumberText.value?` says which number the digits stand for.
-/

namespace TextChunking.Json

/-! ### Numbers -/

/-- Takes digits into a significand as long as it stays below the word limit, and gives the digits that
are left over. -/
def absorb (significand : Nat) : List Char → Nat × List Char
  | [] => (significand, [])
  | c :: rest =>
    let next := significand * 10 + (digitValue? c).getD 0
    if next < wordLimit then absorb next rest else (significand, c :: rest)

/-- A power of ten as a double. -/
def powerOfTen (n : Nat) : Float := Binary64.ofRatio (Nat.pow 10 n) 1

/-- Scales a double down by a power of ten, in steps of at most `10 ^ 308`. -/
def scaleDown (x : Float) (places : Nat) : Float :=
  if places ≤ 308 then x / powerOfTen places
  else if x == 0.0 then x
  else scaleDown (x / powerOfTen 308) (places - 308)
termination_by places
decreasing_by omega

/-- Scales a double by a power of ten; nothing when the result is infinite. -/
def scale? (x : Float) : Int → Option Float
  | .ofNat places =>
    if places ≤ 308 then
      let scaled := x * powerOfTen places
      if scaled.isInf then none else some scaled
    else if x == 0.0 then some x else none
  | .negSucc places => some (scaleDown x (places + 1))

/-- The value of the digits of an exponent, if it fits a signed 32-bit word. -/
def exponentValue? (digits : List Char) : Option Nat :=
  match readDigits (Nat.pow 2 31) 0 digits with
  | .ok value => some value
  | .error _ => none

/-- The double that a number with a fraction, an exponent or too many digits stands for. The significand
takes the digits that fit a word; a digit of the integer part that is left out counts as a place, and
one of the fraction is dropped. The significand is then scaled by a power of ten. -/
def NumberText.magnitude? (text : NumberText) : Option Float :=
  let (significand, dropped) := absorb 0 text.whole
  let fraction := text.fraction.getD []
  let (significand, unread) := absorb significand fraction
  let places : Int := Int.ofNat dropped.length - Int.ofNat (fraction.length - unread.length)
  let start := (UInt64.ofNat significand).toFloat
  match text.exponent with
  | none => scale? start places
  | some (negative, digits) =>
    match exponentValue? digits with
    | some value => scale? start (if negative then places - Int.ofNat value else places + Int.ofNat value)
    | none => if significand != 0 && !negative then none else some 0.0

/-- The number that a text stands for: an integer if it is written as one and fits a word, and otherwise
a double. A zero with a minus sign is a double. -/
def NumberText.value? (text : NumberText) : Option Number :=
  let (significand, dropped) := absorb 0 text.whole
  if text.fraction.isNone && text.exponent.isNone && dropped.isEmpty then
    if !text.negative then some (.int (.ofNat significand))
    else if significand != 0 && significand ≤ signedLimit then some (.int (-.ofNat significand))
    else some (.float (-(UInt64.ofNat significand).toFloat))
  else text.magnitude?.map fun x => .float (if text.negative then -x else x)

/-! ### Values -/

/-- How deep containers may be nested in a text. -/
def maxDepth : Nat := 127

/-- A member whose key is a text and whose value can be read. -/
def member? (read? : Syntax → Option Value) (member : StringText × Syntax) :
    Option (String × Value) := do
  let key ← member.1
  let value ← read? member.2
  pure (key, value)

namespace Syntax

/-- The value of a tree, with at most `depth` containers around one another. -/
def value? : Nat → Syntax → Option Value
  | _, .null => some .null
  | _, .bool value => some (.bool value)
  | _, .number text => text.value?.map .number
  | _, .string text => text.map .string
  | 0, .array _ => none
  | 0, .object _ => none
  | depth + 1, .array items => (items.mapM (value? depth)).map .array
  | depth + 1, .object members =>
    (members.mapM (member? (value? depth))).map fun pairs => .object (Members.ofPairs pairs)

end Syntax

/-- The value of a JSON text. -/
def Value.read? (text : String) : Option Value :=
  (Syntax.read? text).bind (Syntax.value? maxDepth)

end TextChunking.Json
