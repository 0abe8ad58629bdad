import TextChunking.Number.Integer
/-!
# Binary floating-point numbers, exactly

A finite double is `m * 2 ^ q` for a natural `m` and an integer `q`. `Binary64.parts` takes a double
apart and `Binary64.ofRatio` rounds a quotient of naturals to the nearest double, a tie to the even one.
All that is in between, such as decimal digits, is computed in exact natural arithmetic.

A double is written with a given number of decimal places by rounding its exact binary value, a tie to
the even neighbour. The sign of a negative number is kept even where only zeros are left of it. The
texts that are read as a double hold an optional sign, then a word for infinity or NaN in any case, or
decimal digits with an optional point among or around them and an optional exponent.
-/

namespace TextChunking

/-- What a double stands for. -/
inductive Binary64 where
  | nan
  | infinite (negative : Bool)
  /-- The number `mantissa * 2 ^ exponent`, or its negative. -/
  | finite (negative : Bool) (mantissa : Nat) (exponent : Int)
  deriving Repr, DecidableEq

namespace Binary64

/-- The least exponent of a double's last bit. -/
def minExponent : Int := -1074

/-- The greatest exponent of a double's last bit. -/
def maxExponent : Int := 971

/-- The mantissa of a power of two. -/
def hiddenBit : Nat := Nat.pow 2 52

/-- Takes the bits of a double apart. -/
def ofBits (bits : Nat) : Binary64 :=
  let negative := bits / signedLimit % 2 == 1
  let exponent := bits / hiddenBit % Nat.pow 2 11
  let fraction := bits % hiddenBit
  if exponent == 2047 then
    if fraction == 0 then .infinite negative else .nan
  else if exponent == 0 then .finite negative fraction minExponent
  else .finite negative (hiddenBit + fraction) (Int.ofNat exponent - 1075)

/-- What the double `x` stands for. -/
def parts (x : Float) : Binary64 := ofBits x.toBits.toNat

/-- The quotient rounded to the nearest natural number, a tie to the even one. -/
def roundDiv (num den : Nat) : Nat :=
  let q := num / den
  let r := num % den
  if 2 * r < den then q else if 2 * r > den then q + 1 else if q % 2 == 0 then q else q + 1

/-- `num / den` scaled by `2 ^ (-exponent)`, as a fraction. -/
def scaled (num den : Nat) (exponent : Int) : Nat × Nat :=
  match exponent with
  | .ofNat e => (num, den * Nat.pow 2 e)
  | .negSucc e => (num * Nat.pow 2 (e + 1), den)

/-- The exponent for which `num / den` has 53 bits in front of the point, but not below the least. -/
def exponentFor (num den : Nat) : Int :=
  let guess : Int := Int.ofNat num.log2 - Int.ofNat den.log2 - 52
  let (n, d) := scaled num den guess
  max minExponent (if n < hiddenBit * d then guess - 1 else guess)

/-- The double with the given bits. -/
def ofNatBits (bits : Nat) : Float := Float.ofBits (UInt64.ofNat bits)

/-- The double `mantissa * 2 ^ exponent` for a mantissa of at most 53 bits; infinite when it is too
large. -/
def build (mantissa : Nat) (exponent : Int) : Float :=
  if mantissa < hiddenBit then ofNatBits mantissa
  else if maxExponent < exponent then ofNatBits (2047 * hiddenBit)
  else ofNatBits ((exponent + 1075).toNat * hiddenBit + (mantissa - hiddenBit))

/-- The double nearest to `num / den`. -/
def ofRatio (num den : Nat) : Float :=
  if num == 0 then ofNatBits 0
  else
    let exponent := exponentFor num den
    let (n, d) := scaled num den exponent
    let mantissa := roundDiv n d
    if mantissa == 2 * hiddenBit then build hiddenBit (exponent + 1) else build mantissa exponent

/-- The double nearest to `significand * 10 ^ exponent`. Beyond four hundred places on either side the
result is known without the power. -/
def ofDecimal (significand : Nat) (exponent : Int) : Float :=
  let places : Int := Int.ofNat (Nat.toDigits 10 significand).length
  if significand == 0 || exponent + places < -400 then ofNatBits 0
  else if 400 < exponent + places then ofNatBits (2047 * hiddenBit)
  else
    match exponent with
    | .ofNat e => ofRatio (significand * Nat.pow 10 e) 1
    | .negSucc e => ofRatio significand (Nat.pow 10 (e + 1))

/-- The integer part of a double, forced into the signed 64-bit range; zero for NaN. -/
def toSigned (x : Float) : Int :=
  match parts x with
  | .nan => 0
  | .infinite negative => if negative then -Int.ofNat signedLimit else Int.ofNat signedLimit - 1
  | .finite negative mantissa exponent =>
    let magnitude := match exponent with
      | .ofNat e => mantissa * Nat.pow 2 e
      | .negSucc e => mantissa / Nat.pow 2 (e + 1)
    if negative then max (-Int.ofNat signedLimit) (-Int.ofNat magnitude)
    else min (Int.ofNat signedLimit - 1) (Int.ofNat magnitude)

end Binary64

/-! ### Decimals with a fixed number of places -/

namespace Binary64

/-- The number of units of the last of `places` decimal places that is nearest to
`mantissa * 2 ^ exponent`. -/
def fixedUnits (mantissa : Nat) (exponent : Int) (places : Nat) : Nat :=
  match exponent with
  | .ofNat e => mantissa * Nat.pow 2 e * Nat.pow 10 places
  | .negSucc e => roundDiv (mantissa * Nat.pow 10 places) (Nat.pow 2 (e + 1))

/-- `units` of the last of `places` decimal places, written out. -/
def writeUnits (units places : Nat) : String :=
  let whole := toString (units / Nat.pow 10 places)
  if places == 0 then whole
  else
    let fraction := Nat.toDigits 10 (units % Nat.pow 10 places)
    whole ++ "." ++ String.ofList (List.replicate (places - fraction.length) '0' ++ fraction)

/-- A double with exactly `places` decimal places. -/
def writeFixed (x : Float) (places : Nat) : String :=
  match parts x with
  | .nan => "NaN"
  | .infinite negative => if negative then "-inf" else "inf"
  | .finite negative mantissa exponent =>
    (if negative then "-" else "") ++ writeUnits (fixedUnits mantissa exponent places) places

end Binary64

/-! ### Literals -/

/-- The decimal digits at the front of a text, and what follows them. -/
def spanDigits (text : List Char) : List Char × List Char :=
  text.span fun c => (digitValue? c).isSome

/-- The natural number that ASCII digits write. -/
def digitsValue (digits : List Char) : Nat :=
  digits.foldl (fun value c => value * 10 + (digitValue? c).getD 0) 0

/-- Reads a signed exponent that fills a whole text. -/
def readExponent? (text : List Char) : Option Int :=
  let (negative, digits) := match text with
    | '+' :: rest => (false, rest)
    | '-' :: rest => (true, rest)
    | rest => (false, rest)
  if digits.isEmpty || !digits.all fun c => (digitValue? c).isSome then none
  else some (if negative then -Int.ofNat (digitsValue digits) else Int.ofNat (digitsValue digits))

/-- Reads a decimal without a sign. -/
def readDecimal? (text : List Char) : Option Float :=
  let (whole, rest) := spanDigits text
  let (fraction, rest) := match rest with
    | '.' :: rest => spanDigits rest
    | rest => ([], rest)
  if whole.isEmpty && fraction.isEmpty then none
  else
    let exponent? := match rest with
      | [] => some 0
      | c :: rest => if c == 'e' || c == 'E' then readExponent? rest else none
    exponent?.map fun exponent =>
      Binary64.ofDecimal (digitsValue (whole ++ fraction)) (exponent - Int.ofNat fraction.length)

/-- Reads a literal without a sign. -/
def readMagnitude? (text : List Char) : Option Float :=
  let word := text.map Char.toLower
  if word == "inf".toList || word == "infinity".toList then some (1.0 / 0.0)
  else if word == "nan".toList then some (0.0 / 0.0)
  else readDecimal? text

/-- Reads a floating-point literal that fills a whole text. -/
def readFloat? : List Char → Option Float
  | '+' :: rest => readMagnitude? rest
  | '-' :: rest => (readMagnitude? rest).map fun x => -x
  | text => readMagnitude? text

end TextChunking
