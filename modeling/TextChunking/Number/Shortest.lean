import TextChunking.Number.Binary64
/-!
# The shortest decimal that reads back

`shortest` finds, for a positive double `m * 2 ^ q`, the decimal with the fewest digits among those that
round to it, and of those with that many digits the nearest to it. For one to seventeen digits it tests
the two neighbours of the number on the grid with that many digits; the first grid with a hit wins. Of
two hits at the same distance the one with the even digit is taken.
-/

namespace TextChunking.Binary64

/-- A decimal `digits * 10 ^ exponent`. -/
structure Decimal where
  digits : Nat
  exponent : Int
  deriving Repr, DecidableEq

/-- The numbers that round to a double, as fractions over one denominator: the double itself, the ends
of the interval around it, and whether the ends belong to it. -/
structure Interval where
  low : Nat
  value : Nat
  high : Nat
  den : Nat
  closed : Bool

/-- The interval of the numbers that round to `m * 2 ^ q`. Below a power of two the doubles lie twice as
close, save for the least exponent. -/
def interval (m : Nat) (q : Int) : Interval :=
  let below := if m == hiddenBit && q != minExponent then 1 else 2
  let (up, den) := match q - 2 with
    | .ofNat e => (Nat.pow 2 e, 1)
    | .negSucc e => (1, Nat.pow 2 (e + 1))
  { low := (4 * m - below) * up, value := 4 * m * up, high := (4 * m + 2) * up, den := den
    closed := m % 2 == 0 }

/-- The least `e` at or above the start with `num / den < 10 ^ e`, searched for in `fuel` steps. -/
def magnitudeFrom (num den : Nat) : Nat → Int → Int
  | 0, e => e
  | fuel + 1, e =>
    let small := match e with
      | .ofNat k => decide (num < den * Nat.pow 10 k)
      | .negSucc k => decide (num * Nat.pow 10 (k + 1) < den)
    if small then e else magnitudeFrom num den fuel (e + 1)

/-- The number of decimal places in front of the point; negative for leading zeros behind it. -/
def magnitude (num den : Nat) : Int :=
  magnitudeFrom num den 1000 (Int.ofNat (num.log2 * 3 / 10) - Int.ofNat (den.log2 * 31 / 100) - 2)

/-- Whether `digits * 10 ^ exponent` lies in the interval. -/
def Interval.holds (i : Interval) (digits : Nat) (exponent : Int) : Bool :=
  let (n, scale) := match exponent with
    | .ofNat e => (digits * Nat.pow 10 e * i.den, 1)
    | .negSucc e => (digits * i.den, Nat.pow 10 (e + 1))
  if i.closed then i.low * scale ≤ n && n ≤ i.high * scale
  else i.low * scale < n && n < i.high * scale

/-- The better of the two neighbours of the number on the grid `10 ^ exponent`, if one of them is in the
interval. -/
def Interval.nearest? (i : Interval) (exponent : Int) : Option Nat :=
  let (num, den) := match exponent with
    | .ofNat e => (i.value, i.den * Nat.pow 10 e)
    | .negSucc e => (i.value * Nat.pow 10 (e + 1), i.den)
  let floor := num / den
  match i.holds floor exponent, i.holds (floor + 1) exponent with
  | true, true => some (roundDiv num den)
  | true, false => some floor
  | false, true => some (floor + 1)
  | false, false => none

/-- The first hit on the grids with `digits`, `digits + 1`, … digits; the integer nearest to the number
when the search ends without one. -/
def Interval.search (i : Interval) (magnitude : Int) : Nat → Nat → Decimal
  | 0, _ => ⟨roundDiv i.value i.den, 0⟩
  | fuel + 1, digits =>
    let exponent := magnitude - Int.ofNat digits
    match i.nearest? exponent with
    | some found => ⟨found, exponent⟩
    | none => i.search magnitude fuel (digits + 1)

/-- The shortest decimal that rounds to `m * 2 ^ q`. -/
def shortest (m : Nat) (q : Int) : Decimal :=
  let i := interval m q
  i.search (magnitude i.value i.den) 17 1

end TextChunking.Binary64
