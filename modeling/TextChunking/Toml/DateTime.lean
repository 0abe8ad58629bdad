import TextChunking.Toml.Scan
/-!
# Dates and times of TOML

A date of the proleptic Gregorian calendar, a time of day, or both with or without an offset from
universal time. `DateTime.text` writes them in one form, whichever of the allowed spellings was read.
-/

namespace TextChunking.Toml

/-- A day of the calendar. -/
structure Date where
  year : Nat
  month : Nat
  day : Nat
  deriving Repr, DecidableEq

/-- A time of day; the second sixty is a leap second. -/
structure Time where
  hour : Nat
  minute : Nat
  second : Nat
  nanosecond : Nat
  deriving Repr, DecidableEq

/-- How far a time is ahead of universal time. -/
inductive Offset where
  /-- Universal time itself. -/
  | universal
  | minutes (ahead : Int)
  deriving Repr, DecidableEq

/-- A date, a time, or both. -/
inductive DateTime where
  | date (date : Date)
  | time (time : Time)
  | both (date : Date) (time : Time) (offset : Option Offset)
  deriving Repr, DecidableEq

/-! ### Reading -/

/-- Whether a year has a leap day. -/
def isLeapYear (year : Nat) : Bool := year % 4 == 0 && (year % 100 != 0 || year % 400 == 0)

/-- The number of days of a month. -/
def daysIn (year month : Nat) : Nat :=
  if month == 2 then if isLeapYear year then 29 else 28
  else if [4, 6, 9, 11].contains month then 30
  else 31

/-- Reads a number of two digits. -/
def twoDigits? : Scan Nat
  | a :: b :: rest => do pure ((← digitValue? a) * 10 + (← digitValue? b), rest)
  | _ => none

/-- Reads a date. -/
def date? : Scan Date := fun text => do
  let (century, rest) ← twoDigits? text
  let (year, rest) ← twoDigits? rest
  let year := century * 100 + year
  let (month, rest) ← twoDigits? (← mark? '-' rest)
  let (day, rest) ← twoDigits? (← mark? '-' rest)
  if 1 ≤ month ∧ month ≤ 12 ∧ 1 ≤ day ∧ day ≤ daysIn year month then some (⟨year, month, day⟩, rest)
  else none

/-- The nanoseconds that the digits of a fraction of a second write; digits behind the ninth count for
nothing. -/
def nanoseconds (digits : List Char) : Nat :=
  let kept := digits.take 9
  kept.foldl (fun n c => n * 10 + (digitValue? c).getD 0) 0 * Nat.pow 10 (9 - kept.length)

/-- Reads the fraction of a second, if there is one. -/
def fraction? : Scan Nat
  | '.' :: rest => match rest.span isDecimal with
    | ([], _) => none
    | (digits, rest) => some (nanoseconds digits, rest)
  | text => some (0, text)

/-- Reads an hour and a minute. -/
def hourMinute? : Scan (Nat × Nat) := fun text => do
  let (hour, rest) ← twoDigits? text
  let (minute, rest) ← twoDigits? (← mark? ':' rest)
  if hour ≤ 23 ∧ minute ≤ 59 then some ((hour, minute), rest) else none

/-- Reads a time. -/
def time? : Scan Time := fun text => do
  let ((hour, minute), rest) ← hourMinute? text
  let (second, rest) ← twoDigits? (← mark? ':' rest)
  if 60 < second then none
  let (nanosecond, rest) ← fraction? rest
  pure (⟨hour, minute, second, nanosecond⟩, rest)

/-- Reads an offset, if there is one. -/
def offset? : Scan (Option Offset)
  | '+' :: rest =>
    (hourMinute? rest).map fun ((hour, minute), rest) =>
      (some (.minutes (Int.ofNat (hour * 60 + minute))), rest)
  | '-' :: rest =>
    (hourMinute? rest).map fun ((hour, minute), rest) =>
      (some (.minutes (-Int.ofNat (hour * 60 + minute))), rest)
  | 'Z' :: rest | 'z' :: rest => some (some .universal, rest)
  | text => some (none, text)

/-- Reads the time that goes with a date, and its offset. -/
def timeOfDate? : Scan (Time × Option Offset) := fun text =>
  match text with
  | [] => none
  | c :: rest =>
    if c == 'T' || c == 't' || c == ' ' then do
      let (time, rest) ← time? rest
      let (offset, rest) ← offset? rest
      pure ((time, offset), rest)
    else none

/-- Reads a date, a time, or both. -/
def dateTime? : Scan DateTime := fun text =>
  match date? text with
  | some (date, rest) =>
    match timeOfDate? rest with
    | some ((time, offset), rest) => some (.both date time offset, rest)
    | none => some (.date date, rest)
  | none => (time? text).map fun (time, rest) => (.time time, rest)

/-! ### Writing -/

/-- A number with at least `width` digits. -/
def padded (width n : Nat) : String :=
  let digits := Nat.toDigits 10 n
  String.ofList (List.replicate (width - digits.length) '0' ++ digits)

/-- A date. -/
def Date.text (date : Date) : String :=
  padded 4 date.year ++ "-" ++ padded 2 date.month ++ "-" ++ padded 2 date.day

/-- A fraction of a second, without the zeros at its end. -/
def fractionText (nanosecond : Nat) : String :=
  if nanosecond == 0 then ""
  else
    let digits := (padded 9 nanosecond).toList
    "." ++ String.ofList (digits.reverse.dropWhile fun c => c == '0').reverse

/-- A time. -/
def Time.text (time : Time) : String :=
  padded 2 time.hour ++ ":" ++ padded 2 time.minute ++ ":" ++ padded 2 time.second ++
    fractionText time.nanosecond

/-- An offset. -/
def Offset.text : Offset → String
  | .universal => "Z"
  | .minutes ahead =>
    (if ahead < 0 then "-" else "+") ++ padded 2 (ahead.natAbs / 60) ++ ":" ++
      padded 2 (ahead.natAbs % 60)

/-- A date, a time, or both. -/
def DateTime.text : DateTime → String
  | .date day => day.text
  | .time clock => clock.text
  | .both day clock offset =>
    day.text ++ "T" ++ clock.text ++ (offset.map Offset.text).getD ""

end TextChunking.Toml
