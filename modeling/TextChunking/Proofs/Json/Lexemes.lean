import Mathlib
import TextChunking.Json.Reader
import TextChunking.Json.Writer
/-!
# Strings and integers that are read back

A string or an integer as it is written starts a text with one token, and the token has its value
(`token?_stringText`, `token?_intText` and `value?_ofInt`). Of a string this is shown character by
character, as a reader first takes the parts of a string and then joins them (`StringPart.StandsFor`). The
digits of an integer are all taken, because what follows cannot belong to it (`EndsNumber`), and they start
with no zero that would end them early.
-/

namespace TextChunking.Json

/-! ### Strings -/

/-- What a reader makes of a character that was written in a string: the character itself, or its number
where it was written as one. -/
structure StringPart.StandsFor (part : StringPart) (c : Char) : Prop where
  read : ∀ done rest, stringParts? done (stringChar c ++ rest) = stringParts? (part :: done) rest
  join : ∀ done rest, joinParts? done (part :: rest) = joinParts? (c :: done) rest

/-- A hexadecimal digit is read back. -/
theorem hexDigitValue?_hexDigit : ∀ n < 16, hexDigitValue? (hexDigit n) = some n := by decide

/-- An escape with two zeros and two digits is read back as the unit below 256 that it stands for. -/
theorem hexUnit?_hexDigit {n : Nat} (h : n < 0x100) :
    hexUnit? '0' '0' (hexDigit (n / 16)) (hexDigit (n % 16)) = some n := by
  have hzero : hexDigitValue? '0' = some 0 := by decide
  have hhigh := hexDigitValue?_hexDigit (n / 16) (by omega)
  have hlow := hexDigitValue?_hexDigit (n % 16) (by omega)
  simp only [hexUnit?, hzero, hhigh, hlow, Option.bind_eq_bind, Option.bind_some, Option.pure_def,
    Option.some.injEq]
  omega

/-- A unit in front of the surrogates is a character by itself. -/
theorem joinParts?_unit {n : Nat} (h : n < 0xD800) (done : List Char) (rest : List StringPart) :
    joinParts? done (.unit n :: rest) = joinParts? (Char.ofNat n :: done) rest := by
  have hhigh : isHighSurrogate n = false := by
    simpa [isHighSurrogate] using fun hle => absurd h (Nat.not_lt.mpr hle)
  have hlow : isLowSurrogate n = false := by
    simpa [isLowSurrogate] using fun hle => absurd h (by omega)
  rw [joinParts?.eq_def]
  simp only [hhigh, hlow, Bool.false_eq_true, if_false]

/-- A character that needs no escape is read as it stands. -/
theorem stringParts?_plain {c : Char} (hplain : 0x20 ≤ c.toNat) (hquote : c ≠ '"') (hslash : c ≠ '\\')
    (done : List StringPart) (rest : List Char) :
    stringParts? done (c :: rest) = stringParts? (.char c :: done) rest := by
  rw [stringParts?]
  · simp [hslash, hplain]
  · simpa using hquote
  · simp [hslash]
  · simp [hslash]

/-- Every character that is written in a string can be read back. -/
theorem exists_standsFor (c : Char) : ∃ part : StringPart, part.StandsFor c := by
  by_cases hspecial : c ∈ ['"', '\\', '\n', '\t', '\r', '\x08', '\x0c']
  · refine ⟨.char c, ?_, fun _ _ => rfl⟩
    fin_cases hspecial <;> exact fun _ _ => rfl
  simp only [List.mem_cons, List.not_mem_nil, or_false, not_or] at hspecial
  obtain ⟨hquote, hslash, hfeed, htab, hreturn, hback, hform⟩ := hspecial
  by_cases hplain : 0x20 ≤ c.toNat
  · have htext : stringChar c = [c] := by simp [stringChar, hquote, hslash, hplain]
    refine ⟨.char c, fun done rest => ?_, fun _ _ => rfl⟩
    rw [htext, List.singleton_append, stringParts?_plain hplain hquote hslash]
  · have htext : stringChar c =
        ['\\', 'u', '0', '0', hexDigit (c.toNat / 16), hexDigit (c.toNat % 16)] := by
      simp [stringChar, hquote, hslash, hplain, hfeed, htab, hreturn, hback, hform]
    refine ⟨.unit c.toNat, fun done rest => ?_, fun done rest => ?_⟩
    · simp only [htext, List.cons_append, List.nil_append, stringParts?,
        hexUnit?_hexDigit (show c.toNat < 0x100 by omega)]
    · rw [joinParts?_unit (by omega), Char.ofNat_toNat]

/-- A string as it is written is read up to its closing quote, and its parts join to its characters, by induction on
them. -/
theorem stringParts?_append (chars : List Char) (done : List StringPart) (rest : List Char) :
    ∃ parts, stringParts? done (chars.flatMap stringChar ++ '"' :: rest) =
        some (done.reverse ++ parts, rest) ∧
      ∀ back, joinParts? back parts = some (back.reverse ++ chars) := by
  induction chars generalizing done with
  | nil => exact ⟨[], by simp [stringParts?], fun back => by simp [joinParts?]⟩
  | cons c chars ih =>
    obtain ⟨part, hread, hjoin⟩ := exists_standsFor c
    obtain ⟨parts, hparts, hchars⟩ := ih (part :: done)
    refine ⟨part :: parts, ?_, fun back => ?_⟩
    · rw [List.flatMap_cons, List.append_assoc, hread, hparts]
      simp
    · rw [hjoin, hchars]
      simp

/-- A string is read back. -/
theorem token?_stringText (s : String) (rest : List Char) :
    token? (stringText s ++ rest) = some (.string (some s), rest) := by
  obtain ⟨parts, hparts, hchars⟩ := stringParts?_append s.toList [] rest
  have htext : StringText.ofParts parts = some s := by
    simp [StringText.ofParts, hchars]
  simp only [stringText, List.cons_append, List.append_assoc, List.nil_append, token?]
  rw [hparts]
  simp [htext]

/-! ### Integers -/

/-- Whether a character can go on with a number. -/
def continuesNumber (c : Char) : Bool :=
  ('0' ≤ c ∧ c ≤ '9') || c == '.' || c == 'e' || c == 'E'

/-- A text that does not go on with a number in front of it. -/
def EndsNumber (rest : List Char) : Prop := ∀ c ∈ rest.head?, continuesNumber c = false

/-- At its end, a text does not go on with a number. -/
theorem endsNumber_nil : EndsNumber [] := by simp [EndsNumber]

/-- Nor does it in front of any character that no number has. -/
theorem endsNumber_cons {c : Char} (h : continuesNumber c = false) (rest : List Char) :
    EndsNumber (c :: rest) := by
  simpa [EndsNumber] using h

/-- A decimal digit lies between zero and nine. -/
theorem isDigit_iff {c : Char} : c.isDigit = true ↔ '0' ≤ c ∧ c ≤ '9' := by
  simp [Char.isDigit, Char.le_def, UInt32.le_iff_toNat_le]

/-- Digits are read as far as they go, and no farther than a number that has ended. -/
theorem digits_append {found rest : List Char} (hfound : ∀ c ∈ found, c.isDigit = true)
    (hrest : EndsNumber rest) : digits (found ++ rest) = (found, rest) := by
  have hall : ∀ c ∈ found, decide ('0' ≤ c ∧ c ≤ '9') = true :=
    fun c hc => decide_eq_true (isDigit_iff.mp (hfound c hc))
  have hstop : ∀ c ∈ rest.head?, decide ('0' ≤ c ∧ c ≤ '9') = false := by
    intro c hc
    have hends := hrest c hc
    simp only [continuesNumber, Bool.or_eq_false_iff] at hends
    exact hends.1.1.1
  have htake : rest.takeWhile (fun c => decide ('0' ≤ c ∧ c ≤ '9')) = [] := by
    cases rest with
    | nil => rfl
    | cons c rest => simp only [List.takeWhile_cons, hstop c rfl]; rfl
  have hdrop : rest.dropWhile (fun c => decide ('0' ≤ c ∧ c ≤ '9')) = rest := by
    cases rest with
    | nil => rfl
    | cons c rest => simp only [List.dropWhile_cons, hstop c rfl]; rfl
  rw [digits, List.span_eq_takeWhile_dropWhile, List.takeWhile_append_of_pos hall,
    List.dropWhile_append_of_pos hall, htake, hdrop, List.append_nil]

/-- The decimal digits of a number are digits. -/
theorem isDigit_of_mem_toDigits {n : Nat} : ∀ c ∈ Nat.toDigits 10 n, c.isDigit = true :=
  fun _ hc => Nat.isDigit_of_mem_toDigits (by decide) (by decide) hc

/-- A number has a first digit, even zero has. -/
theorem exists_toDigits_eq_cons (n : Nat) :
    ∃ first rest, Nat.toDigits 10 n = first :: rest ∧ first.isDigit = true := by
  obtain ⟨first, rest, htext⟩ := List.exists_cons_of_ne_nil (@Nat.toDigits_ne_nil n 10)
  exact ⟨first, rest, htext, isDigit_of_mem_toDigits first (htext ▸ List.mem_cons_self)⟩

/-- The digits of a number start with a zero only if it is zero. -/
theorem head?_toDigits_ne {n : Nat} (h : n ≠ 0) : (Nat.toDigits 10 n).head? ≠ some '0' := by
  induction n using Nat.strong_induction_on with
  | _ n ih =>
    by_cases hsmall : n < 10
    · rw [Nat.toDigits_of_lt_base hsmall]
      interval_cases n <;> simp_all
    · have hquotient := ih (n / 10) (by omega) (by omega)
      rw [Nat.toDigits_of_base_le (by decide) (by omega),
        List.head?_append_of_ne_nil _ Nat.toDigits_ne_nil]
      exact hquotient

/-- The whole part of a number is read back. A zero in front is read alone, which is no harm, since only zero begins
with it. -/
theorem wholePart?_toDigits (n : Nat) {rest : List Char} (hrest : EndsNumber rest) :
    wholePart? (Nat.toDigits 10 n ++ rest) = some (Nat.toDigits 10 n, rest) := by
  by_cases hzero : n = 0
  · subst hzero
    rfl
  · have hdigits := digits_append (isDigit_of_mem_toDigits (n := n)) hrest
    have hhead := head?_toDigits_ne hzero
    obtain ⟨first, more, htext, -⟩ := exists_toDigits_eq_cons n
    rw [htext] at hdigits hhead ⊢
    have hfirst : first ≠ '0' := fun h => hhead (congrArg some h)
    rw [List.cons_append, wholePart?]
    · rw [← List.cons_append, hdigits]
    · simpa using hfirst

/-- A number that has ended has no fraction. -/
theorem fractionPart?_of_endsNumber {rest : List Char} (hrest : EndsNumber rest) :
    fractionPart? rest = some (none, rest) := by
  cases rest with
  | nil => rfl
  | cons c rest =>
    have hpoint : c ≠ '.' := by
      rintro rfl
      exact absurd (hrest _ rfl) (by decide)
    rw [fractionPart?]
    simpa using hpoint

/-- A number that has ended has no exponent. -/
theorem exponentPart?_of_endsNumber {rest : List Char} (hrest : EndsNumber rest) :
    exponentPart? rest = some (none, rest) := by
  cases rest with
  | nil => rfl
  | cons c rest =>
    have hends := hrest c rfl
    simp only [continuesNumber, Bool.or_eq_false_iff] at hends
    obtain ⟨⟨-, hsmall⟩, hlarge⟩ := hends
    simp [exponentPart?, hsmall, hlarge]

/-- A whole number takes some character. -/
theorem intText_ne_nil (i : Int) : intText i ≠ [] := by
  cases i with
  | ofNat n => exact Nat.toDigits_ne_nil
  | negSucc n => exact List.cons_ne_nil _ _

/-- How an integer is written: its digits, and a minus sign in front of them where it is negative. -/
def NumberText.ofInt (i : Int) : NumberText :=
  { negative := decide (i < 0), whole := Nat.toDigits 10 i.natAbs, fraction := none, exponent := none }

/-- A natural number is read as a number without a fraction and without an exponent. -/
theorem numberText?_toDigits (negative : Bool) (n : Nat) {rest : List Char} (hrest : EndsNumber rest) :
    numberText? negative (Nat.toDigits 10 n ++ rest) =
      some (⟨negative, Nat.toDigits 10 n, none, none⟩, rest) := by
  simp only [numberText?, wholePart?_toDigits n hrest, fractionPart?_of_endsNumber hrest,
    exponentPart?_of_endsNumber hrest, Option.bind_eq_bind, Option.bind_some, Option.pure_def]

/-- A text that starts with a digit starts with a number. -/
theorem token?_of_isDigit {c : Char} (h : c.isDigit = true) (rest : List Char) :
    token? (c :: rest) = (numberText? false (c :: rest)).map fun (text, rest) => (.number text, rest) := by
  rw [token?]
  -- None of the characters that start another token is a digit.
  all_goals
    intros
    simp_all

/-- A whole number is read as one token, with or without a sign in front. -/
theorem token?_intText (i : Int) {rest : List Char} (hrest : EndsNumber rest) :
    token? (intText i ++ rest) = some (.number (.ofInt i), rest) := by
  cases i with
  | ofNat n =>
    have hread := numberText?_toDigits false n hrest
    obtain ⟨first, more, htext, hfirst⟩ := exists_toDigits_eq_cons n
    rw [intText, htext, List.cons_append, token?_of_isDigit hfirst, ← List.cons_append, ← htext, hread]
    rfl
  | negSucc n =>
    have hread := numberText?_toDigits true (n + 1) hrest
    rw [intText, List.cons_append, token?, hread]
    simp [NumberText.ofInt, Int.negSucc_lt_zero]

/-- Reading further digits never makes a number smaller. -/
theorem le_ofDigitChars (text : List Char) (n : Nat) : n ≤ Nat.ofDigitChars 10 text n := by
  induction text generalizing n with
  | nil => exact Nat.le_refl _
  | cons c text ih =>
    have hrest := ih (10 * n + (c.toNat - '0'.toNat))
    rw [Nat.ofDigitChars_cons]
    omega

/-- Digits of a number that fits a word are all taken into the significand. -/
theorem absorb_of_lt {text : List Char} (hall : ∀ c ∈ text, c.isDigit = true) {n : Nat}
    (hlt : Nat.ofDigitChars 10 text n < wordLimit) :
    absorb n text = (Nat.ofDigitChars 10 text n, []) := by
  induction text generalizing n with
  | nil => rfl
  | cons c text ih =>
    have hdigit : digitValue? c = some (c.toNat - '0'.toNat) :=
      if_pos (isDigit_iff.mp (hall c List.mem_cons_self))
    rw [Nat.ofDigitChars_cons, Nat.mul_comm] at hlt
    have hnext := Nat.lt_of_le_of_lt (le_ofDigitChars text _) hlt
    rw [absorb, hdigit, Option.getD_some, if_pos hnext, Nat.ofDigitChars_cons, Nat.mul_comm 10,
      ih (fun c hc => hall c (List.mem_cons_of_mem _ hc)) hlt]

/-- An integer that fits a word is read back. -/
theorem value?_ofInt {i : Int} (hlow : -signedLimit ≤ i) (hhigh : i < wordLimit) :
    (NumberText.ofInt i).value? = some (.int i) := by
  have hlimits : signedLimit < wordLimit := by decide
  have habsorb : absorb 0 (Nat.toDigits 10 i.natAbs) = (i.natAbs, []) := by
    have hlt : Nat.ofDigitChars 10 (Nat.toDigits 10 i.natAbs) 0 < wordLimit := by
      rw [Nat.ofDigitChars_ten_toDigits]
      omega
    rw [absorb_of_lt isDigit_of_mem_toDigits hlt, Nat.ofDigitChars_ten_toDigits]
  simp only [NumberText.value?, NumberText.ofInt, habsorb, Option.isNone_none, List.isEmpty_nil,
    Bool.and_self, if_true]
  by_cases hnegative : i < 0
  · have hne : i.natAbs ≠ 0 := by omega
    have hle : i.natAbs ≤ signedLimit := by omega
    have hvalue : -Int.ofNat i.natAbs = i := by
      rw [Int.ofNat_eq_natCast]
      omega
    simp only [hnegative, decide_true, Bool.not_true, Bool.false_eq_true, if_false, bne_iff_ne,
      Bool.and_eq_true, ne_eq, hne, not_false_eq_true, hle, and_self, if_true, hvalue]
  · have hvalue : Int.ofNat i.natAbs = i := Int.natAbs_of_nonneg (Int.not_lt.mp hnegative)
    simp only [hnegative, decide_false, Bool.not_false, if_true, hvalue]

end TextChunking.Json
