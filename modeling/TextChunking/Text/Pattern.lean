import TextChunking.Text.Basic
/-!
# Patterns over characters

A `Pattern` is a row of pieces, each of them one character of a class, or a run of a class that is as
long as it can be while the rest of the row still matches. `Pattern.match?` finds the preferred match at
the front of a text and gives what is left behind it. A `Separator` is a pattern that takes at least one
character, and `Separator.cut` splits a text at its leftmost matches, one after another;
`cutFrom_of_none` and `cutFrom_of_match` are the two equations by which a cut is followed through a text.
-/

namespace TextChunking

/-- One piece of a pattern. -/
inductive Piece where
  /-- Exactly one character of a class. -/
  | one (p : Char → Bool)
  /-- Any number of characters of a class, as many as possible. -/
  | many (p : Char → Bool)

/-- Pieces that match one after another. -/
abbrev Pattern : Type := List Piece

/-- At least one character of a class, as many as possible. -/
def Pattern.run (p : Char → Bool) : Pattern := [.one p, .many p]

/-- Exactly the character `c`. -/
def Piece.char (c : Char) : Piece := .one fun d => d == c

namespace Pattern

/-- Tries `next` behind a run of characters, given in reverse, and gives the characters of the run back
one by one until it succeeds. -/
def retreat (next : List Char → Option (List Char)) : List Char → List Char → Option (List Char)
  | [], rest => next rest
  | c :: back, rest =>
    match next rest with
    | some left => some left
    | none => retreat next back (c :: rest)

/-- What the preferred match at the front of a text leaves behind it, if there is a match. -/
def match? : Pattern → List Char → Option (List Char)
  | [], text => some text
  | .one _ :: _, [] => none
  | .one p :: pattern, c :: rest => if p c then match? pattern rest else none
  | .many p :: pattern, text =>
    retreat (match? pattern) (text.takeWhile p).reverse (text.dropWhile p)

/-- Whether the pattern matches at the front of a text. -/
def isAtFront (pattern : Pattern) (text : List Char) : Bool := (pattern.match? text).isSome

/-! ### A match leaves no more than the text -/

/-- Giving characters back leaves no more than there were, by induction on the run. -/
theorem retreat_length {next : List Char → Option (List Char)} {n : Nat}
    (hnext : ∀ text left, next text = some left → left.length ≤ text.length) :
    ∀ {back rest left}, retreat next back rest = some left →
      back.length + rest.length ≤ n → left.length ≤ n
  | [], rest, left, h, hn => by
    have := hnext rest left h
    simp at hn
    omega
  | c :: back, rest, left, h, hn => by
    rw [retreat] at h
    split at h
    · rename_i found heq
      have := hnext rest found heq
      simp only [Option.some.injEq] at h
      subst h
      simp at hn
      omega
    · exact retreat_length hnext h (by simp at hn ⊢; omega)

/-- A pattern leaves no more of a text than there is. -/
theorem match?_length : ∀ {pattern : Pattern} {text left : List Char},
    pattern.match? text = some left → left.length ≤ text.length
  | [], text, left, h => by simp_all [match?]
  | .one _ :: _, [], left, h => by simp [match?] at h
  | .one p :: pattern, c :: rest, left, h => by
    rw [match?] at h
    split at h
    · exact Nat.le_succ_of_le (match?_length h)
    · simp at h
  | .many p :: pattern, text, left, h => by
    rw [match?] at h
    refine retreat_length (fun _ _ => match?_length) h (Nat.le_of_eq ?_)
    rw [List.length_reverse, ← List.length_append, List.takeWhile_append_dropWhile]

end Pattern

/-! ### Cutting at separators -/

/-- What separates segments: a character of a class and then a match of a pattern. -/
structure Separator where
  first : Char → Bool
  rest : Pattern

namespace Separator

/-- What the separator leaves behind it at the front of a text, if it stands there. -/
def match? (separator : Separator) : List Char → Option (List Char)
  | [] => none
  | c :: rest => if separator.first c then separator.rest.match? rest else none

/-- A separator takes some character at least, so that cutting comes to an end. -/
theorem match?_length {separator : Separator} {c : Char} {rest left : List Char}
    (h : separator.match? (c :: rest) = some left) : left.length < (c :: rest).length := by
  rw [match?] at h
  split at h
  · exact Nat.lt_succ_of_le (Pattern.match?_length h)
  · simp at h

/-- Cuts the rest of a text at the separators in it. `segment` holds the characters since the last cut,
in reverse, and `cuts` the finished segments, the last one first. -/
def cutFrom (separator : Separator) (segment : List Char) (cuts : List (List Char)) :
    List Char → List (List Char)
  | [] => (segment.reverse :: cuts).reverse
  | c :: rest =>
    match h : separator.match? (c :: rest) with
    | some left =>
      have := match?_length h
      cutFrom separator [] (segment.reverse :: cuts) left
    | none => cutFrom separator (c :: segment) cuts rest
termination_by text => text.length
decreasing_by all_goals simp only [List.length_cons] at *; omega

/-- The segments of a text between the separators in it, taken from the left. -/
def cut (separator : Separator) (text : List Char) : List (List Char) :=
  separator.cutFrom [] [] text

/-- Where the separator does not match, the character belongs to the segment. -/
theorem cutFrom_of_none {separator : Separator} {segment cuts c rest}
    (h : separator.match? (c :: rest) = none) :
    separator.cutFrom segment cuts (c :: rest) = separator.cutFrom (c :: segment) cuts rest := by
  rw [cutFrom]
  split <;> simp_all

/-- Where it matches, the segment is finished and the next one starts behind the match. -/
theorem cutFrom_of_match {separator : Separator} {segment cuts c rest left}
    (h : separator.match? (c :: rest) = some left) :
    separator.cutFrom segment cuts (c :: rest) =
      separator.cutFrom [] (segment.reverse :: cuts) left := by
  rw [cutFrom]
  split <;> simp_all

end Separator

end TextChunking
