/-!
# File name patterns

The patterns that select files: `?` for any character, `*` for any number of them, brackets for one
character in or outside a set, and `**` for any number of whole directories, where it must be a component
of its own. `Glob.parse` reads a pattern, or says where and why it is none. `Glob.accepts` says what a
pattern matches, and `Glob.isMatch_eq_accepts` that the test which is run agrees with it.
-/

namespace TextChunking

/-- Part of the set between brackets. -/
inductive GlobRange where
  | single (c : Char)
  | range (first last : Char)
  deriving Repr, DecidableEq

/-- A token of a pattern. -/
inductive GlobToken where
  /-- The character itself. -/
  | char (c : Char)
  /-- Any character. -/
  | any
  /-- Any characters. -/
  | sequence
  /-- Any characters up to a slash, or all that are left. -/
  | directories
  /-- A character of a set. -/
  | within (ranges : List GlobRange)
  /-- A character outside a set. -/
  | except (ranges : List GlobRange)
  deriving Repr, DecidableEq

/-- A pattern. -/
abbrev Glob : Type := List GlobToken

/-- What is wrong with a pattern. -/
inductive GlobFaultKind where
  /-- There are more than two stars in a row. -/
  | wildcards
  /-- Two stars are not a component of their own. -/
  | directories
  /-- A bracket does not open a set. -/
  | range
  deriving Repr, DecidableEq

/-- What is wrong with a pattern, and at which character. -/
structure GlobFault where
  position : Nat
  kind : GlobFaultKind
  deriving Repr, DecidableEq

/-- The wording of a kind of fault. -/
def GlobFaultKind.message : GlobFaultKind → String
  | .wildcards => "wildcards are either regular `*` or recursive `**`"
  | .directories => "recursive wildcards must form a single path component"
  | .range => "invalid range pattern"

/-- The fault in words. -/
def GlobFault.message (fault : GlobFault) : String :=
  s!"Pattern syntax error near position {fault.position}: " ++ fault.kind.message

/-! ### Single characters -/

/-- Whether a character is in a part of a set. -/
def GlobRange.has (c : Char) : GlobRange → Bool
  | .single d => c == d
  | .range first last => first ≤ c && c ≤ last

/-- Whether the token of a single character takes a character. -/
def GlobToken.takes (c : Char) : GlobToken → Bool
  | .char d => c == d
  | .any => true
  | .within ranges => ranges.any (GlobRange.has c)
  | .except ranges => !ranges.any (GlobRange.has c)
  | .sequence | .directories => false

/-! ### Reading -/

namespace Glob

/-- The set between brackets. -/
def ranges : List Char → List GlobRange
  | first :: '-' :: last :: rest => .range first last :: ranges rest
  | c :: rest => .single c :: ranges rest
  | [] => []

/-- Splits a text behind its first closing bracket, which may not be its first character: what stands in
front of the bracket, and what stands behind it. -/
def closeSet? : List Char → Option (List Char × List Char)
  | [] => none
  | first :: rest =>
    match rest.dropWhile fun c => c != ']' with
    | [] => none
    | _ :: behind => some (first :: rest.takeWhile (fun c => c != ']'), behind)

/-- Reads the set behind an opening bracket. -/
def readSet? : List Char → Option (GlobToken × List Char)
  | '!' :: rest => (closeSet? rest).map fun (set, behind) => (.except (ranges set), behind)
  | text => (closeSet? text).map fun (set, behind) => (.within (ranges set), behind)

/-- Puts the token for whole directories behind the tokens in `done`, the last one first. Where two meet
behind another token, they are one. -/
def addDirectories : List GlobToken → List GlobToken
  | .directories :: before :: rest => .directories :: before :: rest
  | done => .directories :: done

/-- Reads a pattern from the character at `position` on. `before` is the character in front of it, and
`done` holds the tokens before it, the last one first. -/
def parseFrom (size : Nat) : Nat → Nat → Option Char → List GlobToken → List Char →
    Except GlobFault Glob
  | 0, _, _, done, _ => .ok done.reverse
  | _ + 1, _, _, done, [] => .ok done.reverse
  | fuel + 1, position, before, done, c :: rest =>
    if c == '?' then parseFrom size fuel (position + 1) (some c) (.any :: done) rest
    else if c == '*' then
      let stars := (c :: rest).takeWhile fun c => c == '*'
      let behind := (c :: rest).dropWhile fun c => c == '*'
      if 2 < stars.length then .error ⟨position + 2, .wildcards⟩
      else if stars.length == 1 then
        parseFrom size fuel (position + 1) (some c) (.sequence :: done) behind
      else if before != none && before != some '/' then .error ⟨position - 1, .directories⟩
      else match behind with
        | [] => .ok (addDirectories done).reverse
        | '/' :: behind =>
          parseFrom size fuel (position + 3) (some '/') (addDirectories done) behind
        | _ => .error ⟨position + 2, .directories⟩
    else if c == '[' then
      match readSet? rest with
      | none => .error ⟨position, .range⟩
      | some (token, behind) =>
        parseFrom size fuel (size - behind.length) (some ']') (token :: done) behind
    else parseFrom size fuel (position + 1) (some c) (.char c :: done) rest

/-- Reads a pattern. -/
def parse (pattern : String) : Except GlobFault Glob :=
  let text := pattern.toList
  parseFrom text.length text.length 0 none [] text

/-! ### Matching -/

end Glob

namespace GlobToken

/-- Whether some suffix of a text passes a test. -/
def someSuffix (next : List Char → Bool) : List Char → Bool
  | [] => next []
  | c :: rest => next (c :: rest) || someSuffix next rest

/-- Whether what stands behind some slash of a text passes a test, or the end of the text does. -/
def someDirectory (next : List Char → Bool) : List Char → Bool
  | [] => next []
  | c :: rest => (c == '/' && next rest) || someDirectory next rest

/-- Whether a token matches the front of a text such that the rest of the text passes a test. -/
def accepts (token : GlobToken) (next : List Char → Bool) (text : List Char) : Bool :=
  match token with
  | .sequence => someSuffix next text
  | .directories => next text || someDirectory next text
  | token =>
    match text with
    | [] => false
    | c :: rest => token.takes c && next rest

/-! What a test says of each suffix of a text, the longest suffix first, is kept in a row. A token turns
the row of what follows it into its own, in one pass over the text. -/

/-- What a test says of the suffixes of a text. -/
def suffixRow (next : List Char → Bool) : List Char → List Bool
  | [] => [next []]
  | c :: rest => next (c :: rest) :: suffixRow next rest

/-- The row of `someSuffix`. -/
def someSuffixRow : List Bool → List Bool
  | [] => []
  | passes :: row =>
    let later := someSuffixRow row
    (passes || later.headD false) :: later

/-- The row of `someDirectory`. -/
def someDirectoryRow : List Char → List Bool → List Bool
  | c :: text, _ :: row =>
    let later := someDirectoryRow text row
    ((c == '/' && row.headD false) || later.headD false) :: later
  | _, row => row

/-- The row of a token that takes a single character. -/
def singleRow (token : GlobToken) : List Char → List Bool → List Bool
  | c :: text, _ :: row => (token.takes c && row.headD false) :: singleRow token text row
  | _, _ => [false]

/-- The row of a token, from the row of what follows it. -/
def row (token : GlobToken) (text : List Char) (next : List Bool) : List Bool :=
  match token with
  | .sequence => someSuffixRow next
  | .directories => List.zipWith (· || ·) next (someDirectoryRow text next)
  | token => token.singleRow text next

/-- The first entry of the row of a test is what the test says of the whole text. -/
theorem headD_suffixRow (next : List Char → Bool) (text : List Char) :
    (suffixRow next text).headD false = next text := by
  cases text <;> rfl

/-- Behind a star, an entry is set if some later one is: the row of `someSuffix` is made from that of the test
alone. -/
theorem someSuffixRow_suffixRow (next : List Char → Bool) (text : List Char) :
    someSuffixRow (suffixRow next text) = suffixRow (someSuffix next) text := by
  induction text with
  | nil => simp [suffixRow, someSuffixRow, someSuffix]
  | cons c rest ih => simp only [suffixRow, someSuffixRow, ih, headD_suffixRow, someSuffix]

/-- Behind two stars, only the places behind a slash count: the row of `someDirectory` is made from that of the test
and the text. -/
theorem someDirectoryRow_suffixRow (next : List Char → Bool) (text : List Char) :
    someDirectoryRow text (suffixRow next text) = suffixRow (someDirectory next) text := by
  induction text with
  | nil => rfl
  | cons c rest ih => simp only [suffixRow, someDirectoryRow, ih, headD_suffixRow, someDirectory]

/-- A token of one character shifts the row by one place, and keeps the places where the character fits. -/
theorem singleRow_suffixRow (token : GlobToken) (next : List Char → Bool) (text : List Char) :
    token.singleRow text (suffixRow next text) =
      suffixRow (fun
        | [] => false
        | c :: rest => token.takes c && next rest) text := by
  induction text with
  | nil => rfl
  | cons c rest ih => simp only [suffixRow, singleRow, ih, headD_suffixRow]

/-- Two rows are joined place by place to that of either test. -/
theorem zipWith_suffixRow (a b : List Char → Bool) (text : List Char) :
    List.zipWith (· || ·) (suffixRow a text) (suffixRow b text) =
      suffixRow (fun text => a text || b text) text := by
  induction text with
  | nil => rfl
  | cons c rest ih => simp only [suffixRow, List.zipWith_cons_cons, ih]

/-- The row of a token is what `accepts` says. -/
theorem row_suffixRow (token : GlobToken) (next : List Char → Bool) (text : List Char) :
    token.row text (suffixRow next text) = suffixRow (token.accepts next) text := by
  cases token with
  | sequence => exact someSuffixRow_suffixRow next text
  | directories =>
    simp only [row, someDirectoryRow_suffixRow, zipWith_suffixRow]
    rfl
  | _ => exact singleRow_suffixRow _ next text

end GlobToken

namespace Glob

/-- Whether a pattern matches a whole text. -/
def accepts : Glob → List Char → Bool
  | [], text => text.isEmpty
  | token :: tokens, text => token.accepts (accepts tokens) text

/-- The row of a pattern. -/
def row (glob : Glob) (text : List Char) : List Bool :=
  glob.foldr (fun token next => token.row text next) (GlobToken.suffixRow List.isEmpty text)

/-- Whether a pattern matches a string, found without trying any suffix of it twice with a token. -/
def isMatch (glob : Glob) (text : String) : Bool := (glob.row text.toList).headD false

/-- The row of a pattern is that of `accepts`, by induction on its tokens from the right. -/
theorem row_eq (glob : Glob) (text : List Char) :
    glob.row text = GlobToken.suffixRow glob.accepts text := by
  induction glob with
  | nil => rfl
  | cons token tokens ih =>
    have : row (token :: tokens) text = token.row text (row tokens text) := rfl
    rw [this, ih, GlobToken.row_suffixRow]
    rfl

/-- The rows find what `accepts` says. -/
theorem isMatch_eq_accepts (glob : Glob) (text : String) :
    glob.isMatch text = glob.accepts text.toList := by
  rw [isMatch, row_eq, GlobToken.headD_suffixRow]

end Glob

end TextChunking
