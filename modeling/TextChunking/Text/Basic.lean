/-!
# Texts

A text is a list of characters. `isBlank` is the Unicode property White_Space: the one notion of
whitespace of the whole library, used for trimming, for paragraph breaks and for headings alike. `trim`
removes blank characters from both ends, and `trim_eq_nil_iff` says that nothing is left exactly of a
text without ink.

A text is cut behind every line feed, so that each line keeps its terminator and the lines together are
the text again. The body of a line is the line without a line feed at its end, and without the carriage
return in front of that line feed. A text that is too long for its place is clipped and the cut is
marked with three dots, which take their room from the text that is kept, as long as there is room at
all.

The characters of a text take one to four bytes each. `offsetsFrom` lists the bytes at which they begin,
and `slice?` gives the part of a text that a stretch of its bytes holds. There is no such part if the
stretch begins or ends within a character or behind the text, or ends before it begins.
-/

namespace TextChunking

/-! ### Blank characters and trimming -/

/-- A character with the Unicode property White_Space. -/
def isBlank (c : Char) : Bool :=
  let n := c.toNat
  (0x09 ≤ n && n ≤ 0x0D) || n == 0x20 || n == 0x85 || n == 0xA0 || n == 0x1680 ||
    (0x2000 ≤ n && n ≤ 0x200A) || n == 0x2028 || n == 0x2029 || n == 0x202F || n == 0x205F ||
    n == 0x3000

/-- The characters of a text that are not blank, in order. -/
def ink (text : List Char) : List Char := text.filter fun c => !isBlank c

/-- The text without the blank characters at its front. -/
def trimLeft (text : List Char) : List Char := text.dropWhile isBlank

/-- The text without the blank characters at its end. -/
def trimRight (text : List Char) : List Char := (text.reverse.dropWhile isBlank).reverse

/-- The text without the blank characters at either end. -/
def trim (text : List Char) : List Char := trimRight (trimLeft text)

/-- Whether a text holds nothing but blank characters. -/
def isBlankText (text : List Char) : Bool := text.all isBlank

/-- Trimming of a string. -/
def trimString (s : String) : String := String.ofList (trim s.toList)

/-! ### What trimming removes -/

/-- A string is trimmed as its characters are. -/
@[simp] theorem toList_trimString (s : String) : (trimString s).toList = trim s.toList := by
  simp [trimString]

/-- Nothing is left of a text without its blank front exactly if all of it is blank. -/
theorem dropWhile_isBlank_eq_nil_iff {text : List Char} :
    text.dropWhile isBlank = [] ↔ isBlankText text = true := by
  induction text with
  | nil => simp [isBlankText]
  | cons c rest ih => cases h : isBlank c <;> simp_all [isBlankText, List.dropWhile]

/-- A text is blank exactly if it is blank without its blank front. -/
theorem isBlankText_dropWhile {text : List Char} :
    isBlankText (text.dropWhile isBlank) = isBlankText text := by
  induction text with
  | nil => rfl
  | cons c rest ih => cases h : isBlank c <;> simp_all [isBlankText, List.dropWhile]

/-- Trimming leaves nothing exactly of a blank text. -/
theorem trim_eq_nil_iff {text : List Char} : trim text = [] ↔ isBlankText text = true := by
  rw [trim, trimRight, List.reverse_eq_nil_iff, dropWhile_isBlank_eq_nil_iff, isBlankText,
    List.all_reverse, ← isBlankText, trimLeft, isBlankText_dropWhile]

/-! ### Lines -/

/-- The lines of a text, each with its line feed; only the last may be without one. -/
def lines (text : List Char) : List (List Char) := text.splitBy fun c _ => c != '\n'

/-- A line without its terminator, a line feed or a carriage return and a line feed. -/
def lineBody (line : List Char) : List Char :=
  match line.reverse with
  | '\n' :: '\r' :: rest => rest.reverse
  | '\n' :: rest => rest.reverse
  | _ => line

/-- The body of the first line, empty for an empty text. -/
def firstLine (text : List Char) : List Char := lineBody ((lines text).headD [])

/-! ### Clipping -/

/-- What marks a cut. -/
def clipMark : List Char := ['.', '.', '.']

/-- The text itself if it has at most `limit` characters, else its front and the mark. -/
def clip (text : List Char) (limit : Nat) : List Char :=
  if text.length ≤ limit then text else text.take (limit - clipMark.length) ++ clipMark

/-- A text that fits is left as it is. -/
theorem clip_of_le {text : List Char} {limit : Nat} (h : text.length ≤ limit) :
    clip text limit = text := if_pos h

/-! ### Stretches of bytes -/

/-- The byte offsets at which characters begin, the first of them at a given one. -/
def offsetsFrom (offset : Nat) : List Char → List Nat
  | [] => []
  | c :: rest => offset :: offsetsFrom (offset + c.utf8Size) rest

/-- The bytes from one offset up to another. -/
structure ByteRange where
  first : Nat
  last : Nat
  deriving Repr, DecidableEq

/-- A stretch that begins and ends between characters of a text, in this order. -/
structure ByteRange.IsProper (text : String) (range : ByteRange) : Prop where
  first_isValid : String.Pos.Raw.IsValid text ⟨range.first⟩
  last_isValid : String.Pos.Raw.IsValid text ⟨range.last⟩
  first_le_last : range.first ≤ range.last

instance (text : String) (range : ByteRange) : Decidable (range.IsProper text) :=
  decidable_of_iff (String.Pos.Raw.IsValid text ⟨range.first⟩ ∧
      String.Pos.Raw.IsValid text ⟨range.last⟩ ∧ range.first ≤ range.last)
    ⟨fun ⟨hfirst, hlast, hle⟩ => ⟨hfirst, hlast, hle⟩, fun h => ⟨h.1, h.2, h.3⟩⟩

/-- The part of a text that a stretch of its bytes holds. -/
def slice? (text : String) (range : ByteRange) : Option String :=
  if h : range.IsProper text then
    some (text.extract ⟨⟨range.first⟩, h.first_isValid⟩ ⟨⟨range.last⟩, h.last_isValid⟩)
  else none

/-- A stretch that begins and ends between characters holds the part of the text there. -/
theorem slice?_of_isProper {text : String} {range : ByteRange} (h : range.IsProper text) :
    slice? text range =
      some (text.extract ⟨⟨range.first⟩, h.first_isValid⟩ ⟨⟨range.last⟩, h.last_isValid⟩) :=
  dif_pos h

end TextChunking
