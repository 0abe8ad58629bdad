import TextChunking.Number.Integer
import TextChunking.Text.Basic
/-!
# Hard windows

The last resort for a text without any boundary: windows of a fixed size that slide over it. They start
every `size - overlap` characters, or at every single one when the overlap leaves no more progress, and
each runs as far as its size and the text allow.

`hardSplit` takes the windows from the characters of a text. `hardSplit?` cuts them out of its bytes, at
the offsets of the characters where they start and end. The place where a window of the full size would
end is a 64-bit word even where the text is shorter; nothing is cut when it wraps around, because the
window would end before it starts.
-/

namespace TextChunking

/-! ### Windows of characters -/

/-- The windows of `size` characters that start every `advance + 1` characters. -/
def windows (size advance : Nat) : List Char → List (List Char)
  | [] => []
  | c :: rest => (c :: rest).take size :: windows size advance (rest.drop advance)
termination_by text => text.length
decreasing_by simp only [List.length_drop, List.length_cons]; omega

/-- The windows of a text with at most `maxSize` characters, of which neighbours share `overlap`. They
are trimmed, and blank ones are dropped. -/
def hardSplit (maxSize overlap : Nat) (text : List Char) : List (List Char) :=
  if maxSize == 0 then []
  else ((windows maxSize (maxSize - overlap - 1) text).map trim).filter fun piece => !piece.isEmpty

/-! ### Windows of bytes -/

/-- How many characters there are from the start of one window to that of the next. -/
def windowStep (maxSize overlap : Nat) : Nat := max 1 (maxSize - overlap)

/-- How many windows start within a text of a given length. -/
def windowCount (step length : Nat) : Nat := (length + step - 1) / step

/-- The bytes of the window that starts at a given place, in a text of which the offsets of its characters
and the number of its bytes are known. Behind the last character, the text ends. -/
def windowBytes? (maxSize byteSize : Nat) (offsets : Array Nat) (start : Nat) : Option ByteRange :=
  let stop := min ((start + maxSize) % wordLimit) offsets.size
  offsets[start]?.map fun first => ⟨first, offsets[stop]?.getD byteSize⟩

/-- The bytes of every window, from the left. -/
def byteWindows? (maxSize overlap byteSize : Nat) (offsets : Array Nat) : Option (List ByteRange) :=
  let step := windowStep maxSize overlap
  if offsets.isEmpty || maxSize == 0 then some []
  else (List.range (windowCount step offsets.size)).mapM fun k =>
    windowBytes? maxSize byteSize offsets (k * step)

/-- The windows of a text, cut out of its bytes. They are trimmed, and blank ones are dropped. -/
def hardSplit? (maxSize overlap : Nat) (text : List Char) : Option (List (List Char)) := do
  let source := String.ofList text
  let ranges ← byteWindows? maxSize overlap source.utf8ByteSize (offsetsFrom 0 text).toArray
  let parts ← ranges.mapM (slice? source)
  some ((parts.map fun part => trim part.toList).filter fun piece => !piece.isEmpty)

end TextChunking
