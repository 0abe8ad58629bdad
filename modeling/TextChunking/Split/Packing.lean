import TextChunking.Split.Window
import TextChunking.Text.Basic
import TextChunking.Text.Pattern
/-!
# Packing

Small units are packed into pieces of bounded size, from the left and each piece as full as it gets. A
unit that is too large by itself is never packed: it is replaced by pieces of its own, between whatever
is packed before and behind it. `Packing.step` takes one unit, and the equations `step_of_oversized`,
`step_of_fits` and `step_of_full` are its three cases.

A text that is too large is cut at its blank lines first. Paragraphs that share a piece have a blank
line between them again, which counts towards the size of the piece; one that is too large by itself is
cut at the ends of its sentences. The terminators are dropped, and the sentences are packed without a
separator; one that is too large by itself is cut into hard windows.
-/

namespace TextChunking

/-- The pieces that are finished, and the one that is being filled, with its length. -/
structure Packing where
  pieces : Array (List Char) := #[]
  buffer : List Char := []
  bufferSize : Nat := 0

namespace Packing

/-- Finishes the piece that is being filled. -/
def flush (packing : Packing) : Packing :=
  if packing.buffer.isEmpty then packing
  else { pieces := packing.pieces.push packing.buffer }

/-- Whether a unit of a given length can join the piece that is being filled. -/
def fits (packing : Packing) (unitSize separatorSize maxSize : Nat) : Bool :=
  if packing.buffer.isEmpty then unitSize ≤ maxSize
  else packing.bufferSize + separatorSize + unitSize ≤ maxSize

/-- Puts a unit behind what the piece holds already, with a separator between them. -/
def append (packing : Packing) (separator unit : List Char) : Packing :=
  if packing.buffer.isEmpty then
    { packing with buffer := unit, bufferSize := packing.bufferSize + unit.length }
  else
    { packing with
      buffer := packing.buffer ++ separator ++ unit
      bufferSize := packing.bufferSize + separator.length + unit.length }

/-- Takes one unit. -/
def step (maxSize : Nat) (separator : List Char) (oversized : List Char → List (List Char))
    (packing : Packing) (unit : List Char) : Packing :=
  if maxSize < unit.length then
    let flushed := packing.flush
    { flushed with pieces := flushed.pieces ++ oversized unit }
  else if packing.fits unit.length separator.length maxSize then packing.append separator unit
  else packing.flush.append separator unit

end Packing

/-- The trimmed units that are not blank. -/
def packable (units : List (List Char)) : List (List Char) :=
  (units.map trim).filter fun unit => !unit.isEmpty

/-- Packs units into pieces of at most `maxSize` characters, with a separator between the units of one
piece and with `oversized` making the pieces of a unit that is too large. -/
def pack (maxSize : Nat) (separator : List Char) (oversized : List Char → List (List Char))
    (units : List (List Char)) : List (List Char) :=
  ((packable units).foldl (Packing.step maxSize separator oversized) {}).flush.pieces.toList

/-! ### The cases of a step -/

namespace Packing

variable {maxSize : Nat} {separator unit : List Char} {oversized : List Char → List (List Char)}
  {packing : Packing}

/-- A unit that is too large is replaced by its pieces, behind whatever was being filled. -/
theorem step_of_oversized (h : maxSize < unit.length) :
    (packing.step maxSize separator oversized unit).pieces =
      packing.flush.pieces ++ oversized unit := by
  simp [step, h]

/-- A unit that fits joins the piece that is being filled. -/
theorem step_of_fits (h : ¬ maxSize < unit.length)
    (hfits : packing.fits unit.length separator.length maxSize = true) :
    packing.step maxSize separator oversized unit = packing.append separator unit := by
  simp [step, h, hfits]

/-- A unit that does not fit any more starts a piece of its own. -/
theorem step_of_full (h : ¬ maxSize < unit.length)
    (hfits : packing.fits unit.length separator.length maxSize = false) :
    packing.step maxSize separator oversized unit = packing.flush.append separator unit := by
  simp [step, h, hfits]

end Packing

/-! ### Sentences -/

/-- The characters that end a sentence, in Chinese and in Latin script. -/
def isTerminator (c : Char) : Bool := "。！？.!?".toList.contains c

/-- The end of a sentence, with the blank characters behind it. -/
def sentenceEnd : Separator := ⟨isTerminator, [.many isBlank]⟩

/-- The pieces of a text, cut at the ends of its sentences. -/
def splitSentences (maxSize overlap : Nat) (text : List Char) : List (List Char) :=
  pack maxSize [] (hardSplit maxSize overlap) (sentenceEnd.cut text)

/-! ### Paragraphs -/

/-- Blank lines: two line feeds with nothing but blank characters between them. -/
def blankLine : Separator := ⟨fun c => c == '\n', [.many isBlank, .char '\n']⟩

/-- What stands between the paragraphs of a piece. -/
def paragraphSeparator : List Char := ['\n', '\n']

/-- The pieces of a text, cut at its blank lines. -/
def splitParagraphs (maxSize overlap : Nat) (text : List Char) : List (List Char) :=
  pack maxSize paragraphSeparator (splitSentences maxSize overlap) (blankLine.cut text)

end TextChunking
