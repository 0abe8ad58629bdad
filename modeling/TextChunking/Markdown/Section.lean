import TextChunking.Chunk.Basic
import TextChunking.Text.Basic
import TextChunking.Text.Pattern
/-!
# Sections of a markdown text

A markdown text is cut in front of every heading line, which is one with number signs at its front and a
blank character behind them. The spans between the cuts are numbered, and those that are not blank are
the sections of the text (`sections`). The level and the heading of a section are read from the first
line of its trimmed content.
-/

namespace TextChunking

/-- A span of a markdown text, without the blank characters around it. -/
structure Section where
  /-- The number of number signs of its heading, if it has one. -/
  level : Option Nat
  /-- The text of its heading. -/
  heading : List Char
  /-- The whole text, its heading line included. -/
  content : List Char
  deriving Repr, DecidableEq

/-- Number signs and a blank character. -/
def headingMark : Pattern := Pattern.run (fun c => c == '#') ++ [.one isBlank]

/-- Whether a line, with or without its terminator, is a heading line. -/
def isHeadingLine (line : List Char) : Bool := headingMark.isAtFront (lineBody line)

/-- Cuts lines in front of the heading lines among them. `span` holds the lines since the last cut, in
reverse, and `done` the finished spans, the last one first. -/
def spansFrom (span : List (List Char)) (done : List (List Char)) : List (List Char) → List (List Char)
  | [] => (span.reverse.flatten :: done).reverse
  | line :: rest =>
    if isHeadingLine line then spansFrom [line] (span.reverse.flatten :: done) rest
    else spansFrom (line :: span) done rest

/-- The spans of a text: from its start or a heading line up to the next heading line. -/
def spans (text : List Char) : List (List Char) :=
  match lines text with
  | [] => []
  | line :: rest => spansFrom [line] [] rest

namespace Section

/-- The section of a trimmed span. -/
def ofContent (content : List Char) : Section :=
  let line := firstLine content
  if headingMark.isAtFront line then
    let signs := line.takeWhile fun c => c == '#'
    { level := some signs.length, heading := trim (line.drop signs.length), content }
  else { level := none, heading := [], content }

/-- The content of a section that is read from a text is that text. -/
@[simp] theorem content_ofContent (content : List Char) : (ofContent content).content = content := by
  simp only [ofContent]
  split <;> rfl

/-- The section of a span, unless the span is blank. -/
def ofSpan? (span : List Char) : Option Section :=
  let content := trim span
  if content.isEmpty then none else some (ofContent content)

/-- The subtype of the chunks of a section. -/
def subkind (part : Section) : String :=
  match part.level with
  | some level => s!"level_{level}"
  | none => "content"

/-- The type of the chunks of a section. -/
def kind : String := "markdown_section"

/-- The candidate chunk of a section. -/
def candidate (index : Nat) (part : Section) : Chunk :=
  { content := String.ofList part.content
    title := String.ofList part.heading
    kind
    subkind := part.subkind
    page := 0
    id := s!"markdown_chunk_{index}"
    markdown := some (String.ofList part.content)
    position := none }

end Section

/-- The sections of a text, each with the number of its span. -/
def sections (text : List Char) : List (Nat × Section) :=
  (spans text).zipIdx.filterMap fun (span, index) =>
    (Section.ofSpan? span).map fun part => (index, part)

end TextChunking
