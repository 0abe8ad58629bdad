/-!
# Styles of terminal text

A styled text stands between the sequence that starts its style and the one that resets all styles. Where
the text itself resets them, its own style is started again, so that styles can be nested.
-/

namespace TextChunking.Cli

/-- A style of terminal text. -/
inductive Style where
  | bold
  | dim
  | green
  | yellow
  | blue
  | cyan
  /-- The style of what went wrong, bold and red. -/
  | alarm
  deriving Repr, DecidableEq

namespace Style

/-- The attributes of a style. -/
def attributes : Style → String
  | .bold => "1"
  | .dim => "2"
  | .green => "32"
  | .yellow => "33"
  | .blue => "34"
  | .cyan => "36"
  | .alarm => "1;31"

/-- The sequence that starts a style. -/
def start (style : Style) : List Char := '\x1b' :: '[' :: (style.attributes.toList ++ ['m'])

/-- The sequence that resets all styles. -/
def reset : List Char := ['\x1b', '[', '0', 'm']

/-- A text between the start of a style and the reset, whatever the text itself holds. -/
def enclose (style : Style) (text : String) : String :=
  String.ofList style.start ++ text ++ String.ofList reset

/-- A text with a style started again behind each of its resets. `done` is what was written so far, in
reverse. -/
def renew (style : Style) (done : List Char) : List Char → List Char
  | [] => done.reverse
  | c :: rest =>
    if reset.reverse.isPrefixOf (c :: done) then renew style (style.start.reverse ++ c :: done) rest
    else renew style (c :: done) rest

/-- A text in a style, if there are styles at all. -/
def paint (style : Style) (colored : Bool) (text : String) : String :=
  if colored then String.ofList (style.start ++ style.renew [] text.toList ++ reset) else text

end Style

end TextChunking.Cli
