import TextChunking.Toml.Table
/-!
# TOML documents

A document is a row of lines, each of them blank, a header, or a key with its value; only a value may run
over several lines. `Draft` holds the tables so far and the place of the table under the last header,
into which the keys that follow go. Arrays and tables inside values may be nested only to a given depth,
which is what the reading of values recurses on.
-/

namespace TextChunking.Toml

/-! ### Values -/

/-- Reads the items of an array behind its opening bracket, after those in `done`, the last one first. -/
def items? (item? : Scan Value) : Nat → List Value → Scan (List Value)
  | 0, _, _ => none
  | fuel + 1, done, text =>
    match skipGap false text with
    | ']' :: rest => some (done.reverse, rest)
    | text => do
      let (item, rest) ← item? text
      match skipGap false rest with
      | ',' :: rest => items? item? fuel (item :: done) rest
      | ']' :: rest => some ((item :: done).reverse, rest)
      | _ => none

/-- Reads a key, the equals sign and a value. -/
def assignment? (value? : Scan Value) : Scan ((List String × String) × Value) := fun text => do
  let (key, rest) ← key? text
  let (value, rest) ← value? (skipSpaces (← mark? '=' rest))
  pure ((key, value), rest)

/-- Reads the assignments of a table inside a value, of which there is at least one more, into the
entries so far. -/
def assignments? (value? : Scan Value) : Nat → Entries → Scan Entries
  | 0, _, _ => none
  | fuel + 1, entries, text => do
    let (((path, name), value), rest) ← assignment? value? text
    let entries ← entries.putValue? path name value
    match skipSpaces rest with
    | ',' :: rest => assignments? value? fuel entries rest
    | '\x7d' :: rest => some (entries, rest)
    | _ => none

/-- Reads a table inside a value behind its opening brace. -/
def inlineTable? (value? : Scan Value) : Scan Value := fun text =>
  match skipSpaces text with
  | '\x7d' :: rest => some (.table [], rest)
  | text =>
    (assignments? value? text.length [] text).map fun (entries, rest) =>
      (.table (entryValues entries), rest)

/-- How deep arrays and tables may be nested inside a value. -/
def maxDepth : Nat := 79

/-- Reads a value with at most `depth` arrays and tables around one another. -/
def value? : Nat → Scan Value
  | depth + 1, '[' :: rest =>
    (items? (value? depth) rest.length [] rest).map fun (items, rest) => (.array items, rest)
  | depth + 1, '\x7b' :: rest => inlineTable? (value? depth) rest
  | _, text => scalar? text

/-! ### Lines -/

/-- The tables of a document so far, and the place of the table that is being filled. -/
structure Draft where
  root : Entries := []
  place : List String := []

namespace Draft

/-- Puts a value into the table that is being filled. -/
def assign? (draft : Draft) (path : List String) (name : String) (value : Value) : Option Draft :=
  (Entries.alter? .implied (fun _ entries => entries.putValue? path name value) draft.place .header
    draft.root).map fun root => { draft with root }

/-- Goes on with the table of a header. -/
def enter? (draft : Draft) (repeated : Bool) (path : List String) (name : String) : Option Draft := do
  let root ← if repeated then draft.root.pushTable? path name else draft.root.putTable? path name
  pure { root, place := path ++ [name] }

/-- Reads a header behind its opening bracket. -/
def header? (draft : Draft) : Scan Draft
  | '[' :: rest => do
    let ((path, name), rest) ← key? rest
    let rest ← mark? ']' (← mark? ']' rest)
    pure (← draft.enter? true path name, rest)
  | text => do
    let ((path, name), rest) ← key? text
    let rest ← mark? ']' rest
    pure (← draft.enter? false path name, rest)

/-- Reads what stands on a line, if anything does. -/
def statement? (draft : Draft) : Scan Draft
  | [] => some (draft, [])
  | '\n' :: rest => some (draft, '\n' :: rest)
  | '#' :: rest => some (draft, '#' :: rest)
  | '[' :: rest => draft.header? rest
  | text => do
    let (((path, name), value), rest) ← assignment? (value? maxDepth) text
    pure (← draft.assign? path name value, rest)

/-- Reads the lines of a document, of which there are at most as many as characters. -/
def lines? : Nat → Draft → List Char → Option Draft
  | _, draft, [] => some draft
  | 0, _, _ => none
  | fuel + 1, draft, text => do
    let (draft, rest) ← draft.statement? (skipSpaces text)
    lines? fuel draft (← lineEnd? rest)

end Draft

/-- The text behind a byte order mark, if there is one. -/
def skipMark : List Char → List Char
  | '\uFEFF' :: rest => rest
  | text => text

/-- The entries of a TOML document. -/
def Value.readDocument? (text : String) : Option (List (String × Value)) := do
  let text ← uniformLines? [] (skipMark text.toList)
  let draft ← Draft.lines? text.length {} text
  pure (entryValues draft.root)

end TextChunking.Toml
