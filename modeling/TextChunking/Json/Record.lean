import TextChunking.Json.Reader
/-!
# Records read from JSON texts

A record is written as an object, or as an array of its fields in their order. In an object a member
that the record does not know is skipped after a check of its form, while a known one that is repeated
is refused; in an array fields may be left out at the end only, and only those that have a default.
`Fields.read?` opens a record, and its fields are then read one by one, each in the depth that is left.
-/

namespace TextChunking.Json

/-- A reader of values: how deep containers may still be nested, and the tree to read. -/
abbrev Reader (α : Type) : Type := Nat → Syntax → Option α

namespace Reader

/-- Any value. -/
def value : Reader Value := Syntax.value?

/-- A string. -/
def string : Reader String
  | _, .string text => text
  | _, _ => none

/-- A number, as a double. -/
def float : Reader Float
  | _, .number text => text.value?.map Number.toFloat
  | _, _ => none

/-- An integer within bounds; a double is none, even without a fraction. -/
def integer (low high : Int) : Reader Int
  | _, .number text =>
    match text.value? with
    | some (.int i) => if low ≤ i ∧ i ≤ high then some i else none
    | _ => none
  | _, _ => none

/-- A signed 64-bit integer. -/
def signed : Reader Int := integer (-Int.ofNat signedLimit) (Int.ofNat signedLimit - 1)

/-- An unsigned 64-bit integer. -/
def unsigned : Reader Nat := fun depth tree => (integer 0 (Int.ofNat wordLimit - 1) depth tree).map Int.toNat

/-- A value or null. -/
def option {α : Type} (read : Reader α) : Reader (Option α)
  | _, .null => some none
  | depth, tree => (read depth tree).map some

/-- A list of values. -/
def list {α : Type} (read : Reader α) : Reader (List α)
  | depth + 1, .array items => items.mapM (read depth)
  | _, _ => none

/-- An object with any members. -/
def members : Reader Members := fun depth tree =>
  match Syntax.value? depth tree with
  | some (.object members) => some members
  | _ => none

/-- Reads a whole text. -/
def run? {α : Type} (read : Reader α) (text : String) : Option α :=
  (Syntax.read? text).bind (read maxDepth)

end Reader

/-- The fields of a record as far as they are written: whether they are written by position, and how
deep containers may still be nested inside them. -/
structure Fields where
  depth : Nat
  positional : Bool
  written : List (String × Syntax)

namespace Fields

/-- The known members of an object, if every key is a text and no known key is repeated. -/
def known? (names : List String) : List (StringText × Syntax) → Option (List (String × Syntax))
  | [] => some []
  | (none, _) :: _ => none
  | (some key, tree) :: rest => do
    let found ← known? names rest
    if !names.contains key then some found
    else if found.any fun field => field.1 == key then none
    else some ((key, tree) :: found)

/-- Opens a record whose fields have the given names. -/
def read? (names : List String) : Reader Fields
  | depth + 1, .object members => (known? names members).map (⟨depth, false, ·⟩)
  | depth + 1, .array items =>
    if items.length ≤ names.length then some ⟨depth, true, names.zip items⟩ else none
  | _, _ => none

/-- The tree of a field, if it is written. -/
def tree? (fields : Fields) (name : String) : Option Syntax :=
  (fields.written.find? fun field => field.1 == name).map (·.2)

variable {α : Type}

/-- A field that must be written. -/
def required (fields : Fields) (name : String) (read : Reader α) : Option α :=
  (fields.tree? name).bind (read fields.depth)

/-- A field that has a default. -/
def withDefault (fields : Fields) (name : String) (default : α) (read : Reader α) : Option α :=
  match fields.tree? name with
  | some tree => read fields.depth tree
  | none => some default

/-- A field that may be null, and may be left out of an object. -/
def optional (fields : Fields) (name : String) (read : Reader α) : Option (Option α) :=
  match fields.tree? name with
  | some tree => Reader.option read fields.depth tree
  | none => if fields.positional then none else some none

end Fields

end TextChunking.Json
