import TextChunking.Toml.Value
/-!
# Tables in the making

The tables of a document are defined piece by piece, and no table twice. What decides whether a table may
still be added to is how it came about (`Origin`): a header defines its table once and for all, except
that tables which only stand on the way to a header may get one of their own later; a table made by a
dotted key takes further dotted keys and nothing else. `Entries.alter?` is the walk that all additions
share.
-/

namespace TextChunking.Toml

/-- How a table came about. -/
inductive Origin where
  /-- By a header. -/
  | header
  /-- On the way of a header to another table. -/
  | implied
  /-- On the way of a dotted key. -/
  | dotted
  deriving Repr, DecidableEq

/-- What stands under a name in a table. -/
inductive Item where
  /-- A value, which takes no additions. -/
  | value (value : Value)
  | table (origin : Origin) (entries : List (String × Item))
  /-- The tables of a repeated header, the last one first. -/
  | tables (rows : List (List (String × Item)))

instance : Inhabited Item := ⟨.tables []⟩

/-- The entries of a table. -/
abbrev Entries : Type := List (String × Item)

namespace Entries

/-- The item under a name. -/
def get? (name : String) (entries : Entries) : Option Item :=
  (entries.find? fun entry => entry.1 == name).map (·.2)

/-- Puts an item in the place of one with the same name, or else behind all others. -/
def set (name : String) (item : Item) : Entries → Entries
  | [] => [(name, item)]
  | entry :: rest => if entry.1 == name then (name, item) :: rest else entry :: set name item rest

/-- Changes the table that a path leads to. Tables that are missing on the way are made as `via` says,
and of the tables of a repeated header the last one is meant. A dotted key leads into no table that has a
header. -/
def alter? (via : Origin) (change : Origin → Entries → Option Entries) :
    List String → Origin → Entries → Option Entries
  | [], origin, entries => change origin entries
  | name :: path, _, entries =>
    match entries.get? name with
    | none =>
      (alter? via change path via []).map fun inner => entries.set name (.table via inner)
    | some (.table origin inner) =>
      if via = .dotted ∧ origin = .header then none
      else (alter? via change path origin inner).map fun inner =>
        entries.set name (.table origin inner)
    | some (.tables (last :: earlier)) =>
      (alter? via change path .header last).map fun last =>
        entries.set name (.tables (last :: earlier))
    | some (.tables []) => none
    | some (.value _) => none

/-- Puts a value under a key. The table that a dotted key leads to must have been made by dotted keys
only. -/
def putValue? (path : List String) (name : String) (value : Value) (entries : Entries) :
    Option Entries :=
  alter? .dotted
    (fun origin entries =>
      if (origin == .dotted) == path.isEmpty then none
      else if (entries.get? name).isSome then none
      else some (entries.set name (.value value)))
    path .header entries

/-- Defines the table of a header. -/
def putTable? (path : List String) (name : String) (entries : Entries) : Option Entries :=
  alter? .implied
    (fun _ entries =>
      match entries.get? name with
      | none => some (entries.set name (.table .header []))
      | some (.table .implied inner) => some (entries.set name (.table .header inner))
      | _ => none)
    path .header entries

/-- Adds a table for a repeated header. -/
def pushTable? (path : List String) (name : String) (entries : Entries) : Option Entries :=
  alter? .implied
    (fun _ entries =>
      match entries.get? name with
      | none => some (entries.set name (.tables [[]]))
      | some (.tables rows) => some (entries.set name (.tables ([] :: rows)))
      | _ => none)
    path .header entries

end Entries

mutual

/-- The value of an item. -/
def Item.toValue : Item → Value
  | .value value => value
  | .table _ entries => .table (entryValues entries)
  | .tables rows => .array (rowValues [] rows)

/-- The values of the entries of a table. -/
def entryValues : List (String × Item) → List (String × Value)
  | [] => []
  | (name, item) :: rest => (name, item.toValue) :: entryValues rest

/-- The values of tables in reverse, in front of those in `done`. -/
def rowValues (done : List Value) : List (List (String × Item)) → List Value
  | [] => done
  | row :: rest => rowValues (.table (entryValues row) :: done) rest

end

end TextChunking.Toml
