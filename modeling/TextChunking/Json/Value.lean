import TextChunking.Number.Integer
import TextChunking.Number.Shortest
/-!
# JSON values

A number keeps the distinction of its text between integers and floats. The members of an object are
held in the order of their keys, each key once: `Members.insert` keeps that order, and `get?_insert` says
that a look-up sees the last insertion of its key and no other.
-/

namespace TextChunking.Json

/-- A number: an integer that a signed or an unsigned 64-bit word holds, or a double. -/
inductive Number where
  | int (value : Int)
  | float (value : Float)

/-- A JSON value. -/
inductive Value where
  | null
  | bool (value : Bool)
  | number (value : Number)
  | string (value : String)
  | array (items : List Value)
  | object (members : List (String × Value))

instance : Inhabited Value := ⟨.null⟩

/-- The members of an object, in the order of their keys. -/
abbrev Members : Type := List (String × Value)

/-- The number as a double. -/
def Number.toFloat : Number → Float
  | .int (.ofNat n) => (UInt64.ofNat n).toFloat
  | .int (.negSucc n) => -(UInt64.ofNat (n + 1)).toFloat
  | .float x => x

/-- The number as a signed 64-bit integer, what does not fit being forced into the range. -/
def Number.toSigned : Number → Int
  | .int i => min i (Int.ofNat signedLimit - 1)
  | .float x => Binary64.toSigned x

namespace Value

/-- The value of a natural number. -/
def ofNat (n : Nat) : Value := .number (.int n)

/-- The value of an integer. -/
def ofInt (i : Int) : Value := .number (.int i)

/-- A double that is finite, and null otherwise. -/
def ofFloat (x : Float) : Value := if x.isFinite then .number (.float x) else .null

/-- A value that may be absent, as null. -/
def ofOption {α : Type} (f : α → Value) : Option α → Value
  | some a => f a
  | none => .null

/-- The string, if the value is one. -/
def string? : Value → Option String
  | .string s => some s
  | _ => none

end Value

namespace Members

/-- Puts a member in its place, where it replaces a member with the same key. -/
def insert (key : String) (value : Value) : Members → Members
  | [] => [(key, value)]
  | (k, v) :: rest =>
    if k = key then (key, value) :: rest
    else if key < k then (key, value) :: (k, v) :: rest
    else (k, v) :: insert key value rest

/-- The value of the first member with a key. -/
def get? (key : String) : Members → Option Value
  | [] => none
  | (k, v) :: rest => if k = key then some v else get? key rest

/-- The first members with those of `others` put over them, one after another. -/
def extend (members others : Members) : Members :=
  others.foldl (fun found member => found.insert member.1 member.2) members

/-- Puts a member in its place unless its key is taken. -/
def insertNew (key : String) (value : Value) (members : Members) : Members :=
  match members.get? key with
  | some _ => members
  | none => members.insert key value

/-- The members of pairs in any order, the last of one key being kept. -/
def ofPairs (pairs : List (String × Value)) : Members := extend [] pairs

/-! ### Look-up -/

/-- No member is found where there are none. -/
@[simp] theorem get?_nil (key : String) : get? key [] = none := rfl

/-- The member that was put in is found under its key. -/
theorem get?_insert_self (key : String) (value : Value) (members : Members) :
    get? key (insert key value members) = some value := by
  induction members with
  | nil => simp [insert, get?]
  | cons member rest ih =>
    obtain ⟨k, v⟩ := member
    by_cases hk : k = key
    · simp [insert, get?, hk]
    · by_cases hlt : key < k <;> simp [insert, get?, hk, hlt, ih]

/-- Under any other key, what is found stays the same. -/
theorem get?_insert_of_ne {key other : String} (h : key ≠ other) (value : Value)
    (members : Members) : get? other (insert key value members) = get? other members := by
  induction members with
  | nil => simp [insert, get?, h]
  | cons member rest ih =>
    obtain ⟨k, v⟩ := member
    by_cases hk : k = key
    · simp [insert, get?, hk, h]
    · by_cases hlt : key < k <;> simp [insert, get?, hk, hlt, h, ih]

/-- A look-up sees the last insertion of its key and no other. -/
theorem get?_insert (key other : String) (value : Value) (members : Members) :
    get? other (insert key value members) = if key = other then some value else get? other members := by
  by_cases h : key = other
  · simp [h, get?_insert_self]
  · simp [h, get?_insert_of_ne]

end Members

end TextChunking.Json
