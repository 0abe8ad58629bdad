import Mathlib.Data.List.Nodup
import TextChunking.Json.Value
/-!
# Looking up members

What a look-up sees behind one insertion is said by `Members.get?_insert`. Here it is said of whole lists of
members: laid over others they hide those with their keys (`get?_extend`), and put in order they are found as
before (`get?_ofPairs`), provided that each key stands in them once. A member that is only put in where its key
is free hides nothing (`get?_insertNew`).
-/

namespace TextChunking.Json.Members

variable {members others : Members} {key : String}

/-- A key is looked up in the first member, else in the others. -/
theorem get?_cons (key : String) (member : String × Value) (rest : Members) :
    get? key (member :: rest) = if member.1 = key then some member.2 else get? key rest := rfl

/-- Nothing is found under a key that no member has. -/
theorem get?_eq_none (h : key ∉ members.map Prod.fst) : get? key members = none := by
  induction members with
  | nil => rfl
  | cons member rest ih =>
    rw [List.map_cons, List.mem_cons, not_or] at h
    rw [get?_cons, if_neg (Ne.symm h.1), ih h.2]

/-- Members that are laid over others hide those with their keys, and no others. -/
theorem get?_extend (h : (others.map Prod.fst).Nodup) (members : Members) (key : String) :
    get? key (extend members others) = (get? key others).or (get? key members) := by
  induction others generalizing members with
  | nil => rfl
  | cons member rest ih =>
    rw [List.map_cons, List.nodup_cons] at h
    rw [extend, List.foldl_cons, ← extend, ih h.2, get?_insert, get?_cons]
    split
    · -- The key is in none of the members behind, so the insertion is the last of its key.
      rename_i hkey
      rw [get?_eq_none (hkey ▸ h.1), Option.none_or, Option.some_or]
    · rfl

/-- Putting members in order moves none of them away from its key. -/
theorem get?_ofPairs {pairs : List (String × Value)} (h : (pairs.map Prod.fst).Nodup) (key : String) :
    get? key (ofPairs pairs) = get? key pairs := by
  rw [ofPairs, get?_extend h, get?_nil, Option.or_none]

/-- A member that is put in unless there is one is found only where nothing was found before. -/
theorem get?_insertNew (key other : String) (value : Value) (members : Members) :
    get? other (insertNew key value members) =
      (get? other members).or (if key = other then some value else none) := by
  rw [insertNew]
  split
  · rename_i found hfound
    split
    · rename_i hkey
      rw [← hkey, hfound, Option.some_or]
    · rw [Option.or_none]
  · rename_i hfree
    rw [get?_insert]
    split
    · rename_i hkey
      rw [← hkey, hfree, Option.none_or]
    · rw [Option.or_none]

end TextChunking.Json.Members
