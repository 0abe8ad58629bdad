import Mathlib.Data.Finset.Card
import Mathlib.Data.List.Nodup
import Mathlib.Data.Nat.Find
import Std.Data.String.ToInt
import TextChunking.Layout.Identifiers
/-!
# What the registry gives out

A number behind an identifier can be read off again, because no number is written with an underscore
(`suffixed_inj`). So candidates with different numbers differ. `SearchEnds` is the search for a suffix by
itself, with no bound on its steps, and `firstFree` is its result whenever it ends
(`firstFree_eq_of_searchEnds`). It ends exactly if some value of the counter makes a free candidate
(`exists_searchEnds_iff`), of which one is outside any list that is shorter than the counter has values
(`exists_isFree`). `answer_cases` says all that one claim can be answered with. `Grants` is what a run of claims
makes of a registry: it leaves the reservations as they are, and gives out distinct identifiers that were not in
use, as long as there is room for them.
-/

namespace TextChunking

namespace Registry

variable {registry : Registry} {id other : String}

/-! ### Numbers behind identifiers -/

/-- The characters of a candidate: the identifier, an underscore, and the number. -/
theorem toList_suffixed (id : String) (k : Int) :
    (suffixed id k).toList = id.toList ++ '_' :: k.repr.toList := by
  simp [suffixed, ToString.toString]

/-- No number is written with an underscore. -/
theorem underscore_notMem_repr (k : Int) : '_' ∉ k.repr.toList := by
  have hdigits (n : Nat) : '_' ∉ n.repr.toList := by
    rw [Nat.toList_repr]
    exact Nat.underscore_not_in_toDigits
  cases k with
  | ofNat n => exact hdigits n
  | negSucc n =>
    rw [Int.repr, String.toList_append, List.mem_append, not_or]
    exact ⟨by decide, hdigits n.succ⟩

/-- Of two texts that are equal, and are cut at a character which is in neither tail, the cuts agree. -/
theorem append_cons_eq_imp {c : Char} {xs ys as bs : List Char} (ha : c ∉ as) (hb : c ∉ bs)
    (h : xs ++ c :: as = ys ++ c :: bs) : xs = ys ∧ as = bs := by
  rcases List.append_eq_append_iff.mp h with ⟨gap, rfl, hgap⟩ | ⟨gap, rfl, hgap⟩
  · cases gap with
    | nil => simpa using hgap
    | cons d gap =>
      obtain ⟨rfl, rfl⟩ := List.cons.inj hgap
      simp at ha
  · cases gap with
    | nil => simpa [eq_comm] using hgap
    | cons d gap =>
      obtain ⟨rfl, rfl⟩ := List.cons.inj hgap
      simp at hb

/-- An identifier with a number behind it determines both. -/
theorem suffixed_inj {j k : Int} : suffixed id j = suffixed other k ↔ id = other ∧ j = k := by
  constructor
  · intro h
    have hlist := congrArg String.toList h
    rw [toList_suffixed, toList_suffixed] at hlist
    obtain ⟨hid, hnumber⟩ := append_cons_eq_imp (underscore_notMem_repr j) (underscore_notMem_repr k) hlist
    exact ⟨String.toList_inj.mp hid, Int.repr_inj.mp (String.toList_inj.mp hnumber)⟩
  · rintro ⟨rfl, rfl⟩
    rfl

/-- The same for numbers that are not negative, such as those of pieces. -/
theorem suffixed_natCast_inj {j k : Nat} : suffixed id j = suffixed other k ↔ id = other ∧ j = k := by
  rw [suffixed_inj, Int.natCast_inj]

/-- A number makes an identifier longer. -/
theorem length_lt_suffixed (id : String) (k : Int) : id.length < (suffixed id k).length := by
  rw [← String.length_toList, ← String.length_toList, toList_suffixed, List.length_append]
  exact Nat.lt_add_of_pos_right (Nat.zero_lt_succ _)

/-- A candidate is longer than the identifier, and so is never the same. -/
theorem suffixed_ne_self (id : String) (k : Int) : suffixed id k ≠ id := by
  intro h
  have hlength := length_lt_suffixed id k
  rw [h] at hlength
  exact Nat.lt_irrefl _ hlength

/-! ### The search for a suffix -/

/-- The candidate that stands for a value of the counter. -/
def candidateAt (id : String) (counter : Int32) : String := suffixed id counter.toInt

/-- Different values of the counter make different candidates, since numbers are written in different ways. -/
theorem candidateAt_inj {counter rival : Int32} :
    candidateAt id counter = candidateAt id rival ↔ counter = rival := by
  rw [candidateAt, candidateAt, suffixed_inj, Int32.toInt_inj]
  exact and_iff_right rfl

/-- An identifier is free exactly if it is neither in use nor reserved. -/
theorem isFree_iff : registry.isFree id = true ↔ id ∉ registry.used ∧ id ∉ registry.reserved := by
  simp [isFree]

/-- An identifier is not free exactly if it is in use or reserved. -/
theorem isFree_eq_false_iff :
    registry.isFree id = false ↔ id ∈ registry.used ∨ id ∈ registry.reserved := by
  rw [← Bool.not_eq_true, isFree_iff, not_and_or, not_not, not_not]

/-- The search for a suffix that looks at one value of the counter ends at another. -/
inductive SearchEnds (registry : Registry) (id : String) : Int32 → Int32 → Prop
  | here {counter : Int32} (h : registry.isFree (candidateAt id counter) = true) :
    SearchEnds registry id counter counter
  | next {counter found : Int32} (h : registry.isFree (candidateAt id counter) = false)
      (rest : SearchEnds registry id (counter + 1) found) : SearchEnds registry id counter found

/-- Each value of the counter is some steps ahead of each other one. -/
theorem exists_add_ofNat (counter goal : Int32) : ∃ i < Int32.size, counter + Int32.ofNat i = goal := by
  refine ⟨(goal - counter).toBitVec.toNat, (goal - counter).toBitVec.isLt, ?_⟩
  have hgap : Int32.ofNat (goal - counter).toBitVec.toNat = goal - counter :=
    Int32.toBitVec_inj.mp (BitVec.ofNat_toNat 32 _ |>.trans (BitVec.setWidth_eq _))
  rw [hgap, Int32.add_comm, Int32.sub_add_cancel]

/-- Different numbers of steps lead to different values as long as the counter does not come round. -/
theorem add_ofNat_inj {counter : Int32} {i j : Nat} (hi : i < Int32.size) (hj : j < Int32.size) :
    counter + Int32.ofNat i = counter + Int32.ofNat j ↔ i = j := by
  constructor
  · intro h
    have hbits : BitVec.ofNat 32 i = BitVec.ofNat 32 j :=
      congrArg Int32.toBitVec ((Int32.add_right_inj counter).mp h)
    have hnat := congrArg BitVec.toNat hbits
    rwa [BitVec.toNat_ofNat, BitVec.toNat_ofNat, Nat.mod_eq_of_lt hi, Nat.mod_eq_of_lt hj] at hnat
  · rintro rfl
    rfl

/-- No step leaves the counter where it is. -/
theorem add_ofNat_zero (counter : Int32) : counter + Int32.ofNat 0 = counter := Int32.add_zero counter

/-- One step and then some are one more, also where the counter wraps around. -/
theorem add_one_add_ofNat (counter : Int32) (i : Nat) :
    counter + 1 + Int32.ofNat i = counter + Int32.ofNat (i + 1) := by
  rw [Int32.add_assoc, Nat.add_comm i 1, Int32.ofNat_add]
  rfl

/-- The search ends at the first free candidate. -/
theorem searchEnds_iff {counter found : Int32} : registry.SearchEnds id counter found ↔
    ∃ i, counter + Int32.ofNat i = found ∧ registry.isFree (candidateAt id found) = true ∧
      ∀ j < i, registry.isFree (candidateAt id (counter + Int32.ofNat j)) = false := by
  constructor
  · intro h
    induction h with
    | @here counter hfree => exact ⟨0, add_ofNat_zero counter, hfree, fun j hj => absurd hj (Nat.not_lt_zero j)⟩
    | @next counter found htaken _ ih =>
      obtain ⟨i, hfound, hfree, hleast⟩ := ih
      refine ⟨i + 1, (add_one_add_ofNat counter i).symm.trans hfound, hfree, fun j hj => ?_⟩
      cases j with
      | zero => rwa [show counter + Int32.ofNat 0 = counter from Int32.add_zero counter]
      | succ j =>
        rw [← add_one_add_ofNat]
        exact hleast j (Nat.lt_of_succ_lt_succ hj)
  · rintro ⟨i, rfl, hfree, hleast⟩
    induction i generalizing counter with
    | zero =>
      rw [add_ofNat_zero] at hfree ⊢
      exact .here hfree
    | succ i ih =>
      have htaken := hleast 0 (Nat.zero_lt_succ i)
      rw [add_ofNat_zero] at htaken
      rw [← add_one_add_ofNat] at hfree ⊢
      refine .next htaken (ih hfree fun j hj => ?_)
      rw [add_one_add_ofNat]
      exact hleast (j + 1) (Nat.succ_lt_succ hj)

/-- The counter comes to the first free candidate before it comes round. -/
theorem SearchEnds.exists_lt_size {counter found : Int32} (h : registry.SearchEnds id counter found) :
    ∃ i < Int32.size, counter + Int32.ofNat i = found ∧ registry.isFree (candidateAt id found) = true ∧
      ∀ j < i, registry.isFree (candidateAt id (counter + Int32.ofNat j)) = false := by
  obtain ⟨i, hfound, hfree, hleast⟩ := searchEnds_iff.mp h
  refine ⟨i, ?_, hfound, hfree, hleast⟩
  by_contra hround
  obtain ⟨j, hj, heq⟩ := exists_add_ofNat counter found
  have htaken := hleast j (Nat.lt_of_lt_of_le hj (Nat.le_of_not_lt hround))
  rw [heq, hfree] at htaken
  cases htaken

/-- Some search ends exactly if some candidate is free, wherever the search begins. -/
theorem exists_searchEnds_iff (counter : Int32) : (∃ found, registry.SearchEnds id counter found) ↔
    ∃ value, registry.isFree (candidateAt id value) = true := by
  constructor
  · rintro ⟨found, h⟩
    obtain ⟨i, -, -, hfree, -⟩ := h.exists_lt_size
    exact ⟨found, hfree⟩
  · rintro ⟨value, hvalue⟩
    obtain ⟨i, -, rfl⟩ := exists_add_ofNat counter value
    have hsome : ∃ i, registry.isFree (candidateAt id (counter + Int32.ofNat i)) = true := ⟨i, hvalue⟩
    refine ⟨_, searchEnds_iff.mpr ⟨Nat.find hsome, rfl, Nat.find_spec hsome, fun j hj => ?_⟩⟩
    exact Bool.eq_false_iff.mpr (Nat.find_min hsome hj)

/-- As many identifiers are taken as candidates that the search has passed. -/
theorem le_card_of_forall_taken {counter : Int32} {i : Nat} (hi : i ≤ Int32.size)
    (h : ∀ j < i, registry.isFree (candidateAt id (counter + Int32.ofNat j)) = false) :
    i ≤ (registry.used ++ registry.reserved).toFinset.card := by
  have hsubset : (Finset.range i).image (fun j => candidateAt id (counter + Int32.ofNat j)) ⊆
      (registry.used ++ registry.reserved).toFinset := by
    intro candidate hcandidate
    obtain ⟨j, hj, rfl⟩ := Finset.mem_image.mp hcandidate
    rw [List.mem_toFinset, List.mem_append]
    exact isFree_eq_false_iff.mp (h j (Finset.mem_range.mp hj))
  have hcard := Finset.card_le_card hsubset
  rw [Finset.card_image_of_injOn, Finset.card_range] at hcard
  · exact hcard
  · intro j hj k hk heq
    rw [Finset.coe_range, Set.mem_Iio] at hj hk
    exact (add_ofNat_inj (Nat.lt_of_lt_of_le hj hi) (Nat.lt_of_lt_of_le hk hi)).mp (candidateAt_inj.mp heq)

/-- There are at most as many taken identifiers as are listed. -/
theorem card_le_taken (registry : Registry) :
    (registry.used ++ registry.reserved).toFinset.card ≤ registry.taken := by
  refine (List.toFinset_card_le _).trans ?_
  rw [List.length_append]
  exact Nat.le_refl _

/-- Some candidate is free if fewer identifiers are taken than the counter has values. -/
theorem exists_isFree (h : (registry.used ++ registry.reserved).toFinset.card < Int32.size) (id : String) :
    ∃ value, registry.isFree (candidateAt id value) = true := by
  by_contra hnone
  have htaken (j : Nat) (_ : j < Int32.size) : registry.isFree (candidateAt id (1 + Int32.ofNat j)) = false :=
    Bool.eq_false_iff.mpr fun hfree => hnone ⟨_, hfree⟩
  exact Nat.not_le_of_lt h (le_card_of_forall_taken (Nat.le_refl _) htaken)

/-- The bounded search finds what is within its reach. -/
theorem firstFree_eq {fuel i : Nat} {counter : Int32} (hi : i ≤ fuel)
    (hfree : registry.isFree (candidateAt id (counter + Int32.ofNat i)) = true)
    (htaken : ∀ j < i, registry.isFree (candidateAt id (counter + Int32.ofNat j)) = false) :
    registry.firstFree id fuel counter = candidateAt id (counter + Int32.ofNat i) := by
  induction fuel generalizing counter i with
  | zero =>
    obtain rfl := Nat.le_zero.mp hi
    exact congrArg (candidateAt id) (add_ofNat_zero counter).symm
  | succ fuel ih =>
    rw [firstFree]
    cases i with
    | zero =>
      rw [add_ofNat_zero] at hfree ⊢
      exact if_pos hfree
    | succ i =>
      have hhere := htaken 0 (Nat.zero_lt_succ i)
      rw [add_ofNat_zero, candidateAt] at hhere
      rw [← add_one_add_ofNat] at hfree ⊢
      rw [hhere, if_neg Bool.false_ne_true]
      refine ih (Nat.le_of_succ_le_succ hi) hfree fun j hj => ?_
      rw [add_one_add_ofNat]
      exact htaken (j + 1) (Nat.succ_lt_succ hj)

/-- The bounded search has the result of the unbounded one, whenever that ends. -/
theorem firstFree_eq_of_searchEnds {counter found : Int32} (h : registry.SearchEnds id counter found) :
    registry.firstFree id registry.taken counter = candidateAt id found := by
  obtain ⟨i, hi, rfl, hfree, hleast⟩ := h.exists_lt_size
  have hreach := (le_card_of_forall_taken (Nat.le_of_lt hi) hleast).trans registry.card_le_taken
  exact firstFree_eq hreach hfree hleast

/-- Whatever a search finds is a candidate. -/
theorem exists_firstFree_eq (registry : Registry) (id : String) (fuel : Nat) (counter : Int32) :
    ∃ value, registry.firstFree id fuel counter = candidateAt id value := by
  induction fuel generalizing counter with
  | zero => exact ⟨counter, rfl⟩
  | succ fuel ih =>
    rw [firstFree]
    split
    · exact ⟨counter, rfl⟩
    · exact ih _

/-! ### One claim -/

/-- Whether an identifier may be given to whom claims it. -/
def MayKeep (registry : Registry) (id : String) (supplied : Bool) : Prop :=
  id ∉ registry.used ∧ (supplied = true ∨ id ∉ registry.reserved)

/-- A claim has an answer: the identifier itself, or what a search ends at. -/
def Answers (registry : Registry) (id : String) (supplied : Bool) : Prop :=
  registry.MayKeep id supplied ∨ ∃ found, registry.SearchEnds id 1 found

/-- A claim has an answer if fewer identifiers are taken than the counter has values. -/
theorem answers_of_lt (h : registry.taken < Int32.size) (id : String) (supplied : Bool) :
    registry.Answers id supplied :=
  .inr ((exists_searchEnds_iff 1).mpr (exists_isFree (registry.card_le_taken.trans_lt h) id))

/-- A claim is answered with the identifier itself if that may be given out, and otherwise with what the
search for a suffix ends at. -/
theorem answer_cases (registry : Registry) (id : String) (supplied : Bool) :
    (registry.answer id supplied = id ∧ registry.MayKeep id supplied) ∨
    (¬ registry.MayKeep id supplied ∧ (∃ value, registry.answer id supplied = candidateAt id value) ∧
      ∀ found, registry.SearchEnds id 1 found → registry.answer id supplied = candidateAt id found) := by
  have hcondition : (!registry.used.contains id &&
      (supplied || !registry.reserved.contains id)) = true ↔ registry.MayKeep id supplied := by
    simp [MayKeep]
  unfold answer
  split
  · rename_i h
    exact .inl ⟨rfl, hcondition.mp h⟩
  · rename_i h
    exact .inr ⟨mt hcondition.mpr h, exists_firstFree_eq .., fun found => firstFree_eq_of_searchEnds⟩

/-- An answer is the identifier itself, or it is free. -/
theorem Answers.cases {supplied : Bool} (h : registry.Answers id supplied) :
    (registry.answer id supplied = id ∧ registry.MayKeep id supplied) ∨
      registry.isFree (registry.answer id supplied) = true := by
  rcases registry.answer_cases id supplied with hself | ⟨hmay, -, hsearch⟩
  · exact .inl hself
  · rcases h with hkeep | ⟨found, hends⟩
    · exact absurd hkeep hmay
    · obtain ⟨-, -, -, hfree, -⟩ := hends.exists_lt_size
      exact .inr ((hsearch found hends).symm ▸ hfree)

/-- What is given out was not in use. -/
theorem Answers.notMem_used {supplied : Bool} (h : registry.Answers id supplied) :
    registry.answer id supplied ∉ registry.used := by
  rcases h.cases with ⟨heq, hmay⟩ | hfree
  · rw [heq]
    exact hmay.1
  · exact (isFree_iff.mp hfree).1

/-- Nothing that is reserved is given out, but for a supplied identifier to the one that brings it. -/
theorem Answers.notMem_reserved {supplied : Bool} (h : registry.Answers id supplied) :
    supplied = true ∧ registry.answer id supplied = id ∨
      registry.answer id supplied ∉ registry.reserved := by
  rcases h.cases with ⟨heq, -, hsupplied | hunreserved⟩ | hfree
  · exact .inl ⟨hsupplied, heq⟩
  · rw [heq]
    exact .inr hunreserved
  · exact .inr (isFree_iff.mp hfree).2

/-- Whoever brings an identifier gets it, if nobody has it yet. -/
theorem answer_supplied (h : id ∉ registry.used) : registry.answer id true = id := by
  simp [answer, h]

/-- A claim is answered with the identifier, or with one that carries a number behind it. -/
theorem answer_eq_or_suffixed (registry : Registry) (id : String) (supplied : Bool) :
    registry.answer id supplied = id ∨ ∃ k, registry.answer id supplied = suffixed id k := by
  rcases registry.answer_cases id supplied with ⟨heq, -⟩ | ⟨-, ⟨value, heq⟩, -⟩
  · exact .inl heq
  · exact .inr ⟨value.toInt, heq⟩

/-! ### A run of claims -/

/-- Between two states of a registry these identifiers were given out, one after another. They are distinct, and
new, if the registry has room for them. -/
structure Grants (before after : Registry) (ids : List String) : Prop where
  reserved_eq : after.reserved = before.reserved
  used_eq : after.used = ids.reverse ++ before.used
  nodup : before.taken + ids.length ≤ Int32.size → ids.Nodup
  fresh : before.taken + ids.length ≤ Int32.size → ∀ id ∈ ids, id ∉ before.used

namespace Grants

variable {before between after : Registry} {ids more : List String}

/-- Between a state and itself nothing was given out. -/
theorem refl (registry : Registry) : Grants registry registry [] where
  reserved_eq := rfl
  used_eq := rfl
  nodup := fun _ => List.nodup_nil
  fresh := by simp

/-- In use is what was in use and what was given out. -/
theorem mem_used_iff (h : Grants before after ids) :
    id ∈ after.used ↔ id ∈ ids ∨ id ∈ before.used := by
  simp [h.used_eq]

/-- What is given out is taken from then on. -/
theorem taken_eq (h : Grants before after ids) : after.taken = before.taken + ids.length := by
  rw [taken, taken, h.used_eq, h.reserved_eq, List.length_append, List.length_reverse]
  omega

/-- What is given out later differs from all that was given out earlier. -/
theorem trans (hfirst : Grants before between ids) (hsecond : Grants between after more) :
    Grants before after (ids ++ more) where
  reserved_eq := hsecond.reserved_eq.trans hfirst.reserved_eq
  used_eq := by simp [hsecond.used_eq, hfirst.used_eq]
  nodup := by
    intro hroom
    rw [List.length_append] at hroom
    have hlater : between.taken + more.length ≤ Int32.size := by
      rw [hfirst.taken_eq]
      omega
    rw [List.nodup_append]
    refine ⟨hfirst.nodup (by omega), hsecond.nodup hlater, ?_⟩
    rintro id hid _ hmore rfl
    exact hsecond.fresh hlater id hmore (hfirst.mem_used_iff.mpr (.inl hid))
  fresh := by
    intro hroom id hid
    rw [List.length_append] at hroom
    rcases List.mem_append.mp hid with hid | hmore
    · exact hfirst.fresh (by omega) id hid
    · have hlater : between.taken + more.length ≤ Int32.size := by
        rw [hfirst.taken_eq]
        omega
      exact fun hused => hsecond.fresh hlater id hmore (hfirst.mem_used_iff.mpr (.inr hused))

/-- A claim gives out its answer. -/
theorem claim (registry : Registry) (id : String) (supplied : Bool) :
    Grants registry (registry.claim id supplied).2 [(registry.claim id supplied).1] where
  reserved_eq := rfl
  used_eq := rfl
  nodup := fun _ => List.nodup_singleton _
  fresh := by
    intro hroom given hgiven
    rw [List.mem_singleton.mp hgiven]
    exact (answers_of_lt hroom id supplied).notMem_used

end Grants

end Registry

end TextChunking
