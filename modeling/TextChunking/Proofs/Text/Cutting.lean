import Mathlib.Data.List.TakeWhile
import TextChunking.Text.Pattern
/-!
# What cutting leaves of a text

A separator takes only characters of its own classes out of a text (`Separator.exists_eq_append`). So
any characters that it never takes are all still there after a cut, in their order
(`Separator.flatMap_filter_cut`), and if the first character of a separator is always enough for a match
then no segment holds one (`Separator.first_eq_false_of_mem_cut`).
-/

namespace TextChunking

/-- The class of the characters that a piece of a pattern takes. -/
def Piece.chars : Piece → Char → Bool
  | .one p => p
  | .many p => p

namespace Pattern

variable {p : Char → Bool}

/-- Whether a pattern takes no characters but those of a class. -/
def IsWithin (p : Char → Bool) (pattern : Pattern) : Prop :=
  ∀ piece ∈ pattern, ∀ c, piece.chars c = true → p c = true

/-- The rest of a pattern stays within a class of characters if all of it does. -/
theorem IsWithin.tail {piece : Piece} {pattern : Pattern} (h : IsWithin p (piece :: pattern)) :
    IsWithin p pattern :=
  fun other hother => h other (List.mem_cons_of_mem _ hother)

/-- A retreat succeeds behind a part of the run: it has given the end of the run back. -/
theorem exists_of_retreat_eq_some {next : List Char → Option (List Char)} {back rest left : List Char}
    (h : retreat next back rest = some left) :
    ∃ given kept, back = given ++ kept ∧ next (given.reverse ++ rest) = some left := by
  induction back generalizing rest with
  | nil => exact ⟨[], [], rfl, h⟩
  | cons c back ih =>
    rw [retreat] at h
    cases hnext : next rest with
    | some found =>
      rw [hnext] at h
      exact ⟨[], c :: back, rfl, hnext.trans h⟩
    | none =>
      rw [hnext] at h
      obtain ⟨given, kept, rfl, hfound⟩ := ih h
      exact ⟨c :: given, kept, rfl, by simpa using hfound⟩

/-- A pattern of one character takes the first one of a text if that is in its class. -/
theorem match?_one_eq_some_iff {p : Char → Bool} {text left : List Char} :
    match? [.one p] text = some left ↔ ∃ c, p c = true ∧ text = c :: left := by
  cases text with
  | nil => simp [match?]
  | cons c rest =>
    simp only [match?, Option.ite_none_right_eq_some, Option.some.injEq, List.cons.injEq]
    constructor
    · rintro ⟨hc, hrest⟩
      exact ⟨c, hc, rfl, hrest⟩
    · rintro ⟨_, hc, rfl, hrest⟩
      exact ⟨hc, hrest⟩

/-- A run in front of a character that cannot stand in it gives nothing back. -/
theorem match?_many_one_eq_some_iff {p q : Char → Bool} (hpq : ∀ c, q c = true → p c = false)
    {text left : List Char} : match? [.many p, .one q] text = some left ↔
      ∃ c, q c = true ∧ text.dropWhile p = c :: left := by
  rw [match?]
  constructor
  · intro h
    obtain ⟨given, kept, hrun, hnext⟩ := exists_of_retreat_eq_some h
    obtain ⟨c, hc, hfront⟩ := match?_one_eq_some_iff.mp hnext
    cases hreverse : given.reverse with
    | nil => exact ⟨c, hc, by rw [← hfront, hreverse, List.nil_append]⟩
    | cons first others =>
      -- what is given back first stood in the run, and is the character behind it now
      rw [hreverse, List.cons_append, List.cons.injEq] at hfront
      have hgiven : first ∈ given := List.mem_reverse.mp (hreverse ▸ List.mem_cons_self)
      have hmem : first ∈ (text.takeWhile p).reverse := hrun ▸ List.mem_append_left _ hgiven
      have htrue := List.mem_takeWhile_imp (List.mem_reverse.mp hmem)
      rw [hfront.1, hpq c hc] at htrue
      exact absurd htrue Bool.false_ne_true
  · rintro ⟨c, hc, hdrop⟩
    have hnext : match? [.one q] (text.dropWhile p) = some left :=
      match?_one_eq_some_iff.mpr ⟨c, hc, hdrop⟩
    cases (text.takeWhile p).reverse with
    | nil => exact hnext
    | cons last back => rw [retreat, hnext]

/-- A pattern of one character matches no text that begins with another one. -/
theorem match?_one_eq_none {q : Char → Bool} {text : List Char} (h : ∀ c ∈ text.head?, q c = false) :
    match? [.one q] text = none := by
  cases text with
  | nil => rfl
  | cons c rest => simp [match?, h c rfl]

/-- Characters of a run that cannot end it are given back one by one. -/
theorem retreat_one_append {q : Char → Bool} {given kept rest : List Char}
    (hgiven : ∀ c ∈ given, q c = false) (hrest : ∀ c ∈ rest.head?, q c = false) :
    retreat (match? [.one q]) (given ++ kept) rest =
      retreat (match? [.one q]) kept (given.reverse ++ rest) := by
  induction given generalizing rest with
  | nil => rfl
  | cons c given ih =>
    have hc : q c = false := hgiven c List.mem_cons_self
    rw [List.cons_append, retreat, match?_one_eq_none hrest, List.reverse_cons, List.append_assoc,
      List.singleton_append]
    refine ih (fun d hd => hgiven d (List.mem_cons_of_mem _ hd)) ?_
    simpa using hc

section Within

variable {p q : Char → Bool} (hqp : ∀ c, q c = true → p c = true)
include hqp

/-- A character that can end a run can also stand in it, so none stands right behind it. -/
theorem head?_dropWhile_of_imp (text : List Char) : ∀ c ∈ (text.dropWhile p).head?, q c = false := by
  intro c hc
  have hnot := List.head?_dropWhile_not p text
  rw [Option.mem_def.mp hc] at hnot
  cases hq : q c with
  | false => rfl
  | true => simp [hqp c hq] at hnot

/-- A text begins with the run at its front, or with what cannot stand in it. -/
theorem head?_of_forall_takeWhile {text : List Char} (h : ∀ c ∈ text.takeWhile p, q c = false) :
    ∀ c ∈ text.head?, q c = false := by
  intro c hc
  obtain ⟨rest, rfl⟩ := List.head?_eq_some_iff.mp (Option.mem_def.mp hc)
  cases hp : p c with
  | true => exact h c (by simp [hp])
  | false =>
    refine Bool.eq_false_iff.mpr fun hq => ?_
    rw [hqp c hq] at hp
    exact Bool.noConfusion hp

/-- A run that may hold its own end goes up to the last one within it. -/
theorem match?_many_one_of_append {front left : List Char} {c : Char}
    (hfront : ∀ d ∈ front, p d = true) (hc : q c = true)
    (hleft : ∀ d ∈ left.takeWhile p, q d = false) :
    match? [.many p, .one q] (front ++ c :: left) = some left := by
  have hrun : ∀ d ∈ front ++ [c], p d = true := by
    simpa [or_imp, forall_and, hqp c hc] using hfront
  have hhere : match? [.one q] left = none :=
    match?_one_eq_none (head?_of_forall_takeWhile hqp hleft)
  have hbehind : match? [.one q] (c :: left) = some left := by simp [match?, hc]
  rw [match?, List.append_cons, List.takeWhile_append_of_pos hrun, List.dropWhile_append_of_pos hrun,
    List.reverse_append, retreat_one_append (by simpa using hleft) (head?_dropWhile_of_imp hqp left),
    List.reverse_reverse, List.takeWhile_append_dropWhile, List.reverse_append, List.reverse_singleton,
    List.singleton_append, retreat, hhere]
  cases front.reverse with
  | nil => exact hbehind
  | cons d back => rw [retreat, hbehind]

/-- There is no match if no end is in the run. -/
theorem match?_many_one_eq_none {text : List Char} (h : ∀ d ∈ text.takeWhile p, q d = false) :
    match? [.many p, .one q] text = none := by
  have hgiven : ∀ d ∈ (text.takeWhile p).reverse, q d = false := by simpa using h
  rw [match?, ← List.append_nil (text.takeWhile p).reverse,
    retreat_one_append hgiven (head?_dropWhile_of_imp hqp text), List.reverse_reverse,
    List.takeWhile_append_dropWhile, retreat, match?_one_eq_none (head?_of_forall_takeWhile hqp h)]

end Within

/-- A repetition with nothing behind it takes all that it can. -/
theorem match?_many (p : Char → Bool) (text : List Char) :
    match? [.many p] text = some (text.dropWhile p) := by
  rw [match?]
  cases (text.takeWhile p).reverse <;> rfl

/-- A match takes characters of the pattern off the front of a text. -/
theorem exists_eq_append {pattern : Pattern} {text left : List Char} (hp : IsWithin p pattern)
    (h : pattern.match? text = some left) :
    ∃ taken, text = taken ++ left ∧ ∀ c ∈ taken, p c = true := by
  induction pattern generalizing text with
  | nil =>
    simp only [match?, Option.some.injEq] at h
    exact ⟨[], by simp [h], by simp⟩
  | cons piece pattern ih =>
    have hpiece : ∀ c, piece.chars c = true → p c = true := hp piece List.mem_cons_self
    cases piece with
    | one q =>
      cases text with
      | nil => simp [match?] at h
      | cons c rest =>
        rw [match?] at h
        split at h
        · rename_i hc
          obtain ⟨taken, rfl, htaken⟩ := ih hp.tail h
          refine ⟨c :: taken, rfl, ?_⟩
          intro d hd
          rcases List.mem_cons.mp hd with rfl | hd
          · exact hpiece d hc
          · exact htaken d hd
        · simp at h
    | many q =>
      rw [match?] at h
      obtain ⟨given, kept, hrun, hmatch⟩ := exists_of_retreat_eq_some h
      obtain ⟨taken, heq, htaken⟩ := ih hp.tail hmatch
      have hfront : text.takeWhile q = kept.reverse ++ given.reverse := by
        rw [← List.reverse_append, ← hrun, List.reverse_reverse]
      refine ⟨kept.reverse ++ taken, ?_, ?_⟩
      · rw [List.append_assoc, ← heq, ← List.append_assoc, ← hfront,
          List.takeWhile_append_dropWhile]
      · intro c hc
        rcases List.mem_append.mp hc with hc | hc
        · have hmem : c ∈ text.takeWhile q := by
            rw [hfront]
            exact List.mem_append_left _ hc
          exact hpiece c (List.mem_takeWhile_imp hmem)
        · exact htaken c hc

end Pattern

namespace Separator

variable {separator : Separator}

/-- Whether a separator takes no characters but those of a class. -/
structure IsWithin (p : Char → Bool) (separator : Separator) : Prop where
  first : ∀ c, separator.first c = true → p c = true
  rest : Pattern.IsWithin p separator.rest

/-- A separator takes its own characters off the front of a text. -/
theorem exists_eq_append {p : Char → Bool} {text left : List Char} (hp : separator.IsWithin p)
    (h : separator.match? text = some left) :
    ∃ taken, text = taken ++ left ∧ ∀ c ∈ taken, p c = true := by
  cases text with
  | nil => simp [match?] at h
  | cons c rest =>
    rw [match?] at h
    split at h
    · rename_i hc
      obtain ⟨taken, rfl, htaken⟩ := Pattern.exists_eq_append hp.rest h
      refine ⟨c :: taken, rfl, ?_⟩
      intro d hd
      rcases List.mem_cons.mp hd with rfl | hd
      · exact hp.first d hc
      · exact htaken d hd
    · simp at h

/-- Induction along a cut: the text is at its end, a separator stands at its front, or its first
character joins the open segment. -/
@[elab_as_elim]
theorem cutFrom_induction (separator : Separator)
    {motive : List Char → List (List Char) → List Char → Prop}
    (finish : ∀ segment cuts, motive segment cuts [])
    (separate : ∀ segment cuts c rest left, separator.match? (c :: rest) = some left →
      motive [] (segment.reverse :: cuts) left → motive segment cuts (c :: rest))
    (extend : ∀ segment cuts c rest, separator.match? (c :: rest) = none →
      motive (c :: segment) cuts rest → motive segment cuts (c :: rest))
    (segment : List Char) (cuts : List (List Char)) (text : List Char) : motive segment cuts text := by
  match text with
  | [] => exact finish segment cuts
  | c :: rest =>
    cases hmatch : separator.match? (c :: rest) with
    | some left =>
      have := match?_length hmatch
      exact separate _ _ _ _ _ hmatch (cutFrom_induction separator finish separate extend _ _ left)
    | none => exact extend _ _ _ _ hmatch (cutFrom_induction separator finish separate extend _ _ rest)
termination_by text.length
decreasing_by all_goals simp only [List.length_cons] at *; omega

/-- Where no separator matches, the open segment goes on. -/
theorem cutFrom_append_of_none {front text : List Char}
    (h : ∀ c rest, c :: rest <:+ front → separator.match? (c :: (rest ++ text)) = none)
    (segment : List Char) (cuts : List (List Char)) :
    separator.cutFrom segment cuts (front ++ text) =
      separator.cutFrom (front.reverse ++ segment) cuts text := by
  induction front generalizing segment with
  | nil => rfl
  | cons c front ih =>
    have hahead : ∀ d rest, d :: rest <:+ front → separator.match? (d :: (rest ++ text)) = none :=
      fun d rest hsuffix => h d rest (hsuffix.trans (List.suffix_cons c front))
    rw [List.cons_append, cutFrom_of_none (h c front List.suffix_rfl), ih hahead, List.reverse_cons,
      List.append_assoc, List.singleton_append]

/-- Where no separator begins, the open segment goes on. -/
theorem cutFrom_append {front : List Char} (h : ∀ c ∈ front, separator.first c = false)
    (segment : List Char) (cuts : List (List Char)) (text : List Char) :
    separator.cutFrom segment cuts (front ++ text) =
      separator.cutFrom (front.reverse ++ segment) cuts text := by
  refine cutFrom_append_of_none (fun c rest hsuffix => ?_) segment cuts
  simp [match?, h c (hsuffix.mem List.mem_cons_self)]

/-! ### Characters that no cut takes -/

variable {keep : Char → Bool}

/-- A cut in progress: what is kept of the finished segments, of the open one and of the text that is
still ahead is what is kept of the segments in the end. -/
theorem flatMap_filter_cutFrom (hkeep : separator.IsWithin fun c => !keep c)
    (segment : List Char) (cuts : List (List Char)) (text : List Char) :
    (separator.cutFrom segment cuts text).flatMap (List.filter keep) =
      cuts.reverse.flatMap (List.filter keep) ++ segment.reverse.filter keep ++
        text.filter keep := by
  induction segment, cuts, text using cutFrom_induction separator with
  | finish segment cuts => simp [cutFrom]
  | separate segment cuts c rest left hmatch ih =>
    obtain ⟨taken, heq, htaken⟩ := exists_eq_append hkeep hmatch
    have hnone : taken.filter keep = [] := by
      rw [List.filter_eq_nil_iff]
      intro d hd
      simpa using htaken d hd
    rw [cutFrom_of_match hmatch, ih, heq, List.filter_append, hnone]
    simp
  | extend segment cuts c rest hmatch ih =>
    rw [cutFrom_of_none hmatch, ih]
    cases hc : keep c <;> simp [hc]

/-- What a separator never takes is still there after a cut, in its order. -/
theorem flatMap_filter_cut (hkeep : separator.IsWithin fun c => !keep c) (text : List Char) :
    (separator.cut text).flatMap (List.filter keep) = text.filter keep := by
  simpa [cut] using flatMap_filter_cutFrom hkeep [] [] text

/-! ### Separators that their first character decides -/

/-- A cut in progress never leaves the first character of such a separator in a segment. -/
theorem first_eq_false_of_mem_cutFrom (hrest : ∀ text, (separator.rest.match? text).isSome = true)
    {segment : List Char} {cuts : List (List Char)} {text : List Char}
    (hsegment : ∀ c ∈ segment, separator.first c = false)
    (hcuts : ∀ found ∈ cuts, ∀ c ∈ found, separator.first c = false) :
    ∀ found ∈ separator.cutFrom segment cuts text, ∀ c ∈ found, separator.first c = false := by
  induction segment, cuts, text using cutFrom_induction separator with
  | finish segment cuts =>
    intro found hfound c hc
    simp only [cutFrom, List.reverse_cons, List.mem_append, List.mem_reverse,
      List.mem_singleton] at hfound
    rcases hfound with hfound | rfl
    · exact hcuts found hfound c hc
    · exact hsegment c (List.mem_reverse.mp hc)
  | separate segment cuts c rest left hmatch ih =>
    rw [cutFrom_of_match hmatch]
    refine ih (by simp) ?_
    intro found hfound d hd
    rcases List.mem_cons.mp hfound with rfl | hfound
    · exact hsegment d (List.mem_reverse.mp hd)
    · exact hcuts found hfound d hd
  | extend segment cuts c rest hmatch ih =>
    rw [cutFrom_of_none hmatch]
    refine ih ?_ hcuts
    intro d hd
    rcases List.mem_cons.mp hd with rfl | hd
    · -- had the separator begun here, it would have matched
      cases hfirst : separator.first d with
      | false => rfl
      | true =>
        have hsome := hrest rest
        rw [match?, if_pos hfirst] at hmatch
        simp [hmatch] at hsome
    · exact hsegment d hd

/-- If the first character of a separator is enough for a match then no segment holds one. -/
theorem first_eq_false_of_mem_cut (hrest : ∀ text, (separator.rest.match? text).isSome = true)
    {text segment : List Char} (h : segment ∈ separator.cut text) :
    ∀ c ∈ segment, separator.first c = false :=
  first_eq_false_of_mem_cutFrom hrest (by simp) (by simp) segment h

end Separator

end TextChunking
