import TextChunking.Proofs.Text.Cutting
/-!
# What stands at the front of a text

A pattern prefers long runs and gives their characters back one by one. Whether it matches at all does not
depend on what it prefers: a run may be any row of characters of its class behind which the rest of the
pattern matches (`isAtFront_many_iff`). So a pattern is at the front of a text exactly if the text can be
taken apart along its pieces, and there is one equation for each kind of piece.
-/

namespace TextChunking

namespace Pattern

variable {p : Char → Bool} {pattern : Pattern} {text : List Char}

/-- The empty pattern is in front of every text. -/
theorem isAtFront_nil (text : List Char) : isAtFront [] text = true := rfl

/-- A class is in front if it has the first character, and what comes behind it is in front of the rest. -/
theorem isAtFront_one_cons (c : Char) (rest : List Char) :
    isAtFront (.one p :: pattern) (c :: rest) = (p c && pattern.isAtFront rest) := by
  rw [isAtFront, match?]
  split <;> simp_all [isAtFront]

/-- A class is in front of a text exactly if the text begins with one of its characters and goes on as it should. -/
theorem isAtFront_one_iff : isAtFront (.one p :: pattern) text = true ↔
    ∃ c rest, text = c :: rest ∧ p c = true ∧ pattern.isAtFront rest = true := by
  cases text with
  | nil => simp [isAtFront, match?]
  | cons c rest =>
    rw [isAtFront_one_cons, Bool.and_eq_true]
    constructor
    · exact fun h => ⟨c, rest, rfl, h⟩
    · rintro ⟨_, _, ⟨⟩, h⟩
      exact h

/-- A character is in front if it is the first one. -/
theorem isAtFront_char_iff {c : Char} : isAtFront (.char c :: pattern) text = true ↔
    ∃ rest, text = c :: rest ∧ pattern.isAtFront rest = true := by
  rw [Piece.char, isAtFront_one_iff]
  simp only [beq_iff_eq]
  constructor
  · rintro ⟨_, rest, rfl, rfl, hrest⟩
    exact ⟨rest, rfl, hrest⟩
  · rintro ⟨rest, rfl, hrest⟩
    exact ⟨c, rest, rfl, rfl, hrest⟩

/-- A retreat succeeds if it gets to a place from which the rest matches. -/
theorem isSome_retreat_append {next : List Char → Option (List Char)} {given kept rest : List Char}
    (h : (next (given.reverse ++ rest)).isSome = true) : (retreat next (given ++ kept) rest).isSome = true := by
  induction given generalizing rest with
  | nil =>
    cases kept with
    | nil => exact h
    | cons c kept =>
      obtain ⟨left, hleft⟩ := Option.isSome_iff_exists.mp h
      rw [List.reverse_nil, List.nil_append] at hleft
      simp [retreat, hleft]
  | cons c given ih =>
    rw [List.cons_append, retreat]
    split
    · rfl
    · exact ih (by simpa using h)

/-- A run may be as short as the rest of the pattern needs it. -/
theorem isAtFront_many_iff : isAtFront (.many p :: pattern) text = true ↔
    ∃ run rest, text = run ++ rest ∧ (∀ c ∈ run, p c = true) ∧ pattern.isAtFront rest = true := by
  constructor
  · intro h
    obtain ⟨left, hleft⟩ := Option.isSome_iff_exists.mp h
    rw [match?] at hleft
    obtain ⟨given, kept, hrun, hnext⟩ := exists_of_retreat_eq_some hleft
    have hfront : text.takeWhile p = kept.reverse ++ given.reverse := by
      rw [← List.reverse_append, ← hrun, List.reverse_reverse]
    refine ⟨kept.reverse, given.reverse ++ text.dropWhile p, ?_, fun c hc => ?_, ?_⟩
    · rw [← List.append_assoc, ← hfront, List.takeWhile_append_dropWhile]
    · refine List.mem_takeWhile_imp (l := text) ?_
      rw [hfront]
      exact List.mem_append_left _ hc
    · rw [isAtFront, hnext]
      rfl
  · rintro ⟨run, rest, rfl, hrun, hrest⟩
    rw [isAtFront, match?, List.takeWhile_append_of_pos hrun, List.dropWhile_append_of_pos hrun,
      List.reverse_append]
    refine isSome_retreat_append ?_
    rwa [List.reverse_reverse, List.takeWhile_append_dropWhile]

/-- A run of at least one character. -/
theorem isAtFront_run_append_iff : isAtFront (run p ++ pattern) text = true ↔
    ∃ front rest, front ≠ [] ∧ (∀ c ∈ front, p c = true) ∧ text = front ++ rest ∧
      pattern.isAtFront rest = true := by
  rw [run, List.cons_append, List.singleton_append, isAtFront_one_iff]
  simp only [isAtFront_many_iff]
  constructor
  · rintro ⟨c, _, rfl, hc, front, rest, rfl, hfront, hrest⟩
    exact ⟨c :: front, rest, List.cons_ne_nil _ _, List.forall_mem_cons.mpr ⟨hc, hfront⟩, rfl, hrest⟩
  · rintro ⟨front, rest, hne, hfront, rfl, hrest⟩
    obtain ⟨c, front, rfl⟩ := List.exists_cons_of_ne_nil hne
    obtain ⟨hc, hfront⟩ := List.forall_mem_cons.mp hfront
    exact ⟨c, front ++ rest, rfl, hc, front, rest, rfl, hfront, hrest⟩

/-- A run of a class is in front exactly if one character of it is, since it may be as short as that. -/
theorem isAtFront_run_iff : isAtFront (run p) text = true ↔ ∃ c rest, text = c :: rest ∧ p c = true := by
  rw [run, isAtFront_one_iff]
  refine exists_congr fun c => exists_congr fun rest => and_congr_right fun _ => and_iff_left ?_
  exact isAtFront_many_iff.mpr ⟨[], rest, rfl, List.forall_mem_nil _, isAtFront_nil rest⟩

end Pattern

end TextChunking
