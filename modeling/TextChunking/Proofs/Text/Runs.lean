import Mathlib.Data.List.Chain
/-!
# Blocks that run through a text

A *span* is a stretch of a text. Spans *run* through a text (`IsRun`) if the first begins where the text
begins, the last ends where it ends, and each begins no earlier and ends no earlier than the one before
it, without a gap and with at most a given number of characters in common. Runs of two texts make a run
of the texts together (`IsRun.append`), and a run is extended at its front by a span that reaches into
its first one (`IsRun.extend`). Blocks that run through a text in this way cover it (`Covers`); without
characters in common they are the text, one after another (`Covers.flatten_eq`).
-/

namespace TextChunking

/-- A stretch of a text. -/
structure Span where
  start : Nat
  stop : Nat
  deriving Repr, DecidableEq

namespace Span

/-- The characters of a stretch. -/
def block (text : List Char) (span : Span) : List Char := (text.take span.stop).drop span.start

/-- The stretch that begins and ends `n` characters later. -/
def shift (n : Nat) (span : Span) : Span := ⟨n + span.start, n + span.stop⟩

/-- A stretch that is moved by nothing stays where it is. -/
@[simp] theorem shift_zero : shift 0 = id := by
  funext span
  simp [shift]

/-- One stretch comes right behind another and has at most `shared` characters in common with it. -/
structure Follows (shared : Nat) (before after : Span) : Prop where
  start_le : before.start ≤ after.start
  stop_le : before.stop ≤ after.stop
  no_gap : after.start ≤ before.stop
  shared_le : before.stop - after.start ≤ shared

/-- A stretch that is moved behind a front holds what it held without that front. -/
@[simp] theorem block_shift (front text : List Char) (span : Span) :
    (span.shift front.length).block (front ++ text) = span.block text := by
  simp only [block, shift, List.take_length_add_append, List.drop_length_add_append]

/-- What comes behind a text does not matter to its stretches. -/
theorem block_append {text : List Char} {span : Span} (h : span.stop ≤ text.length)
    (back : List Char) : span.block (text ++ back) = span.block text := by
  rw [block, List.take_append_of_le_length h, block]

/-- What comes in front of a stretch, and the stretch. -/
theorem take_stop {span : Span} (h : span.start ≤ span.stop) (text : List Char) :
    text.take span.stop = text.take span.start ++ span.block text := by
  conv_lhs => rw [← List.take_append_drop span.start (text.take span.stop), List.take_take, Nat.min_eq_left h]
  rw [block]

/-- A stretch and what comes behind it. -/
theorem block_append_drop {span : Span} (h : span.start ≤ span.stop) (text : List Char) :
    span.block text ++ text.drop span.stop = text.drop span.start := by
  have hdrop : text.drop span.stop = (text.drop span.start).drop (span.stop - span.start) := by
    rw [List.drop_drop, Nat.add_sub_cancel' h]
  rw [block, List.drop_take, hdrop, List.take_append_drop]

/-- Neighbours stay neighbours when both are moved. -/
theorem Follows.shift {shared : Nat} {before after : Span} (h : Follows shared before after) (n : Nat) :
    Follows shared (before.shift n) (after.shift n) := by
  obtain ⟨hstart, hstop, hgap, hshared⟩ := h
  constructor <;> simp only [Span.shift] <;> omega

/-- Stretches without characters in common meet. -/
theorem Follows.start_eq_stop {before after : Span} (h : Follows 0 before after) :
    after.start = before.stop := by
  have := h.no_gap
  have := h.shared_le
  omega

end Span

/-- Stretches that run through a text. -/
structure IsRun (shared : Nat) (text : List Char) (spans : List Span) : Prop where
  proper : ∀ span ∈ spans, span.start < span.stop ∧ span.stop ≤ text.length
  start_eq : ∀ span ∈ spans.head?, span.start = 0
  stop_eq : ∀ span ∈ spans.getLast?, span.stop = text.length
  chain : spans.IsChain (Span.Follows shared)
  text_eq_nil : spans = [] → text = []

namespace IsRun

variable {shared : Nat} {text front back : List Char} {spans before after : List Span}

theorem nil : IsRun shared [] [] where
  proper := by simp
  start_eq := by simp
  stop_eq := by simp
  chain := .nil
  text_eq_nil := fun _ => rfl

/-- No stretch runs through the empty text. -/
theorem spans_eq_nil_iff (h : IsRun shared text spans) : spans = [] ↔ text = [] := by
  refine ⟨h.text_eq_nil, ?_⟩
  rintro rfl
  cases spans with
  | nil => rfl
  | cons span rest =>
    have := h.proper span List.mem_cons_self
    simp only [List.length_nil] at this
    omega

/-- A whole text is a run of a single block. -/
theorem single (h : text ≠ []) : IsRun shared text [⟨0, text.length⟩] where
  proper := by
    intro span hspan
    rw [List.mem_singleton.mp hspan]
    exact ⟨List.length_pos_iff.mpr h, le_rfl⟩
  start_eq := by simp
  stop_eq := by simp
  chain := .singleton _
  text_eq_nil := by simp

/-- A stretch at the very front that ends within the first stretch of a run extends the run. -/
theorem extend {k : Nat} (h : IsRun shared back spans) (hk : k ≤ back.length) (hshared : k ≤ shared)
    (hfirst : ∀ span ∈ spans.head?, k ≤ span.stop) (hpos : 0 < front.length + k) :
    IsRun shared (front ++ back)
      (⟨0, front.length + k⟩ :: spans.map (Span.shift front.length)) where
  proper := by
    intro span hspan
    simp only [List.mem_cons, List.mem_map] at hspan
    rcases hspan with rfl | ⟨other, hother, rfl⟩
    · exact ⟨hpos, by simp only [List.length_append]; omega⟩
    · have := h.proper other hother
      simp only [Span.shift, List.length_append]
      omega
  start_eq := by simp
  stop_eq := by
    intro span hspan
    cases hspans : spans.getLast? with
    | none =>
      rw [List.getLast?_eq_none_iff] at hspans
      have hback : back = [] := h.text_eq_nil hspans
      subst hspans hback
      have hk : k = 0 := Nat.le_zero.mp hk
      simp only [List.map_nil, List.getLast?_singleton, Option.mem_some_iff] at hspan
      simp [← hspan, hk]
    | some last =>
      rw [List.getLast?_cons, List.getLast?_map, hspans] at hspan
      simp only [Option.map_some, Option.getD_some, Option.mem_some_iff] at hspan
      rw [← hspan, Span.shift, List.length_append, h.stop_eq last hspans]
  chain := by
    refine List.isChain_cons.mpr ⟨?_, ?_⟩
    · intro span hspan
      rw [List.head?_map, Option.mem_def, Option.map_eq_some_iff] at hspan
      obtain ⟨other, hother, rfl⟩ := hspan
      have hstart := h.start_eq other hother
      have hstop := hfirst other hother
      constructor <;> simp only [Span.shift] <;> omega
    · exact List.isChain_map_of_isChain _ (fun _ _ hfollows => hfollows.shift _) h.chain
  text_eq_nil := by simp

/-- Runs of two texts make a run of the texts together. -/
theorem append (hbefore : IsRun shared front before) (hafter : IsRun shared back after) :
    IsRun shared (front ++ back) (before ++ after.map (Span.shift front.length)) := by
  by_cases hnone : before = []
  · have hfront : front = [] := hbefore.text_eq_nil hnone
    subst hnone hfront
    simpa using hafter
  refine ⟨?_, ?_, ?_, ?_, ?_⟩
  · intro span hspan
    simp only [List.mem_append, List.mem_map] at hspan
    rw [List.length_append]
    rcases hspan with hspan | ⟨other, hother, rfl⟩
    · have := hbefore.proper span hspan
      omega
    · have := hafter.proper other hother
      simp only [Span.shift]
      omega
  · rw [List.head?_append_of_ne_nil _ hnone]
    exact hbefore.start_eq
  · intro span hspan
    cases hlast : after.getLast? with
    | none =>
      rw [List.getLast?_eq_none_iff] at hlast
      have hback : back = [] := hafter.text_eq_nil hlast
      subst hlast hback
      simpa using hbefore.stop_eq span (by simpa using hspan)
    | some last =>
      rw [List.getLast?_append, List.getLast?_map, hlast] at hspan
      simp only [Option.map_some, Option.some_or, Option.mem_some_iff] at hspan
      rw [← hspan, Span.shift, List.length_append, hafter.stop_eq last hlast]
  · refine List.isChain_append.mpr ⟨hbefore.chain, ?_, ?_⟩
    · exact List.isChain_map_of_isChain _ (fun _ _ hfollows => hfollows.shift _) hafter.chain
    · -- the last span ends where the front does, which is where the next one begins
      intro last hlast span hspan
      rw [List.head?_map, Option.mem_def, Option.map_eq_some_iff] at hspan
      obtain ⟨other, hother, rfl⟩ := hspan
      have hstop := hbefore.stop_eq last hlast
      have hstart := hafter.start_eq other hother
      have hlast' := hbefore.proper last (List.mem_of_mem_getLast? hlast)
      constructor <;> simp only [Span.shift] <;> omega
  · simp [hnone]

/-- The blocks of the runs of two texts are those of the run of the texts together. -/
theorem map_block_append (hbefore : IsRun shared front before) :
    (before ++ after.map (Span.shift front.length)).map (Span.block (front ++ back)) =
      before.map (Span.block front) ++ after.map (Span.block back) := by
  rw [List.map_append, List.map_map]
  congr 1
  · refine List.map_congr_left fun span hspan => ?_
    exact Span.block_append (hbefore.proper span hspan).2 back
  · exact List.map_congr_left fun span _ => Span.block_shift front back span

/-- Stretches that meet, from the first of them to the end of the text. -/
theorem flatten_eq_drop {span : Span} {rest : List Span}
    (hproper : ∀ other ∈ span :: rest, other.start ≤ other.stop)
    (hlast : ∀ last ∈ (span :: rest).getLast?, last.stop = text.length)
    (hchain : (span :: rest).IsChain (Span.Follows 0)) :
    ((span :: rest).map (Span.block text)).flatten = text.drop span.start := by
  have hspan : span.start ≤ span.stop := hproper span List.mem_cons_self
  induction rest generalizing span with
  | nil =>
    have hstop : span.stop = text.length := hlast span (by simp)
    simp [Span.block, hstop]
  | cons next rest ih =>
    obtain ⟨hnext, hrest⟩ := List.isChain_cons_cons.mp hchain
    have hahead : ((next :: rest).map (Span.block text)).flatten = text.drop next.start :=
      ih (fun other hother => hproper other (List.mem_cons_of_mem _ hother))
        (fun last hl => hlast last (by simpa using hl)) hrest (hproper next (by simp))
    rw [List.map_cons, List.flatten_cons, hahead, hnext.start_eq_stop,
      Span.block_append_drop hspan]

/-- If the stretches have no characters in common then their blocks are what they run through. -/
theorem flatten (h : IsRun 0 text spans) : (spans.map (Span.block text)).flatten = text := by
  cases spans with
  | nil => simp [h.text_eq_nil rfl]
  | cons span rest =>
    rw [flatten_eq_drop (fun other hother => (h.proper other hother).1.le) h.stop_eq h.chain,
      h.start_eq span (by simp), List.drop_zero]

end IsRun

/-! ### Blocks -/

/-- Blocks that cover a text: they are those of stretches that run through it. -/
def Covers (shared : Nat) (text : List Char) (blocks : List (List Char)) : Prop :=
  ∃ spans, IsRun shared text spans ∧ blocks = spans.map (Span.block text)

namespace Covers

variable {shared : Nat} {text front back : List Char} {blocks before after : List (List Char)}

theorem nil : Covers shared [] [] := ⟨[], .nil, rfl⟩

/-- A text is covered by itself. -/
theorem single (h : text ≠ []) : Covers shared text [text] :=
  ⟨_, .single h, by simp [Span.block]⟩

/-- Blocks of two texts cover the texts together. -/
theorem append (hbefore : Covers shared front before) (hafter : Covers shared back after) :
    Covers shared (front ++ back) (before ++ after) := by
  obtain ⟨spans, hspans, rfl⟩ := hbefore
  obtain ⟨others, hothers, rfl⟩ := hafter
  exact ⟨_, hspans.append hothers, hspans.map_block_append.symm⟩

/-- No block covers a text exactly if the text is empty. -/
theorem eq_nil_iff (h : Covers shared text blocks) : blocks = [] ↔ text = [] := by
  obtain ⟨spans, hspans, rfl⟩ := h
  rw [List.map_eq_nil_iff, hspans.spans_eq_nil_iff]

/-- Blocks without characters in common are the text that they cover. -/
theorem flatten_eq (h : Covers 0 text blocks) : blocks.flatten = text := by
  obtain ⟨spans, hspans, rfl⟩ := h
  exact hspans.flatten

end Covers

end TextChunking
