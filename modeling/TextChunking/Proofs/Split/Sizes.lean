import Mathlib.Logic.Function.Basic
import TextChunking.Proofs.Split.Grouping
import TextChunking.Proofs.Split.Overflow
import TextChunking.Proofs.Split.Segments
import TextChunking.Proofs.Text.Widths
/-!
# The sizes on the way to hard windows

Packing counts what is in its buffer, and adds the lengths of the separator and of the next unit to the
count to see whether they fit. What is in the buffer are the last of the units that were taken so far,
joined; one step keeps to this, and so does a whole run (`Packing.Holds`). The next unit is their
neighbour, so the sum is at most the length of all units joined (`Packing.Takes.isWithin`). These come
from a text, and are no longer than it when they are joined with something that is no longer than what
was cut out between them (`length_intercalate_cut_le`).

Packing depends on the pieces that take the place of a unit exactly if the unit is too large
(`asksFor_iff`), and where pieces may be missing, it fails exactly if those of such a unit are
(`pack?_eq_none_iff`). So only sentences that are longer than a window are cut into windows. **Theorem**
(`sizes_within`): no sum in packing paragraphs or sentences exceeds the length of the text that is cut,
and no place where a window would end is twice as far as that, so that no hard split fails on the way.
-/

namespace TextChunking

variable {maxSize limit : Nat} {separator unit text : List Char}
  {oversized other : List Char → List (List Char)} {oversized? : List Char → Option (List (List Char))}
  {units taken held : List (List Char)}

namespace Packing

variable {packing : Packing}

/-! ### What the buffer holds -/

/-- A unit is taken when units are packed: `packing` is what those in front of it have made. -/
def Takes (maxSize : Nat) (separator : List Char) (oversized : List Char → List (List Char))
    (units : List (List Char)) (packing : Packing) (unit : List Char) : Prop :=
  ∃ front back, packable units = front ++ unit :: back ∧
    packing = front.foldl (step maxSize separator oversized) {}

/-- The buffer holds some of the units that were taken, up to the last one. -/
structure Holds (separator : List Char) (taken held : List (List Char)) (packing : Packing) : Prop where
  suffix : held <:+ taken
  buffer_eq : packing.buffer = separator.intercalate held
  counted : packing.Counted

/-- An empty buffer takes a unit as it is. -/
theorem holds_append_of_nil (hempty : packing.buffer = []) (hcounted : packing.Counted)
    (taken : List (List Char)) (unit : List Char) :
    Holds separator (taken ++ [unit]) [unit] (packing.append separator unit) where
  suffix := List.suffix_append taken [unit]
  buffer_eq := by rw [buffer_append, if_pos hempty, List.intercalate_singleton]
  counted := hcounted.append unit

/-- What is in the buffer is joined to the unit that it takes. -/
theorem Holds.append (h : Holds separator taken held packing) (hbuffer : packing.buffer ≠ [])
    (unit : List Char) :
    Holds separator (taken ++ [unit]) (held ++ [unit]) (packing.append separator unit) where
  suffix := by
    obtain ⟨front, rfl⟩ := h.suffix
    exact ⟨front, (List.append_assoc front held [unit]).symm⟩
  buffer_eq := by
    have hheld : held ≠ [] := by
      rintro rfl
      exact hbuffer h.buffer_eq
    rw [buffer_append, if_neg hbuffer, h.buffer_eq, intercalate_concat separator unit hheld]
  counted := h.counted.append unit

/-- One step keeps to it: the buffer is emptied, or it takes the unit, or both. -/
theorem Holds.step (h : Holds separator taken held packing) (unit : List Char) :
    ∃ held', Holds separator (taken ++ [unit]) held' (packing.step maxSize separator oversized unit) := by
  by_cases hlarge : maxSize < unit.length
  · refine ⟨[], List.nil_suffix, ?_, h.counted.step unit⟩
    simp [Packing.step, hlarge]
  · cases hfits : packing.fits unit.length separator.length maxSize with
    | true =>
      rw [step_of_fits hlarge hfits]
      by_cases hempty : packing.buffer = []
      · exact ⟨[unit], holds_append_of_nil hempty h.counted taken unit⟩
      · exact ⟨held ++ [unit], h.append hempty unit⟩
    | false =>
      rw [step_of_full hlarge hfits]
      exact ⟨[unit], holds_append_of_nil (buffer_flush packing) h.counted.flush taken unit⟩

/-- Any number of steps keep to it. -/
theorem Holds.foldl (h : Holds separator taken held packing) (units : List (List Char)) :
    ∃ held', Holds separator (taken ++ units) held'
      (units.foldl (Packing.step maxSize separator oversized) packing) := by
  induction units generalizing taken held packing with
  | nil => exact ⟨held, by rwa [List.append_nil]⟩
  | cons unit rest ih =>
    obtain ⟨next, hnext⟩ := h.step unit
    rw [List.append_cons]
    exact ih hnext

/-- At first nothing was taken, and the buffer holds nothing. -/
theorem holds_empty (separator : List Char) : Holds separator [] [] {} where
  suffix := List.suffix_rfl
  buffer_eq := rfl
  counted := rfl

/-! ### The sizes that are reckoned up -/

/-- The sizes that are reckoned up before a unit is taken are those of what they count, and stay within a limit. A
separator is reckoned in if there is something in front of it. -/
structure IsWithin (limit : Nat) (separator unit : List Char) (packing : Packing) : Prop where
  counted : packing.Counted
  unit_le : unit.length ≤ limit
  sum_le : packing.buffer ≠ [] → packing.bufferSize + separator.length + unit.length ≤ limit

/-- When a unit is taken, the buffer holds some of the units in front of it, by the run of the steps so far. -/
theorem Takes.exists_holds (h : Takes maxSize separator oversized units packing unit) :
    ∃ front back held, packable units = front ++ unit :: back ∧ Holds separator front held packing := by
  obtain ⟨front, back, hunits, rfl⟩ := h
  obtain ⟨held, hholds⟩ := (holds_empty separator).foldl front
  exact ⟨front, back, held, hunits, hholds⟩

/-- Behind every unit the count is right again. -/
theorem Takes.counted_step (h : Takes maxSize separator oversized units packing unit) :
    (packing.step maxSize separator oversized unit).Counted := by
  obtain ⟨_, _, _, _, hholds⟩ := h.exists_holds
  exact hholds.counted.step unit

/-- No sum exceeds the length of all units joined. -/
theorem Takes.isWithin (h : Takes maxSize separator oversized units packing unit)
    (hlimit : (separator.intercalate (packable units)).length ≤ limit) :
    packing.IsWithin limit separator unit := by
  obtain ⟨front, back, held, hunits, hholds⟩ := h.exists_holds
  have hmem : unit ∈ packable units := hunits ▸ List.mem_append_right front List.mem_cons_self
  refine ⟨hholds.counted, (length_le_intercalate hmem separator).trans hlimit, fun hbuffer => ?_⟩
  have hheld : held ≠ [] := by
    rintro rfl
    exact hbuffer hholds.buffer_eq
  -- the buffer and the unit are neighbours among all units
  have hsublist : (held ++ [unit]).Sublist (packable units) := by
    rw [hunits]
    exact hholds.suffix.sublist.append (List.singleton_sublist.mpr List.mem_cons_self)
  have hjoined := (length_intercalate_le hsublist separator).trans hlimit
  rw [intercalate_concat separator unit hheld, List.length_append, List.length_append] at hjoined
  rw [hholds.counted, hholds.buffer_eq]
  exact hjoined

end Packing

/-! ### Units and the text that they are cut out of -/

/-- Trimming its units makes no text longer. -/
theorem length_flatten_map_trim_le (units : List (List Char)) :
    (units.map trim).flatten.length ≤ units.flatten.length := by
  induction units with
  | nil => exact le_rfl
  | cons unit rest ih =>
    rw [List.map_cons, List.flatten_cons, List.flatten_cons, List.length_append, List.length_append]
    exact Nat.add_le_add (length_trim_le unit) ih

/-- What is packed of the segments of a text is no longer than the text when it is joined with no more than was cut
out between them. -/
theorem length_intercalate_cut_le {between : List Char} {separator : Separator}
    (h : between.length ≤ separator.width) (text : List Char) :
    (between.intercalate (packable (separator.cut text))).length ≤ text.length := by
  have hsublist : (packable (separator.cut text)).Sublist ((separator.cut text).map trim) :=
    List.filter_sublist
  have hpacked := length_intercalate_le hsublist between
  rw [length_intercalate between ((separator.cut text).map trim), List.length_map] at hpacked
  have htrimmed := length_flatten_map_trim_le (separator.cut text)
  have hbetween := Nat.mul_le_mul_left ((separator.cut text).length - 1) h
  have hcut := separator.length_cut_le text
  omega

/-- A separator of paragraphs in a piece is no longer than a blank line. -/
theorem length_paragraphSeparator_le : paragraphSeparator.length ≤ blankLine.width := by decide

/-! ### Units that are handed on -/

/-- Packing asks for the pieces of a unit if its result depends on them. -/
def AsksFor (maxSize : Nat) (separator : List Char) (units : List (List Char)) (unit : List Char) : Prop :=
  ∃ oversized pieces, pack maxSize separator (Function.update oversized unit pieces) units ≠
    pack maxSize separator oversized units

/-- Filling looks at nothing but the pieces of units that are too large. -/
theorem fill_congr (h : ∀ unit ∈ units, maxSize < unit.length → oversized unit = other unit)
    (buffer : List Char) :
    fill maxSize separator oversized buffer units = fill maxSize separator other buffer units := by
  induction units generalizing buffer with
  | nil => rfl
  | cons unit rest ih =>
    obtain ⟨hunit, hrest⟩ := List.forall_mem_cons.mp h
    rw [fill, fill]
    split_ifs with hlarge
    · rw [hunit hlarge, ih hrest]
    · exact ih hrest _
    · exact ih hrest _
    · rw [ih hrest]

/-- The pieces of a unit that is too large are among those of all units. -/
theorem subset_fill (hmem : unit ∈ units) (hlarge : maxSize < unit.length) (buffer : List Char) :
    oversized unit ⊆ fill maxSize separator oversized buffer units := by
  obtain ⟨front, back, rfl⟩ := List.append_of_mem hmem
  intro piece hpiece
  have hfirst : ∀ first ∈ (unit :: back).head?, maxSize < first.length := by simpa using hlarge
  rw [fill_append_of_large hfirst, fill, if_pos hlarge]
  simp [hpiece]

/-- Packing asks for the pieces of the units that are too large, and of no others. -/
theorem asksFor_iff : AsksFor maxSize separator units unit ↔ unit ∈ packable units ∧ maxSize < unit.length := by
  constructor
  · rintro ⟨oversized, pieces, hne⟩
    by_contra hnone
    apply hne
    rw [pack_eq_fill, pack_eq_fill]
    apply fill_congr
    intro first hfirst hlarge
    apply Function.update_of_ne
    rintro rfl
    exact hnone ⟨hfirst, hlarge⟩
  · rintro ⟨hmem, hlarge⟩
    -- a piece that is too large cannot come from anywhere else
    refine ⟨fun _ => [], [unit], fun heq => ?_⟩
    have hpiece : unit ∈ pack maxSize separator (fun _ => []) units := by
      rw [← heq, pack_eq_fill]
      apply subset_fill hmem hlarge
      rw [Function.update_self]
      exact List.mem_singleton_self unit
    have hle := (pack_isPiece (by simp) unit hpiece).length_le
    exact absurd hle (Nat.not_le.mpr hlarge)

/-- A unit whose pieces are asked for is no longer than all units joined. -/
theorem AsksFor.length_le (h : AsksFor maxSize separator units unit)
    (hlimit : (separator.intercalate (packable units)).length ≤ limit) : unit.length ≤ limit :=
  (length_le_intercalate (asksFor_iff.mp h).1 separator).trans hlimit

/-! ### Packing that may fail -/

namespace Packing

variable {packing : Packing}

/-- Takes one unit, if its pieces can be had where it is too large. -/
def step? (maxSize : Nat) (separator : List Char) (oversized? : List Char → Option (List (List Char)))
    (packing : Packing) (unit : List Char) : Option Packing :=
  if maxSize < unit.length then do
    let pieces ← oversized? unit
    let flushed := packing.flush
    some { flushed with pieces := flushed.pieces ++ pieces }
  else if packing.fits unit.length separator.length maxSize then some (packing.append separator unit)
  else some (packing.flush.append separator unit)

/-- A step that does not fail is the step with the pieces that were had. -/
theorem step?_eq_some (h : maxSize < unit.length → oversized? unit = some (oversized unit)) :
    packing.step? maxSize separator oversized? unit = some (packing.step maxSize separator oversized unit) := by
  rw [step?, step]
  split_ifs with hlarge
  · rw [h hlarge]
    rfl
  · rfl
  · rfl

/-- A step fails exactly if the pieces of a unit that is too large are missing. -/
theorem step?_eq_none_iff :
    packing.step? maxSize separator oversized? unit = none ↔ maxSize < unit.length ∧ oversized? unit = none := by
  rw [step?]
  split_ifs with hlarge
  · cases hpieces : oversized? unit <;> simp [hlarge]
  · simp [hlarge]
  · simp [hlarge]

/-- A run of steps does not fail if the pieces of all units that are too large can be had. -/
theorem foldlM_step?_eq_some (h : ∀ unit ∈ units, maxSize < unit.length → oversized? unit = some (oversized unit))
    (packing : Packing) :
    units.foldlM (step? maxSize separator oversized?) packing =
      some (units.foldl (step maxSize separator oversized) packing) := by
  induction units generalizing packing with
  | nil => rfl
  | cons unit rest ih =>
    obtain ⟨hunit, hrest⟩ := List.forall_mem_cons.mp h
    rw [List.foldlM_cons, step?_eq_some hunit]
    exact ih hrest _

end Packing

/-- Packs units, if the pieces of those that are too large can be had. -/
def pack? (maxSize : Nat) (separator : List Char) (oversized? : List Char → Option (List (List Char)))
    (units : List (List Char)) : Option (List (List Char)) := do
  let packing ← (packable units).foldlM (Packing.step? maxSize separator oversized?) {}
  some packing.flush.pieces.toList

/-- Packing does not fail if the pieces of all units that are too large can be had. -/
theorem pack?_eq_some
    (h : ∀ unit ∈ packable units, maxSize < unit.length → oversized? unit = some (oversized unit)) :
    pack? maxSize separator oversized? units = some (pack maxSize separator oversized units) := by
  rw [pack?, Packing.foldlM_step?_eq_some h]
  rfl

/-- Packing fails exactly if the pieces of some unit that it asks for are missing. So the units on which the result
depends are those whose pieces are looked up on the way. -/
theorem pack?_eq_none_iff : pack? maxSize separator oversized? units = none ↔
    ∃ unit, AsksFor maxSize separator units unit ∧ oversized? unit = none := by
  simp only [asksFor_iff, and_assoc]
  constructor
  · intro hfails
    by_contra! hnone
    have hpacked : pack? maxSize separator oversized? units =
        some (pack maxSize separator (fun unit => (oversized? unit).getD []) units) := by
      apply pack?_eq_some
      intro unit hmem hlarge
      obtain ⟨pieces, hpieces⟩ := Option.ne_none_iff_exists'.mp (hnone unit hmem hlarge)
      rw [hpieces, Option.getD_some]
    cases hfails.symm.trans hpacked
  · rintro ⟨unit, hmem, hlarge, hmissing⟩
    obtain ⟨front, back, hunits⟩ := List.append_of_mem hmem
    have hstep (packing : Packing) : packing.step? maxSize separator oversized? unit = none :=
      Packing.step?_eq_none_iff.mpr ⟨hlarge, hmissing⟩
    rw [pack?, hunits, List.foldlM_append]
    cases hfront : front.foldlM (Packing.step? maxSize separator oversized?) {} with
    | none => rfl
    | some packing => simp [hstep]

/-- The pieces of a text, cut at the ends of its sentences, if no hard split fails on the way. -/
def splitSentences? (maxSize overlap : Nat) (text : List Char) : Option (List (List Char)) :=
  pack? maxSize [] (hardSplit? maxSize overlap) (sentenceEnd.cut text)

/-- The pieces of a text, cut at its blank lines, if no hard split fails on the way. -/
def splitParagraphs? (maxSize overlap : Nat) (text : List Char) : Option (List (List Char)) :=
  pack? maxSize paragraphSeparator (splitSentences? maxSize overlap) (blankLine.cut text)

/-- A hard split of a text that is longer than a window does not fail, if there are words for twice its length. -/
theorem hardSplit?_of_lt_length (hlarge : maxSize < text.length) (hword : 2 * text.length ≤ wordLimit)
    (overlap : Nat) : hardSplit? maxSize overlap text = some (hardSplit maxSize overlap text) := by
  rcases Nat.eq_zero_or_pos maxSize with rfl | hpos
  · exact hardSplit?_zero overlap text
  · exact hardSplit?_eq_some hpos (by omega) overlap

/-- Sentences that come from a text do not make a hard split fail, if there are words for twice its length. -/
theorem splitSentences?_eq_some (hword : 2 * text.length ≤ wordLimit) (maxSize overlap : Nat) :
    splitSentences? maxSize overlap text = some (splitSentences maxSize overlap text) := by
  apply pack?_eq_some
  intro sentence hmem hlarge
  have hlength : sentence.length ≤ text.length :=
    (length_le_intercalate hmem []).trans (length_intercalate_cut_le (Nat.zero_le _) text)
  exact hardSplit?_of_lt_length hlarge (by omega) overlap

/-- Nor do the sentences of its paragraphs. -/
theorem splitParagraphs?_eq_some (hword : 2 * text.length ≤ wordLimit) (maxSize overlap : Nat) :
    splitParagraphs? maxSize overlap text = some (splitParagraphs maxSize overlap text) := by
  apply pack?_eq_some
  intro paragraph hmem _
  have hlength : paragraph.length ≤ text.length :=
    (length_le_intercalate hmem paragraphSeparator).trans
      (length_intercalate_cut_le length_paragraphSeparator_le text)
  exact splitSentences?_eq_some (by omega) maxSize overlap

/-- **The sizes on the way to hard windows.** When a text is cut into paragraphs and these are packed, the count of
the buffer is right in front of every paragraph and behind it, and with the separator and the paragraph it is at most
the length of the text. The same holds of sentences, whether it is the text that is cut into them or a paragraph whose
pieces are asked for. A sentence whose pieces are asked for is longer than a window, so a window that starts
within it would end at less than twice the length of the text; and its hard split does not fail, if there are words for
twice that length. Then cutting the text into paragraphs, or into sentences, does not fail either. -/
theorem sizes_within (maxSize overlap : Nat) (text : List Char) :
    (∀ (packing : Packing) (paragraph : List Char),
      packing.Takes maxSize paragraphSeparator (splitSentences maxSize overlap) (blankLine.cut text) paragraph →
      packing.IsWithin text.length paragraphSeparator paragraph ∧
        (packing.step maxSize paragraphSeparator (splitSentences maxSize overlap) paragraph).Counted) ∧
    (2 * text.length ≤ wordLimit →
      splitParagraphs? maxSize overlap text = some (splitParagraphs maxSize overlap text) ∧
      splitSentences? maxSize overlap text = some (splitSentences maxSize overlap text)) ∧
    ∀ part, (part = text ∨ AsksFor maxSize paragraphSeparator (blankLine.cut text) part) →
      part.length ≤ text.length ∧
      (∀ (packing : Packing) (sentence : List Char),
        packing.Takes maxSize [] (hardSplit maxSize overlap) (sentenceEnd.cut part) sentence →
        packing.IsWithin part.length [] sentence ∧
          (packing.step maxSize [] (hardSplit maxSize overlap) sentence).Counted) ∧
      ∀ sentence, AsksFor maxSize [] (sentenceEnd.cut part) sentence →
        maxSize < sentence.length ∧
        (∀ start < sentence.length, start + maxSize < 2 * part.length) ∧
        (2 * text.length ≤ wordLimit →
          hardSplit? maxSize overlap sentence = some (hardSplit maxSize overlap sentence)) := by
  have hparagraphs : (paragraphSeparator.intercalate (packable (blankLine.cut text))).length ≤ text.length :=
    length_intercalate_cut_le length_paragraphSeparator_le text
  refine ⟨?_, fun hword => ⟨splitParagraphs?_eq_some hword .., splitSentences?_eq_some hword ..⟩, ?_⟩
  · intro packing paragraph htakes
    exact ⟨htakes.isWithin hparagraphs, htakes.counted_step⟩
  intro part hpart
  have hsentences : ([].intercalate (packable (sentenceEnd.cut part))).length ≤ part.length :=
    length_intercalate_cut_le (Nat.zero_le _) part
  have hwithin : part.length ≤ text.length := by
    rcases hpart with rfl | hasked
    · exact le_rfl
    · exact hasked.length_le hparagraphs
  refine ⟨hwithin, ?_, ?_⟩
  · intro packing sentence htakes
    exact ⟨htakes.isWithin hsentences, htakes.counted_step⟩
  · intro sentence hasked
    have hlarge : maxSize < sentence.length := (asksFor_iff.mp hasked).2
    have hlength : sentence.length ≤ part.length := hasked.length_le hsentences
    refine ⟨hlarge, ?_, ?_⟩
    · intro start hstart
      omega
    · intro hword
      exact hardSplit?_of_lt_length hlarge (by omega) overlap

/-- Two paragraphs that share a piece, and one that is cut into sentences, of which one is cut into windows and
two share a piece. -/
theorem sizes_within_three_paragraphs :
    let text := "ab\n\ncd\n\nabcdefgh. ij! k".toList
    let part := "abcdefgh. ij! k".toList
    let sentence := "abcdefgh".toList
    let first := ["ab".toList].foldl (Packing.step 6 paragraphSeparator (splitSentences 6 2)) {}
    let later := [sentence, "ij".toList].foldl (Packing.step 6 [] (hardSplit 6 2)) {}
    (first.Takes 6 paragraphSeparator (splitSentences 6 2) (blankLine.cut text) "cd".toList ∧
      AsksFor 6 paragraphSeparator (blankLine.cut text) part ∧
      later.Takes 6 [] (hardSplit 6 2) (sentenceEnd.cut part) "k".toList ∧
      AsksFor 6 [] (sentenceEnd.cut part) sentence ∧ 2 * text.length ≤ wordLimit) ∧
    (first.buffer = "ab".toList ∧ first.bufferSize + paragraphSeparator.length + "cd".length ≤ text.length) ∧
    (later.buffer = "ij".toList ∧ later.bufferSize + 0 + "k".length ≤ part.length) ∧
    7 + 6 < 2 * part.length ∧ hardSplit? 6 2 sentence = some ["abcdef".toList, "efgh".toList] ∧
    splitParagraphs? 6 2 text =
      some ["ab\n\ncd".toList, "abcdef".toList, "efgh".toList, "ijk".toList] ∧
    splitSentences? 6 2 part = some ["abcdef".toList, "efgh".toList, "ijk".toList] := by
  intro text part sentence first later
  have hfirst : first.Takes 6 paragraphSeparator (splitSentences 6 2) (blankLine.cut text) "cd".toList :=
    ⟨["ab".toList], [part], by decide +kernel, rfl⟩
  have hpart : AsksFor 6 paragraphSeparator (blankLine.cut text) part :=
    asksFor_iff.mpr ⟨by decide +kernel, by decide⟩
  have hlater : later.Takes 6 [] (hardSplit 6 2) (sentenceEnd.cut part) "k".toList :=
    ⟨[sentence, "ij".toList], [], by decide +kernel, rfl⟩
  have hsentence : AsksFor 6 [] (sentenceEnd.cut part) sentence :=
    asksFor_iff.mpr ⟨by decide +kernel, by decide⟩
  have hword : 2 * text.length ≤ wordLimit := by decide
  obtain ⟨hparagraphs, htext, hparts⟩ := sizes_within 6 2 text
  obtain ⟨-, hpartSplit, -⟩ := sizes_within 6 2 part
  obtain ⟨-, hsentences, hwindows⟩ := hparts part (.inr hpart)
  obtain ⟨-, hends, hsplit⟩ := hwindows sentence hsentence
  refine ⟨⟨hfirst, hpart, hlater, hsentence, hword⟩, ⟨by decide, ?_⟩, ⟨by decide +kernel, ?_⟩, ?_, ?_, ?_, ?_⟩
  · exact (hparagraphs first _ hfirst).1.sum_le (by decide)
  · exact (hsentences later _ hlater).1.sum_le (by decide +kernel)
  · exact hends 7 (by decide)
  · rw [hsplit hword]
    decide +kernel
  · rw [(htext hword).1]
    decide +kernel
  · rw [(hpartSplit (by decide)).2]
    decide +kernel

end TextChunking
