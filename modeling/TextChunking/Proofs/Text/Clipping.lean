import TextChunking.Text.Basic
/-!
# How long clipped texts are

What a clipped text should be is declared by `IsClipped`: it is no longer than its limit, a text that fits is left as
it is, and of another one the longest front is kept that leaves room for the mark. **Theorem** (`isClipped_iff`): there
is such a text exactly if the text fits or the mark does, and then `clip` gives it. With a smaller limit nothing of
a longer text is kept, but the mark is not cut, so that it is longer than the limit.
-/

namespace TextChunking

/-- What a clipped text is: it keeps to the limit, and no longer front could be kept in front of the mark. -/
structure IsClipped (text : List Char) (limit : Nat) (clipped : List Char) : Prop where
  length_le : clipped.length ≤ limit
  eq_self : text.length ≤ limit → clipped = text
  exists_front : limit < text.length → ∃ front, front <+: text ∧ clipped = front ++ clipMark ∧
    ∀ other, other <+: text → (other ++ clipMark).length ≤ limit → other <+: front

variable {text clipped : List Char} {limit : Nat}

/-- A text that does not fit is cut. -/
theorem clip_of_lt (h : limit < text.length) :
    clip text limit = text.take (limit - clipMark.length) ++ clipMark :=
  if_neg (Nat.not_le.mpr h)

/-- A text that is cut is as long as its limit, or as the mark if that is longer. -/
theorem length_clip_of_lt (h : limit < text.length) :
    (clip text limit).length = max limit clipMark.length := by
  rw [clip_of_lt h, List.length_append, List.length_take]
  omega

/-- Clipping keeps to a limit that leaves room for the mark. -/
theorem length_clip_le (h : clipMark.length ≤ limit) (text : List Char) : (clip text limit).length ≤ limit := by
  rcases Nat.lt_or_ge limit text.length with hlong | hshort
  · exact Nat.le_of_eq ((length_clip_of_lt hlong).trans (Nat.max_eq_left h))
  · rwa [clip_of_le hshort]

/-- A front of a text that leaves room for the mark is kept. -/
theorem isPrefix_take_of_length_le {front : List Char} (hfront : front <+: text)
    (h : (front ++ clipMark).length ≤ limit) : front <+: text.take (limit - clipMark.length) := by
  apply List.prefix_take_iff.mpr
  rw [List.length_append] at h
  exact ⟨hfront, Nat.le_sub_of_add_le h⟩

/-- Clipping does what it should if the text fits or there is room for the mark. -/
theorem isClipped_clip (h : text.length ≤ limit ∨ clipMark.length ≤ limit) :
    IsClipped text limit (clip text limit) where
  length_le := by
    rcases h with hshort | hmark
    · rwa [clip_of_le hshort]
    · exact length_clip_le hmark text
  eq_self := clip_of_le
  exists_front := by
    intro hlong
    exact ⟨_, List.take_prefix _ text, clip_of_lt hlong, fun _ => isPrefix_take_of_length_le⟩

namespace IsClipped

/-- A text is only cut if there is room for the mark. -/
theorem fits (h : IsClipped text limit clipped) : text.length ≤ limit ∨ clipMark.length ≤ limit := by
  rcases Nat.lt_or_ge limit text.length with hlong | hshort
  · obtain ⟨front, -, heq, -⟩ := h.exists_front hlong
    have hlength := h.length_le
    rw [heq, List.length_append] at hlength
    exact .inr (by omega)
  · exact .inl hshort

/-- A text can be clipped in one way only. -/
theorem unique {other : List Char} (h : IsClipped text limit clipped) (hother : IsClipped text limit other) :
    clipped = other := by
  rcases Nat.lt_or_ge limit text.length with hlong | hshort
  · obtain ⟨front, hfront, heq, hlongest⟩ := h.exists_front hlong
    obtain ⟨back, hback, heq', hlongest'⟩ := hother.exists_front hlong
    -- each of the two fronts leaves room for the mark, so each is a front of the other
    have hle : front <+: back := hlongest' front hfront (heq ▸ h.length_le)
    have hge : back <+: front := hlongest back hback (heq' ▸ hother.length_le)
    rw [heq, heq', hle.eq_of_length (Nat.le_antisymm hle.length_le hge.length_le)]
  · rw [h.eq_self hshort, hother.eq_self hshort]

end IsClipped

/-- The limit is kept exactly if the text fits or the mark does. -/
theorem length_clip_le_iff :
    (clip text limit).length ≤ limit ↔ text.length ≤ limit ∨ clipMark.length ≤ limit := by
  constructor
  · intro hlength
    rcases Nat.lt_or_ge limit text.length with hlong | hshort
    · rw [length_clip_of_lt hlong] at hlength
      exact .inr (Nat.le_trans (Nat.le_max_right _ _) hlength)
    · exact .inl hshort
  · intro hfits
    exact (isClipped_clip hfits).length_le

/-- Nothing but the mark is left of a text that is cut at a limit in which the mark does not fit. -/
theorem clip_eq_clipMark (hlong : limit < text.length) (hmark : limit < clipMark.length) :
    clip text limit = clipMark := by
  rw [clip_of_lt hlong, Nat.sub_eq_zero_of_le (Nat.le_of_lt hmark), List.take_zero, List.nil_append]

/-- **A text is clipped as it should be unless there is no room for the mark.** There is a text that keeps to the limit
and is the text itself, or else the longest front of it that fits with the mark behind it, exactly if the text fits or
the mark does; it is what clipping gives. A text that is cut becomes as long as the limit or as the mark, whichever is
longer. So a limit in which the mark does not fit is not kept, and nothing but the mark is left then. -/
theorem isClipped_iff (text : List Char) (limit : Nat) :
    (∀ clipped, IsClipped text limit clipped ↔
      (text.length ≤ limit ∨ clipMark.length ≤ limit) ∧ clipped = clip text limit) ∧
    ((clip text limit).length ≤ limit ↔ text.length ≤ limit ∨ clipMark.length ≤ limit) ∧
    (limit < text.length → (clip text limit).length = max limit clipMark.length) ∧
    (limit < text.length → limit < clipMark.length → clip text limit = clipMark) := by
  refine ⟨?_, length_clip_le_iff, length_clip_of_lt, clip_eq_clipMark⟩
  intro clipped
  constructor
  · intro h
    exact ⟨h.fits, h.unique (isClipped_clip h.fits)⟩
  · rintro ⟨hfits, rfl⟩
    exact isClipped_clip hfits

/-- A limit that leaves room for one character and the mark, and one that leaves no room for the mark. -/
theorem isClipped_iff_emoji :
    let text := "🦀🦀🦀🦀🦀".toList
    (clipMark.length ≤ 4 ∧ 2 < text.length ∧ 2 < clipMark.length) ∧
    IsClipped text 4 "🦀...".toList ∧ clip text 2 = clipMark ∧ ¬ (clip text 2).length ≤ 2 := by
  intro text
  have hmark : clipMark.length ≤ 4 := by decide
  have hlong : 2 < text.length := by decide
  have hsmall : 2 < clipMark.length := by decide
  obtain ⟨hclipped, -⟩ := isClipped_iff text 4
  obtain ⟨-, hlength, -, hnothing⟩ := isClipped_iff text 2
  refine ⟨⟨hmark, hlong, hsmall⟩, ?_, hnothing hlong hsmall, ?_⟩
  · exact (hclipped _).mpr ⟨.inr hmark, by decide⟩
  · rw [hlength]
    decide

/-- A text of four characters that becomes three characters long with a limit of two. -/
theorem not_isClipped_clip_two : ¬ IsClipped "abcd".toList 2 (clip "abcd".toList 2) :=
  fun h => absurd h.length_le (by decide)

end TextChunking
