import Mathlib
import TextChunking.Layout.Candidate
import TextChunking.Proofs.Text.Matching
import TextChunking.Proofs.Text.Trimming
/-!
# Which texts are titles

**Theorem** (`title_eq_iff`): a text is its own title exactly if it is that of a title by its type or its subtype,
or if it is short and has one of five forms (`HeadingForm`).

A heading is looked for with patterns that end in blanks and ink, where the forms ask for any text at all. The two
agree since a trimmed text ends in ink, so that there is ink in whatever stands at its end
(`IsTight.ink_ne_nil_of_suffix`); and a pattern that would take too much for its run gives it back
(`isHeadingLike_iff`). A subtype may be written in any case. Its lower case is that of Unicode, of which only what
touches ASCII matters (`IsLowered.titleWord_isInfix_iff`).
-/

namespace TextChunking

variable {text rest lowered word : List Char}

/-! ### Lower case -/

/-- A lower case of a character, as far as ASCII is concerned. Two characters beyond ASCII have an ASCII letter in
their lower case, which are the Kelvin sign and the capital I with a dot. Any other becomes a character beyond
ASCII, if it changes at all. -/
inductive IsLowerCase : Char → List Char → Prop where
  | ascii {c : Char} (hc : c.toNat < 128) : IsLowerCase c [c.toLower]
  | kelvin : IsLowerCase '\u212a' ['k']
  | dotted : IsLowerCase '\u0130' ['i', '\u0307']
  | other {c d : Char} (hc : 128 ≤ c.toNat) (hd : 128 ≤ d.toNat) : IsLowerCase c [d]

/-- A text in lower case, character by character. -/
inductive IsLowered : List Char → List Char → Prop where
  | nil : IsLowered [] []
  | cons {c : Char} {part rest lowered : List Char} (hpart : IsLowerCase c part) (hrest : IsLowered rest lowered) :
    IsLowered (c :: rest) (part ++ lowered)

/-- Every text has a lower case. -/
theorem exists_isLowered (text : List Char) : ∃ lowered, IsLowered text lowered := by
  induction text with
  | nil => exact ⟨[], .nil⟩
  | cons c rest ih =>
    obtain ⟨lowered, hrest⟩ := ih
    rcases Nat.lt_or_ge c.toNat 128 with hc | hc
    · exact ⟨_, .cons (.ascii hc) hrest⟩
    · exact ⟨_, .cons (.other hc hc) hrest⟩

/-- Only letters of ASCII are put in lower case. -/
theorem toLower_of_le {c : Char} (hc : 128 ≤ c.toNat) : c.toLower = c := by
  have hupper : ¬ (c.val ≥ 'A'.val ∧ c.val ≤ 'Z'.val) := fun h =>
    absurd (UInt32.le_iff_toNat_le.mp h.2) (by rw [Nat.not_le]; exact Nat.lt_of_lt_of_le (by decide) hc)
  rw [Char.toLower, dif_neg hupper]

/-- A character beyond ASCII is no letter of the word. -/
theorem ne_of_mem_titleWord {c d : Char} (hd : d ∈ titleWord) (hc : 128 ≤ c.toNat) : d ≠ c := by
  have hascii : ∀ d ∈ titleWord, d.toNat < 128 := by simp [titleWord]
  rintro rfl
  exact absurd (hascii d hd) (Nat.not_lt.mpr hc)

/-- The end of the word stands in front of a text in lower case exactly if it does with only the ASCII letters of
the text in lower case. -/
theorem IsLowered.isPrefix_iff (h : IsLowered text lowered) (hword : word <:+ titleWord) :
    word <+: lowered ↔ word <+: text.map Char.toLower := by
  induction h generalizing word with
  | nil => rfl
  | @cons c part rest lowered hpart _ ih =>
    cases word with
    | nil => simp
    | cons a word =>
      have hmem : a ∈ titleWord := hword.subset List.mem_cons_self
      have hrest := ih ((List.suffix_cons a word).trans hword)
      cases hpart with
      | ascii => simp [List.cons_prefix_cons, hrest]
      | kelvin =>
        have hk : a ≠ 'k' := fun h => absurd (h ▸ hmem) (by decide)
        have hc := ne_of_mem_titleWord hmem (c := '\u212a') (by decide)
        simp [List.cons_prefix_cons, hk, hc, toLower_of_le]
      | dotted =>
        -- behind the letter `i` the word goes on, but not with a dot
        have hc := ne_of_mem_titleWord hmem (c := '\u0130') (by decide)
        have hi : ¬ (a = 'i' ∧ word <+: '\u0307' :: lowered) := by
          rintro ⟨rfl, hdot⟩
          cases word with
          | nil => exact absurd hword (by decide)
          | cons b word =>
            have hb : b ∈ titleWord := hword.subset (List.mem_cons_of_mem _ List.mem_cons_self)
            exact ne_of_mem_titleWord hb (by decide) (List.cons_prefix_cons.mp hdot).1
        simp [List.cons_prefix_cons, hc, hi, toLower_of_le]
      | other hc hd =>
        simp [List.cons_prefix_cons, toLower_of_le hc, ne_of_mem_titleWord hmem hc, ne_of_mem_titleWord hmem hd]

/-- Of the lower case of a text only that of its ASCII letters decides whether the word stands in it. -/
theorem IsLowered.titleWord_isInfix_iff (h : IsLowered text lowered) :
    titleWord <:+: lowered ↔ titleWord <:+: text.map Char.toLower := by
  induction h with
  | nil => rfl
  | @cons c part rest lowered hpart hrest ih =>
    have hprefix := (IsLowered.cons hpart hrest).isPrefix_iff (List.suffix_refl titleWord)
    rw [List.map_cons, List.infix_cons_iff, ← ih, ← List.map_cons, ← hprefix]
    cases hpart with
    | dotted => simp [List.infix_cons_iff, titleWord]
    | _ => exact List.infix_cons_iff

/-- The test for a word within a text. -/
theorem hasInfix_iff : hasInfix word text = true ↔ word <:+: text := by
  induction text with
  | nil => simp [hasInfix]
  | cons c rest ih => rw [hasInfix, Bool.or_eq_true, List.isPrefixOf_iff_prefix, ih, List.infix_cons_iff]

/-- A subtype is that of a title exactly if its lower case has the word in it. -/
theorem isTitleSubkind_iff {subkind : String} (h : IsLowered subkind.toList lowered) :
    isTitleSubkind subkind = true ↔ titleWord <:+: lowered := by
  rw [isTitleSubkind, hasInfix_iff, h.titleWord_isInfix_iff]

/-! ### Headings -/

/-- The forms of headings. -/
inductive HeadingForm : List Char → Prop where
  /-- A number and a full stop, and then anything. -/
  | numbered {digits rest : List Char} (hdigits : digits ≠ []) (hdigit : ∀ c ∈ digits, isDigit c = true)
    (hrest : rest ≠ []) : HeadingForm (digits ++ '.' :: rest)
  /-- The number of a chapter or of a section in its signs, and then anything. -/
  | chapter {digits rest : List Char} {sign : Char} (hdigits : digits ≠ [])
    (hdigit : ∀ c ∈ digits, isDigit c = true) (hsign : sign = '章' ∨ sign = '节') (hrest : rest ≠ []) :
    HeadingForm ('第' :: (digits ++ sign :: rest))
  /-- Numerals and a comma, and then a character that is not blank. -/
  | enumerated {numerals rest : List Char} {c : Char} (hnumerals : numerals ≠ [])
    (hnumeral : ∀ numeral ∈ numerals, numeral ∈ "一二三四五六七八九十".toList) (hc : isBlank c = false) :
    HeadingForm (numerals ++ '、' :: c :: rest)
  /-- A word and a colon, with or without blanks between them, and then anything. -/
  | labelled {word blanks rest : List Char} (hword : word ≠ []) (hchar : ∀ c ∈ word, isWordChar c = true)
    (hblank : ∀ c ∈ blanks, isBlank c = true) (hrest : rest ≠ []) : HeadingForm (word ++ (blanks ++ ':' :: rest))
  /-- A number sign, and then anything. -/
  | signed {rest : List Char} (hrest : rest ≠ []) : HeadingForm ('#' :: rest)

/-- There is ink in whatever stands at the end of a tight text. -/
theorem IsTight.ink_ne_nil_of_suffix (h : IsTight text) (hrest : rest <:+ text) (hne : rest ≠ []) : ink rest ≠ [] := by
  intro hink
  obtain ⟨front, rfl⟩ := hrest
  have hlast := List.getLast?_eq_some_getLast hne
  have hblank := ink_eq_nil_iff_forall.mp hink _ (List.getLast_mem hne)
  rw [h.last _ (by rwa [List.getLast?_append_of_ne_nil _ hne])] at hblank
  cases hblank

/-- A text with ink in it is not empty. -/
theorem ne_nil_of_ink_ne_nil (h : ink rest ≠ []) : rest ≠ [] := by
  rintro rfl
  exact h ink_nil

namespace Pattern

/-- Blanks and then ink are at the front of a text exactly if there is any ink in it. -/
theorem isAtFront_ink_iff : isAtFront (.many isBlank :: run isInk) text = true ↔ ink text ≠ [] := by
  rw [isAtFront_many_iff]
  simp only [isAtFront_run_iff, isInk, Bool.not_eq_true']
  constructor
  · rintro ⟨blanks, _, rfl, -, c, rest, rfl, hc⟩
    simp [ink, hc]
  · intro h
    refine ⟨text.takeWhile isBlank, text.dropWhile isBlank, List.takeWhile_append_dropWhile.symm,
      fun c hc => List.mem_takeWhile_imp hc, ?_⟩
    obtain ⟨c, rest, hrest⟩ := List.exists_cons_of_ne_nil (l := text.dropWhile isBlank) fun hnil =>
      h (ink_eq_nil_iff.mpr (dropWhile_isBlank_eq_nil_iff.mp hnil))
    exact ⟨c, rest, hrest, head?_dropWhile_eq_false isBlank text c (by simp [hrest])⟩

/-- A run, a sign, blanks and then ink. -/
theorem isAtFront_signed_iff {p : Char → Bool} {sign : Char} :
    isAtFront (run p ++ .char sign :: .many isBlank :: run isInk) text = true ↔
      ∃ front rest, front ≠ [] ∧ (∀ c ∈ front, p c = true) ∧ text = front ++ sign :: rest ∧ ink rest ≠ [] := by
  rw [isAtFront_run_append_iff]
  simp only [isAtFront_char_iff, isAtFront_ink_iff]
  constructor
  · rintro ⟨front, _, hne, hfront, rfl, rest, rfl, hrest⟩
    exact ⟨front, rest, hne, hfront, rfl, hrest⟩
  · rintro ⟨front, rest, hne, hfront, rfl, hrest⟩
    exact ⟨front, _, hne, hfront, rfl, rest, rfl, hrest⟩

end Pattern

open Pattern in
/-- The patterns, each as a row of runs and signs. -/
theorem headingPatterns_eq : headingPatterns =
    [run isDigit ++ .char '.' :: .many isBlank :: run isInk,
      .char '第' :: (run isDigit ++ .char '章' :: .many isBlank :: run isInk),
      .char '第' :: (run isDigit ++ .char '节' :: .many isBlank :: run isInk),
      run isNumeral ++ .char '、' :: run isInk,
      run isWordChar ++ .many isBlank :: .char ':' :: .many isBlank :: run isInk,
      run (fun c => c == '#') ++ .many isBlank :: run isInk] := rfl

open Pattern in
/-- Some pattern is at the front of a tight text exactly if the text has one of the forms. -/
theorem any_headingPatterns_iff (h : IsTight text) :
    headingPatterns.any (fun pattern => pattern.isAtFront text) = true ↔ HeadingForm text := by
  simp only [headingPatterns_eq, List.any_cons, List.any_nil, Bool.or_false, Bool.or_eq_true]
  constructor
  · rintro (hfront | hfront | hfront | hfront | hfront | hfront)
    · obtain ⟨digits, rest, hne, hdigit, rfl, hink⟩ := isAtFront_signed_iff.mp hfront
      exact .numbered hne hdigit (ne_nil_of_ink_ne_nil hink)
    · obtain ⟨_, rfl, hfront⟩ := isAtFront_char_iff.mp hfront
      obtain ⟨digits, rest, hne, hdigit, rfl, hink⟩ := isAtFront_signed_iff.mp hfront
      exact .chapter hne hdigit (.inl rfl) (ne_nil_of_ink_ne_nil hink)
    · obtain ⟨_, rfl, hfront⟩ := isAtFront_char_iff.mp hfront
      obtain ⟨digits, rest, hne, hdigit, rfl, hink⟩ := isAtFront_signed_iff.mp hfront
      exact .chapter hne hdigit (.inr rfl) (ne_nil_of_ink_ne_nil hink)
    · obtain ⟨numerals, _, hne, hnumeral, rfl, hbehind⟩ := isAtFront_run_append_iff.mp hfront
      obtain ⟨_, rfl, hbehind⟩ := isAtFront_char_iff.mp hbehind
      obtain ⟨c, rest, rfl, hc⟩ := isAtFront_run_iff.mp hbehind
      exact .enumerated hne (by simpa [isNumeral] using hnumeral) (by simpa [isInk] using hc)
    · obtain ⟨word, _, hne, hchar, rfl, hbehind⟩ := isAtFront_run_append_iff.mp hfront
      obtain ⟨blanks, _, rfl, hblank, hbehind⟩ := isAtFront_many_iff.mp hbehind
      obtain ⟨rest, rfl, hbehind⟩ := isAtFront_char_iff.mp hbehind
      exact .labelled hne hchar hblank (ne_nil_of_ink_ne_nil (isAtFront_ink_iff.mp hbehind))
    · obtain ⟨signs, rest, hne, hsign, rfl, hbehind⟩ := isAtFront_run_append_iff.mp hfront
      obtain ⟨c, signs, rfl⟩ := List.exists_cons_of_ne_nil hne
      obtain rfl : c = '#' := by simpa using hsign c List.mem_cons_self
      refine .signed fun hnil => ?_
      exact ne_nil_of_ink_ne_nil (isAtFront_ink_iff.mp hbehind) (List.append_eq_nil_iff.mp hnil).2
  · intro hform
    cases hform with
    | @numbered digits rest hne hdigit hrest =>
      have hink := h.ink_ne_nil_of_suffix ((List.suffix_cons _ _).trans (List.suffix_append _ _)) hrest
      exact .inl (isAtFront_signed_iff.mpr ⟨digits, rest, hne, hdigit, rfl, hink⟩)
    | @chapter digits rest sign hne hdigit hsign hrest =>
      have hink := h.ink_ne_nil_of_suffix
        (((List.suffix_cons _ _).trans (List.suffix_append _ _)).trans (List.suffix_cons _ _)) hrest
      have hfront : isAtFront (run isDigit ++ .char sign :: .many isBlank :: run isInk)
          (digits ++ sign :: rest) = true :=
        isAtFront_signed_iff.mpr ⟨digits, rest, hne, hdigit, rfl, hink⟩
      rcases hsign with rfl | rfl
      · exact .inr (.inl (isAtFront_char_iff.mpr ⟨_, rfl, hfront⟩))
      · exact .inr (.inr (.inl (isAtFront_char_iff.mpr ⟨_, rfl, hfront⟩)))
    | @enumerated numerals rest c hne hnumeral hc =>
      have hbehind : isAtFront (.char '、' :: run isInk) ('、' :: c :: rest) = true :=
        isAtFront_char_iff.mpr ⟨_, rfl, isAtFront_run_iff.mpr ⟨c, rest, rfl, by simp [isInk, hc]⟩⟩
      exact .inr (.inr (.inr (.inl (isAtFront_run_append_iff.mpr
        ⟨numerals, _, hne, by simpa [isNumeral] using hnumeral, rfl, hbehind⟩))))
    | @labelled word blanks rest hne hchar hblank hrest =>
      have hsuffix : rest <:+ word ++ (blanks ++ ':' :: rest) :=
        ((List.suffix_cons _ _).trans (List.suffix_append _ _)).trans (List.suffix_append _ _)
      have hbehind : isAtFront (.many isBlank :: .char ':' :: .many isBlank :: run isInk)
          (blanks ++ ':' :: rest) = true :=
        isAtFront_many_iff.mpr ⟨blanks, _, rfl, hblank, isAtFront_char_iff.mpr
          ⟨rest, rfl, isAtFront_ink_iff.mpr (h.ink_ne_nil_of_suffix hsuffix hrest)⟩⟩
      exact .inr (.inr (.inr (.inr (.inl (isAtFront_run_append_iff.mpr
        ⟨word, _, hne, hchar, rfl, hbehind⟩)))))
    | @signed rest hrest =>
      -- further signs may stand in the rest, so one is enough for the run
      have hink := h.ink_ne_nil_of_suffix (List.suffix_cons _ _) hrest
      exact .inr (.inr (.inr (.inr (.inr (isAtFront_run_append_iff.mpr
        ⟨['#'], rest, List.cons_ne_nil _ _, by simp, rfl, isAtFront_ink_iff.mpr hink⟩)))))

/-- A tight text opens like a heading exactly if it is short and has one of the forms. -/
theorem isHeadingLike_iff (h : IsTight text) :
    isHeadingLike text = true ↔ text.length < 100 ∧ HeadingForm text := by
  have hne : (!text.isEmpty) = true := by simpa using h.ne_nil
  rw [isHeadingLike, hne, Bool.true_and, Bool.and_eq_true, any_headingPatterns_iff h, decide_eq_true_iff,
    headingLimit]

/-! ### Titles -/

/-- The title of an element is the text of its candidate, or nothing. -/
theorem title_of_candidate? {index : Nat} {element : Element} {chunk : Chunk}
    (h : element.candidate? index = some chunk) : chunk.title = chunk.content ∨ chunk.title = "" := by
  rw [Element.candidate?] at h
  split at h
  · cases h
  · cases h
    exact (title_eq _ _ _).imp (congrArg String.ofList) (congrArg String.ofList)

/-- **Which texts are titles.** A title is the trimmed text or nothing. A text that is not blank is its own title
exactly if its type is that of a title, or the lower case of its subtype has the word for one in it, or it is
shorter than a hundred characters and has the form of a heading. So the title of an element's candidate is its text
or nothing. -/
theorem title_eq_iff (kind subkind : String) (text : List Char) :
    (title kind subkind text = trim text ∨ title kind subkind text = []) ∧
    (∃ lowered, IsLowered subkind.toList lowered) ∧
    (∀ lowered, IsLowered subkind.toList lowered → trim text ≠ [] → (title kind subkind text = trim text ↔
      kind = "title" ∨ kind = "para_title" ∨ "title".toList <:+: lowered ∨
        (trim text).length < 100 ∧ HeadingForm (trim text))) ∧
    ∀ (index : Nat) (element : Element) (chunk : Chunk), element.candidate? index = some chunk →
      chunk.title = chunk.content ∨ chunk.title = "" := by
  refine ⟨title_eq kind subkind text, exists_isLowered _, fun lowered hlowered hne => ?_,
    fun _ _ _ => title_of_candidate?⟩
  have htitle : title kind subkind text = trim text ↔
      (titleKinds.contains kind || isTitleSubkind subkind || isHeadingLike (trim text)) = true := by
    rw [title]
    split
    · rename_i htrue
      exact iff_of_true rfl htrue
    · rename_i hfalse
      exact iff_of_false (fun h => hne h.symm) hfalse
  have hkind : titleKinds.contains kind = true ↔ kind = "title" ∨ kind = "para_title" := by
    simp [titleKinds]
  rw [htitle, Bool.or_eq_true, Bool.or_eq_true, hkind, isTitleSubkind_iff hlowered,
    isHeadingLike_iff (isTight_trim hne), or_assoc, or_assoc]
  rfl

/-- A text of two number signs, of which the run of signs has to give one back, below a subtype whose lower case is
broken by a dot; and a text that is a title by its subtype alone. -/
theorem title_eq_iff_two_signs :
    (IsLowered "T\u0130TLE".toList "ti\u0307tle".toList ∧ trim " ##\n".toList = "##".toList) ∧
    title "text" "T\u0130TLE" " ##\n".toList = "##".toList ∧
    (IsLowered "Sub_TITLE".toList "sub_title".toList ∧ trim "so be it ".toList = "so be it".toList) ∧
    title "text" "Sub_TITLE" "so be it ".toList = "so be it".toList := by
  have hdotted : IsLowered "T\u0130TLE".toList "ti\u0307tle".toList :=
    .cons (.ascii (by decide)) (.cons .dotted (.cons (.ascii (by decide)) (.cons (.ascii (by decide))
      (.cons (.ascii (by decide)) .nil))))
  have hsigns : trim " ##\n".toList = "##".toList := by decide
  have hplain : IsLowered "Sub_TITLE".toList "sub_title".toList :=
    .cons (.ascii (by decide)) (.cons (.ascii (by decide)) (.cons (.ascii (by decide)) (.cons (.ascii (by decide))
      (.cons (.ascii (by decide)) (.cons (.ascii (by decide)) (.cons (.ascii (by decide))
        (.cons (.ascii (by decide)) (.cons (.ascii (by decide)) .nil))))))))
  have hwords : trim "so be it ".toList = "so be it".toList := by decide
  obtain ⟨-, -, hfirst, -⟩ := title_eq_iff "text" "T\u0130TLE" " ##\n".toList
  obtain ⟨-, -, hsecond, -⟩ := title_eq_iff "text" "Sub_TITLE" "so be it ".toList
  rw [hsigns] at hfirst
  rw [hwords] at hsecond
  have hform : HeadingForm "##".toList := .signed (List.cons_ne_nil '#' [])
  have hinfix : "title".toList <:+: "sub_title".toList := ⟨"sub_".toList, [], by decide⟩
  refine ⟨⟨hdotted, hsigns⟩, ?_, ⟨hplain, hwords⟩, ?_⟩
  · exact (hfirst _ hdotted (by decide)).mpr (.inr (.inr (.inr ⟨by decide, hform⟩)))
  · exact (hsecond _ hplain (by decide)).mpr (.inr (.inr (.inl hinfix)))

end TextChunking
