import TextChunking.Proofs.Split.Filling
import TextChunking.Proofs.Text.Cutting
import TextChunking.Proofs.Text.Joining
import TextChunking.Proofs.Text.Lines
import TextChunking.Proofs.Text.MaximalRuns
import TextChunking.Split.Packing
/-!
# Paragraphs and sentences as maximal runs

Cutting a text at its blank lines follows the characters of the text, and so does cutting at the ends of
sentences. **Theorem** (`cut_eq_runs`): the paragraphs that the cut leaves are the maximal runs of lines
that are not blank, and the sentences are the maximal runs of characters that are no terminators.

A blank line is matched from the line feed in front of it, and a match runs on over all blank lines that
follow, so the cut is followed from one line that is not blank to the next (`packable_cutFrom_rows`). The
line in front of the match is still open then, and what becomes of it depends on nothing but the lines
with ink that follow it directly.
-/

namespace TextChunking

/-- A line with something else in it than blank characters. -/
def isInked (line : List Char) : Bool := !isBlankText line

/-- The maximal runs of lines that are not blank. -/
def lineRuns (text : List Char) : List (List (List Char)) := maximalRuns isInked (text.splitOn '\n')

/-- The maximal runs of characters that end no sentence. -/
def sentenceRuns (text : List Char) : List (List Char) := maximalRuns (fun c => !isTerminator c) text

/-- Lines with line feeds between them. -/
def joinLines (rows : List (List Char)) : List Char := ['\n'].intercalate rows

/-- The maximal runs of lines that are not blank, each of them joined and trimmed. -/
def joinRuns (rows : List (List Char)) : List (List Char) :=
  (maximalRuns isInked rows).map fun run => trim (joinLines run)

variable {row text front : List Char} {rows units : List (List Char)}

/-! ### Units as they are packed -/

/-- What is packed of two rows of units is what is packed of either. -/
theorem packable_append (units others : List (List Char)) :
    packable (units ++ others) = packable units ++ packable others := by
  rw [packable, List.map_append, List.filter_append, packable, packable]

/-- What is packed of the first unit comes in front of what is packed of the others. -/
theorem packable_cons (unit : List Char) (units : List (List Char)) :
    packable (unit :: units) = packable [unit] ++ packable units :=
  packable_append [unit] units

/-- A unit that is not blank is packed trimmed. -/
theorem packable_singleton_of_ne_nil (h : trim text ≠ []) : packable [text] = [trim text] := by
  simp [packable, h]

/-- A unit without ink is not packed. -/
theorem packable_singleton_of_ink_eq_nil (h : ink text = []) : packable [text] = [] := by
  simp [packable, trim_eq_nil_iff_ink.mpr h]

/-- An empty unit is not packed. -/
theorem packable_filter (units : List (List Char)) :
    packable (units.filter fun unit => !unit.isEmpty) = packable units := by
  induction units with
  | nil => rfl
  | cons unit units ih =>
    cases unit with
    | nil => rwa [packable_cons [], packable_singleton_of_ink_eq_nil rfl, List.nil_append]
    | cons c unit => rw [List.filter_cons_of_pos rfl, packable_cons, ih, ← packable_cons]

/-- Whatever is packed is one of the units, trimmed. -/
theorem exists_trim_of_mem_packable {units : List (List Char)} (h : unit ∈ packable units) :
    ∃ text ∈ units, unit = trim text := by
  simp only [packable, List.mem_filter, List.mem_map] at h
  obtain ⟨⟨text, htext, rfl⟩, -⟩ := h
  exact ⟨text, htext, rfl⟩

/-- Only what is left of a unit when it is trimmed is packed. -/
theorem packable_singleton_congr {other : List Char} (h : trim text = trim other) :
    packable [text] = packable [other] := by
  rw [packable, packable, List.map_singleton, List.map_singleton, h]

/-- Tight units are packed as they are. -/
theorem packable_of_forall_isTight (h : ∀ unit ∈ units, IsTight unit) : packable units = units := by
  have htrim : units.map trim = units := by
    conv_rhs => rw [← List.map_id units]
    exact List.map_congr_left fun unit hunit => (h unit hunit).trim_eq
  rw [packable, htrim, List.filter_eq_self]
  intro unit hunit
  simp [(h unit hunit).ne_nil]

/-- What is packed is trimmed and not blank already, so that all of it is packed again. -/
theorem packable_packable (units : List (List Char)) : packable (packable units) = packable units :=
  packable_of_forall_isTight fun _ => isTight_of_mem_packable

/-- Packing looks at nothing but what is packed. -/
theorem pack_packable (maxSize : Nat) (separator : List Char)
    (oversized : List Char → List (List Char)) (units : List (List Char)) :
    pack maxSize separator oversized (packable units) = pack maxSize separator oversized units := by
  rw [pack, packable_packable, pack]

/-! ### Lines -/

/-- There is no line feed within the pieces between line feeds. -/
theorem lf_notMem_of_mem_splitOn (h : row ∈ text.splitOn '\n') : '\n' ∉ row := by
  intro hmem
  rw [List.splitOn_eq_splitOnP] at h
  have hfalse := eq_false_of_mem_splitOnP h '\n' hmem
  simp at hfalse

/-- A row without ink is one that only has blank characters. -/
theorem isInked_eq_false_iff : isInked row = false ↔ ink row = [] := by
  rw [isInked, Bool.not_eq_false', ← ink_eq_nil_iff]

/-- A single row is joined to nothing. -/
theorem joinLines_singleton (row : List Char) : joinLines [row] = row := List.intercalate_singleton

/-- Between the first row and the others there is a line feed. -/
theorem joinLines_cons (row : List Char) (hne : rows ≠ []) :
    joinLines (row :: rows) = row ++ '\n' :: joinLines rows := by
  rw [joinLines, List.intercalate_cons_of_ne_nil hne, List.append_assoc, List.singleton_append,
    joinLines]

/-- What stands in front of the first line stands in front of all of them. -/
theorem joinLines_append_cons (front row : List Char) (rows : List (List Char)) :
    joinLines ((front ++ row) :: rows) = front ++ joinLines (row :: rows) := by
  cases rows with
  | nil => rw [joinLines_singleton, joinLines_singleton]
  | cons next rows =>
    have hne : next :: rows ≠ [] := List.cons_ne_nil next rows
    rw [joinLines_cons _ hne, joinLines_cons _ hne, List.append_assoc]

/-- Between two runs of rows there is a line feed. -/
theorem joinLines_append {others : List (List Char)} (hne : rows ≠ []) (hothers : others ≠ []) :
    joinLines (rows ++ others) = joinLines rows ++ '\n' :: joinLines others := by
  rw [joinLines, intercalate_append _ hne hothers, List.append_assoc, List.singleton_append, joinLines,
    joinLines]

/-- Blank lines are blank when they are joined. -/
theorem ink_joinLines_of_blank (h : ∀ row ∈ rows, isInked row = false) : ink (joinLines rows) = [] := by
  induction rows with
  | nil => rfl
  | cons row rows ih =>
    have hrow : ink row = [] := isInked_eq_false_iff.mp (h row List.mem_cons_self)
    have hrest := ih fun other hother => h other (List.mem_cons_of_mem _ hother)
    by_cases hrows : rows = []
    · rwa [hrows, joinLines_singleton]
    · rw [joinLines_cons row hrows, ink_append, hrow, List.nil_append]
      exact hrest

/-- The blank characters at the front of lines end within the first line if it has ink. -/
theorem lf_notMem_takeWhile_joinLines (hrow : '\n' ∉ row) (h : isInked row = true ∨ rows = []) :
    '\n' ∉ (joinLines (row :: rows)).takeWhile isBlank := by
  have hfront : '\n' ∉ row.takeWhile isBlank := fun hmem =>
    hrow ((List.takeWhile_sublist _).subset hmem)
  rcases h with hinked | rfl
  · have hink : ink row ≠ [] := by
      rw [Ne, ← isInked_eq_false_iff, hinked]
      exact Bool.noConfusion
    have happend : joinLines (row :: rows) = row ++ joinLines ([] :: rows) := by
      rw [← joinLines_append_cons, List.append_nil]
    rwa [happend, takeWhile_isBlank_append hink]
  · rwa [joinLines_singleton]

/-- Lines begin with blank ones, up to one that has ink or is the last. -/
theorem exists_blank_rows (row : List Char) (rows : List (List Char)) :
    ∃ blanks next later, row :: rows = blanks ++ next :: later ∧
      (∀ blank ∈ blanks, isInked blank = false) ∧ (isInked next = true ∨ later = []) := by
  induction rows generalizing row with
  | nil => exact ⟨[], row, [], rfl, by simp, .inr rfl⟩
  | cons second rows ih =>
    cases hrow : isInked row with
    | true => exact ⟨[], row, second :: rows, rfl, by simp, .inl hrow⟩
    | false =>
      obtain ⟨blanks, next, later, heq, hblanks, hnext⟩ := ih second
      refine ⟨row :: blanks, next, later, by rw [heq, List.cons_append], ?_, hnext⟩
      intro blank hblank
      rcases List.mem_cons.mp hblank with rfl | hblank
      · exact hrow
      · exact hblanks blank hblank

/-! ### Runs of lines -/

/-- Blank lines are in no run. -/
theorem joinRuns_append_of_blank {blanks : List (List Char)}
    (h : ∀ blank ∈ blanks, isInked blank = false) (rows : List (List Char)) :
    joinRuns (blanks ++ rows) = joinRuns rows := by
  rw [joinRuns, maximalRuns_append_of_neg h, joinRuns]

/-- The lines with ink at the front are the first run, if there are any. -/
theorem joinRuns_eq (rows : List (List Char)) :
    joinRuns rows =
      packable [joinLines (rows.takeWhile isInked)] ++ joinRuns (rows.dropWhile isInked) := by
  cases rows with
  | nil => rfl
  | cons row rows =>
    cases hrow : isInked row with
    | false =>
      rw [List.takeWhile_cons_of_neg (by simp [hrow]), List.dropWhile_cons_of_neg (by simp [hrow])]
      rfl
    | true =>
      have happend : joinLines (row :: rows.takeWhile isInked) =
          row ++ joinLines ([] :: rows.takeWhile isInked) := by
        rw [← joinLines_append_cons, List.append_nil]
      have hink : trim (joinLines (row :: rows.takeWhile isInked)) ≠ [] := by
        rw [Ne, trim_eq_nil_iff_ink, happend, ink_append, List.append_eq_nil_iff,
          ← isInked_eq_false_iff, hrow]
        exact fun h => Bool.noConfusion h.1
      rw [List.takeWhile_cons_of_pos hrow, List.dropWhile_cons_of_pos hrow,
        packable_singleton_of_ne_nil hink, joinRuns, maximalRuns_cons_of_pos hrow, List.map_cons]
      rfl

/-- A blank line in front of others is trimmed away. -/
theorem trim_joinLines_cons_of_blank (hrow : isInked row = false) (rows : List (List Char)) :
    trim (joinLines (row :: rows)) = trim (joinLines rows) := by
  have hblank : ink row = [] := isInked_eq_false_iff.mp hrow
  by_cases hrows : rows = []
  · rw [hrows, joinLines_singleton, trim_eq_nil_iff_ink.mpr hblank]
    rfl
  · rw [joinLines_cons row hrows, List.append_cons]
    refine trim_append_of_ink_eq_nil_left ?_ _
    rw [ink_append, hblank]
    rfl

/-- The first line goes with the lines with ink behind it, whether it has ink itself or not. -/
theorem joinRuns_cons (row : List Char) (rows : List (List Char)) :
    joinRuns (row :: rows) =
      packable [joinLines (row :: rows.takeWhile isInked)] ++ joinRuns (rows.dropWhile isInked) := by
  cases hrow : isInked row with
  | true =>
    rw [joinRuns_eq, List.takeWhile_cons_of_pos hrow, List.dropWhile_cons_of_pos hrow]
  | false =>
    rw [packable_singleton_congr (trim_joinLines_cons_of_blank hrow _), ← joinRuns_eq, joinRuns,
      maximalRuns_cons_of_neg hrow, joinRuns]

/-- A line with ink goes on what stands in front of it. -/
theorem joinRuns_cons_of_inked {next : List Char} (hnext : isInked next = true) (row : List Char)
    (rows : List (List Char)) :
    joinRuns (row :: next :: rows) = joinRuns ((row ++ '\n' :: next) :: rows) := by
  have hjoin : joinLines (row :: next :: rows.takeWhile isInked) =
      joinLines ((row ++ '\n' :: next) :: rows.takeWhile isInked) := by
    rw [joinLines_cons row (List.cons_ne_nil _ _), List.append_cons row '\n' next,
      joinLines_append_cons, ← List.append_cons]
  rw [joinRuns_cons, List.takeWhile_cons_of_pos hnext, List.dropWhile_cons_of_pos hnext, hjoin,
    ← joinRuns_cons]

/-- Whether the last line has ink or is blank, it can go on the line in front of it. -/
theorem joinRuns_pair (row next : List Char) : joinRuns [row, next] = joinRuns [row ++ '\n' :: next] := by
  cases hnext : isInked next with
  | true => exact joinRuns_cons_of_inked hnext row []
  | false =>
    have htrim : trim (row ++ '\n' :: next) = trim row := by
      refine trim_append_of_ink_eq_nil row ?_
      rw [← List.singleton_append, ink_append, isInked_eq_false_iff.mp hnext]
      rfl
    have hblank : ¬ isInked next = true := by simp [hnext]
    rw [joinRuns_cons, joinRuns_cons, List.takeWhile_cons_of_neg hblank,
      List.dropWhile_cons_of_neg hblank, List.takeWhile_nil, List.dropWhile_nil, joinLines_singleton,
      joinLines_singleton, packable_singleton_congr htrim, joinRuns, maximalRuns_cons_of_neg hnext]
    rfl

/-- Blank lines end what stands in front of them. -/
theorem joinRuns_cons_of_blank {blanks : List (List Char)} (hne : blanks ≠ [])
    (h : ∀ blank ∈ blanks, isInked blank = false) (row : List Char) (rows : List (List Char)) :
    joinRuns (row :: (blanks ++ rows)) = packable [row] ++ joinRuns rows := by
  obtain ⟨blank, blanks, rfl⟩ := List.exists_cons_of_ne_nil hne
  have hblank : ¬ isInked blank = true := by simp [h blank List.mem_cons_self]
  rw [joinRuns_cons, List.cons_append, List.takeWhile_cons_of_neg hblank,
    List.dropWhile_cons_of_neg hblank, joinLines_singleton, ← List.cons_append,
    joinRuns_append_of_blank h]

/-! ### Cutting at blank lines -/

/-- A line feed is blank. -/
theorem isBlank_of_beq_lf (c : Char) (h : (c == '\n') = true) : isBlank c = true := by
  rw [beq_iff_eq.mp h]
  decide

/-- A line feed does not begin a blank line if there is ink in front of the next one. -/
theorem match?_blankLine_of_notMem (h : '\n' ∉ text.takeWhile isBlank) :
    blankLine.match? ('\n' :: text) = none := by
  have hnone : Pattern.match? [.many isBlank, .char '\n'] text = none :=
    Pattern.match?_many_one_eq_none isBlank_of_beq_lf fun _ => beq_lf_eq_false h
  rw [blankLine, Separator.match?, if_pos (beq_self_eq_true _), hnone]

/-- A line feed begins a blank line if there is none, up to the last line feed in front of the ink. -/
theorem match?_blankLine_of_append (hfront : ink front = []) (h : '\n' ∉ text.takeWhile isBlank) :
    blankLine.match? ('\n' :: (front ++ '\n' :: text)) = some text := by
  have hsome : Pattern.match? [.many isBlank, .char '\n'] (front ++ '\n' :: text) = some text :=
    Pattern.match?_many_one_of_append isBlank_of_beq_lf (ink_eq_nil_iff_forall.mp hfront)
      (beq_self_eq_true _) fun _ => beq_lf_eq_false h
  rw [blankLine, Separator.match?, if_pos (beq_self_eq_true _), hsome]

/-- A cut in progress: the open segment goes with the line that is read. -/
theorem packable_cutFrom_rows (segment : List Char) (cuts : List (List Char)) (row : List Char)
    (rows : List (List Char)) (h : ∀ line ∈ row :: rows, '\n' ∉ line) :
    packable (blankLine.cutFrom segment cuts (joinLines (row :: rows))) =
      packable cuts.reverse ++ joinRuns ((segment.reverse ++ row) :: rows) := by
  have hrow : ∀ c ∈ row, blankLine.first c = false := fun _ => beq_lf_eq_false (h row List.mem_cons_self)
  match rows with
  | [] =>
    have htext : joinLines [row] = row ++ [] := by rw [joinLines_singleton, List.append_nil]
    rw [htext, Separator.cutFrom_append hrow, Separator.cutFrom, List.reverse_cons, packable_append,
      joinRuns_cons, List.takeWhile_nil, joinLines_singleton, List.reverse_append, List.reverse_reverse]
    simp [joinRuns]
  | next :: rows =>
    rw [joinLines_cons row (List.cons_ne_nil _ _), Separator.cutFrom_append hrow]
    have hlines : ∀ line ∈ next :: rows, '\n' ∉ line := fun line hline =>
      h line (List.mem_cons_of_mem _ hline)
    by_cases hopen : isInked next = true ∨ rows = []
    · -- the next line goes on the open segment
      have hstop := lf_notMem_takeWhile_joinLines (hlines next List.mem_cons_self) hopen
      rw [Separator.cutFrom_of_none (match?_blankLine_of_notMem hstop),
        packable_cutFrom_rows _ _ _ _ hlines]
      have hsegment : ('\n' :: (row.reverse ++ segment)).reverse ++ next =
          segment.reverse ++ row ++ '\n' :: next := by simp
      rw [hsegment]
      rcases hopen with hnext | rfl
      · rw [joinRuns_cons_of_inked hnext]
      · rw [joinRuns_pair]
    · -- the line is blank and not the last, so that the cut is behind all blank lines
      rw [not_or, Bool.not_eq_true] at hopen
      obtain ⟨hnext, hrows⟩ := hopen
      obtain ⟨second, rest, hcons⟩ := List.exists_cons_of_ne_nil hrows
      obtain ⟨blanks, last, later, hsplit, hblanks, hlast⟩ := exists_blank_rows second rest
      rw [← hcons] at hsplit
      have hskipped : ∀ blank ∈ next :: blanks, isInked blank = false := by
        intro blank hblank
        rcases List.mem_cons.mp hblank with rfl | hblank
        · exact hnext
        · exact hblanks blank hblank
      have hrest : ∀ line ∈ last :: later, '\n' ∉ line := by
        intro line hline
        refine hlines line (List.mem_cons_of_mem _ ?_)
        rw [hsplit]
        exact List.mem_append_right _ hline
      have hshorter : later.length < rows.length := by
        rw [hsplit, List.length_append, List.length_cons]
        omega
      have hstop := lf_notMem_takeWhile_joinLines (hrest last List.mem_cons_self) hlast
      rw [hsplit, ← List.cons_append, joinLines_append (List.cons_ne_nil _ _) (List.cons_ne_nil _ _),
        Separator.cutFrom_of_match (match?_blankLine_of_append (ink_joinLines_of_blank hskipped) hstop),
        packable_cutFrom_rows _ _ _ _ hrest, joinRuns_cons_of_blank (List.cons_ne_nil _ _) hskipped,
        List.reverse_cons, packable_append, List.append_assoc, List.reverse_append,
        List.reverse_reverse]
      rfl
termination_by rows.length

/-- The paragraphs of a text are its runs of lines that are not blank. -/
theorem packable_cut_blankLine (text : List Char) :
    packable (blankLine.cut text) = joinRuns (text.splitOn '\n') := by
  obtain ⟨row, rows, hrows⟩ := List.exists_cons_of_ne_nil (List.splitOn_ne_nil '\n' text)
  have htext : text = joinLines (row :: rows) := by
    rw [← hrows, joinLines, List.intercalate_splitOn]
  have hclear : ∀ line ∈ row :: rows, '\n' ∉ line := fun line hline =>
    lf_notMem_of_mem_splitOn (hrows ▸ hline)
  rw [hrows, Separator.cut, htext, packable_cutFrom_rows [] [] row rows hclear]
  rfl

/-! ### Cutting at the ends of sentences -/

/-- A terminator is matched with all blank characters behind it. -/
theorem match?_sentenceEnd {c : Char} (h : isTerminator c = true) (text : List Char) :
    sentenceEnd.match? (c :: text) = some (text.dropWhile isBlank) := by
  rw [sentenceEnd, Separator.match?, if_pos h, Pattern.match?_many]

/-- Nothing else ends a sentence. -/
theorem match?_sentenceEnd_eq_none {c : Char} (h : isTerminator c = false) (text : List Char) :
    sentenceEnd.match? (c :: text) = none := by
  simp [sentenceEnd, Separator.match?, h]

/-- No blank character ends a sentence. -/
theorem isTerminator_eq_false_of_isBlank {c : Char} (h : isBlank c = true) : isTerminator c = false := by
  rw [Bool.eq_false_iff]
  intro hc
  have hmem : c = '。' ∨ c = '！' ∨ c = '？' ∨ c = '.' ∨ c = '!' ∨ c = '?' := by
    simpa [isTerminator] using hc
  rcases hmem with rfl | rfl | rfl | rfl | rfl | rfl <;> exact absurd h (by decide)

/-- Blank characters in front of a text are trimmed away from its first sentence. -/
theorem packable_splitOnP_dropWhile (text : List Char) :
    packable ((text.dropWhile isBlank).splitOnP isTerminator) = packable (text.splitOnP isTerminator) := by
  induction text with
  | nil => rfl
  | cons c text ih =>
    cases hc : isBlank c with
    | false => rw [List.dropWhile_cons_of_neg (by simp [hc])]
    | true =>
      obtain ⟨first, rest, hparts⟩ :=
        List.exists_cons_of_ne_nil (List.splitOnP_ne_nil isTerminator text)
      have hfront : ink [c] = [] := by simp [ink, hc]
      have htrim : trim (c :: first) = trim first := trim_append_of_ink_eq_nil_left hfront first
      rw [List.dropWhile_cons_of_pos hc, ih, List.splitOnP_cons_eq_if_modifyHead,
        isTerminator_eq_false_of_isBlank hc, if_neg Bool.false_ne_true, hparts, List.modifyHead_cons,
        packable_cons, packable_cons (c :: first), packable_singleton_congr htrim]

/-- Nothing is put in front of the first unit. -/
theorem modifyHead_nil_append (units : List (List Char)) :
    units.modifyHead ([].reverse ++ ·) = units := by
  cases units <;> rfl

/-- A cut in progress: the open segment goes on up to the next terminator. -/
theorem packable_cutFrom_sentenceEnd (segment : List Char) (cuts : List (List Char))
    (text : List Char) :
    packable (sentenceEnd.cutFrom segment cuts text) =
      packable cuts.reverse ++
        packable ((text.splitOnP isTerminator).modifyHead (segment.reverse ++ ·)) := by
  induction segment, cuts, text using Separator.cutFrom_induction sentenceEnd with
  | finish segment cuts =>
    rw [Separator.cutFrom, List.reverse_cons, packable_append, List.splitOnP_nil,
      List.modifyHead_cons, List.append_nil]
  | separate segment cuts c rest left hmatch ih =>
    cases hc : isTerminator c with
    | false =>
      rw [match?_sentenceEnd_eq_none hc] at hmatch
      exact absurd hmatch (Option.some_ne_none left).symm
    | true =>
      rw [match?_sentenceEnd hc, Option.some.injEq] at hmatch
      subst hmatch
      rw [Separator.cutFrom_of_match (match?_sentenceEnd hc rest), ih, modifyHead_nil_append,
        packable_splitOnP_dropWhile, List.splitOnP_cons_eq_if_modifyHead, if_pos hc, List.modifyHead_cons,
        List.append_nil,
        List.reverse_cons, packable_append, packable_cons segment.reverse (rest.splitOnP _),
        List.append_assoc]
  | extend segment cuts c rest hmatch ih =>
    cases hc : isTerminator c with
    | true =>
      rw [match?_sentenceEnd hc] at hmatch
      exact absurd hmatch (Option.some_ne_none _)
    | false =>
      rw [Separator.cutFrom_of_none hmatch, ih, List.splitOnP_cons_eq_if_modifyHead, hc,
        if_neg Bool.false_ne_true, List.modifyHead_modifyHead]
      simp [Function.comp_def]

/-- The sentences of a text are its runs of characters that are no terminators. -/
theorem packable_cut_sentenceEnd (text : List Char) :
    packable (sentenceEnd.cut text) = packable (sentenceRuns text) := by
  have hcut := packable_cutFrom_sentenceEnd [] [] text
  rw [modifyHead_nil_append] at hcut
  rw [sentenceRuns, maximalRuns, packable_filter, Separator.cut, hcut]
  simp only [Bool.not_not]
  rfl

/-- **Paragraphs and sentences are maximal runs.** The paragraphs of a text are its maximal runs of lines
that are not blank, with line feeds between the lines of each; its sentences are its maximal runs of
characters that are no terminators. Trimmed, and without those that are blank, these are what is packed
into pieces. -/
theorem cut_eq_runs (text : List Char) :
    (∀ runs, IsMaximalRuns isInked (text.splitOn '\n') runs ↔ runs = lineRuns text) ∧
    packable (blankLine.cut text) = (lineRuns text).map (fun run => trim (joinLines run)) ∧
    (∀ runs, IsMaximalRuns (fun c => !isTerminator c) text runs ↔ runs = sentenceRuns text) ∧
    packable (sentenceEnd.cut text) = packable (sentenceRuns text) ∧
    ∀ maxSize overlap,
      splitParagraphs maxSize overlap text =
        pack maxSize paragraphSeparator (splitSentences maxSize overlap)
          ((lineRuns text).map fun run => trim (joinLines run)) ∧
      splitSentences maxSize overlap text =
        pack maxSize [] (hardSplit maxSize overlap) (sentenceRuns text) := by
  have hparagraphs : packable (blankLine.cut text) =
      (lineRuns text).map fun run => trim (joinLines run) := packable_cut_blankLine text
  have hsentences := packable_cut_sentenceEnd text
  refine ⟨fun _ => isMaximalRuns_iff, hparagraphs, fun _ => isMaximalRuns_iff, hsentences, ?_⟩
  intro maxSize overlap
  constructor
  · rw [splitParagraphs, ← pack_packable, hparagraphs]
  · rw [splitSentences, ← pack_packable, hsentences, pack_packable]

end TextChunking
