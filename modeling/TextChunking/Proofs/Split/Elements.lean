import TextChunking.Proofs.Layout.Identifiers
import TextChunking.Split.Splitter
/-!
# Parse results, element by element

All that passes from one element of a parse result to the next is the registry of identifiers. `shares`
follows it through the elements and keeps apart what each of them gives; `splitElements_eq` says that
the chunks of the layout are these shares, one after another, and that the diagnostics are those of the
single elements. The share of an element consists of the chunks of its candidate, but for their
identifiers (`map_anonymous_share`).
-/

namespace TextChunking

open Json Registry

/-- A chunk without its identifier. -/
def Chunk.anonymous (chunk : Chunk) : Chunk := { chunk with id := "" }

/-- The elements of a parse result, as far as its layouts can be read. -/
def ParseResult.elements (result : ParseResult) : List (Except ElementFault Element) :=
  result.layouts.map Element.ofValue

namespace Splitter

variable {splitter : Splitter}

/-! ### Claiming identifiers -/

@[simp] theorem claimIds_nil (supplied : Option String) (registry : Registry) :
    claimIds supplied registry [] = ([], registry) := rfl

/-- The first chunk gets the answer to its claim, and the others are claimed for behind it. -/
theorem claimIds_cons (supplied : Option String) (registry : Registry) (chunk : Chunk)
    (rest : List Chunk) :
    claimIds supplied registry (chunk :: rest) =
      ({ chunk with id := (registry.claim chunk.id (supplied == some chunk.id)).1 } ::
          (claimIds supplied (registry.claim chunk.id (supplied == some chunk.id)).2 rest).1,
        (claimIds supplied (registry.claim chunk.id (supplied == some chunk.id)).2 rest).2) := rfl

/-- Claiming changes nothing of the chunks but their identifiers. -/
theorem map_anonymous_claimIds (supplied : Option String) (registry : Registry)
    (chunks : List Chunk) :
    (claimIds supplied registry chunks).1.map Chunk.anonymous = chunks.map Chunk.anonymous := by
  induction chunks generalizing registry with
  | nil => rfl
  | cons chunk rest ih =>
    rw [claimIds_cons, List.map_cons, List.map_cons, ih]
    rfl

/-- Claiming gives the chunks distinct identifiers that were not in use. -/
theorem grants_claimIds (supplied : Option String) (registry : Registry) (chunks : List Chunk) :
    Grants registry (claimIds supplied registry chunks).2
      ((claimIds supplied registry chunks).1.map Chunk.id) := by
  induction chunks generalizing registry with
  | nil => exact Grants.refl registry
  | cons chunk rest ih =>
    rw [claimIds_cons]
    exact (Grants.claim registry chunk.id (supplied == some chunk.id)).trans (ih _)

/-! ### The share of an element -/

/-- The candidate of what stands at a place in the list of elements. -/
def candidateOf? (index : Nat) : Except ElementFault Element → Option Chunk
  | .ok element => element.candidate? index
  | .error _ => none

/-- The identifier that what stands in the list of elements brings with it. -/
def suppliedId? : Except ElementFault Element → Option String
  | .ok element => element.id
  | .error _ => none

/-- What is noted on what stands at a place in the list of elements. -/
def note? (index : Nat) : Except ElementFault Element → Option Diagnostic
  | .ok element => if (element.candidate? index).isNone then some (.emptyElement index) else none
  | .error fault => some (.skippedElement index fault.message)

/-- A candidate holds the text of its element, which is not blank, and carries the identifier that the
element brings, or else one made of its place. -/
theorem exists_of_candidateOf?_eq_some {index : Nat} {element : Except ElementFault Element}
    {candidate : Chunk} (h : candidateOf? index element = some candidate) :
    ∃ found, element = .ok found ∧ trim found.content ≠ [] ∧
      candidate.content.toList = trim found.content ∧
      candidate.id = found.id.getD (Element.indexId index) := by
  cases element with
  | error fault => simp [candidateOf?] at h
  | ok found =>
    simp only [candidateOf?, Element.candidate?] at h
    split at h
    · simp at h
    · rename_i hne
      rw [Option.some.injEq] at h
      refine ⟨found, rfl, by simpa using hne, ?_, ?_⟩
      · rw [← h, String.toList_ofList]
      · rw [← h]

/-- An element whose text is not blank has a candidate. -/
theorem exists_candidateOf?_eq_some (index : Nat) {found : Element} (h : trim found.content ≠ []) :
    ∃ candidate, candidateOf? index (.ok found) = some candidate := by
  rw [candidateOf?, Element.candidate?, if_neg (by simpa using h)]
  exact ⟨_, rfl⟩

/-- The chunks of one element, and the registry behind them. -/
def share (splitter : Splitter) (index : Nat) (registry : Registry)
    (element : Except ElementFault Element) : List Chunk × Registry :=
  match candidateOf? index element with
  | none => ([], registry)
  | some candidate => claimIds (suppliedId? element) registry (splitter.refine candidate)

/-- The chunks of each of the elements that stand from `index` on in their list. -/
def shares (splitter : Splitter) :
    Nat → Registry → List (Except ElementFault Element) → List (List Chunk)
  | _, _, [] => []
  | index, registry, element :: rest =>
    (splitter.share index registry element).1 ::
      shares splitter (index + 1) (splitter.share index registry element).2 rest

/-- What is noted on the elements that stand from `index` on in their list. -/
def notes (index : Nat) (elements : List (Except ElementFault Element)) : List Diagnostic :=
  (elements.zipIdx index).filterMap fun (element, place) => note? place element

/-- An element that is no candidate has no chunks, and leaves the registry as it is. -/
theorem share_of_none {index : Nat} {registry : Registry} {element : Except ElementFault Element}
    (h : candidateOf? index element = none) :
    splitter.share index registry element = ([], registry) := by
  rw [share, h]

/-- A candidate is refined, and its chunks claim their identifiers in turn. -/
theorem share_of_some {index : Nat} {registry : Registry} {element : Except ElementFault Element}
    {candidate : Chunk} (h : candidateOf? index element = some candidate) :
    splitter.share index registry element =
      claimIds (suppliedId? element) registry (splitter.refine candidate) := by
  rw [share, h]

/-- The identifiers of the chunks of one element are those that the registry gave out meanwhile. -/
theorem grants_share (index : Nat) (registry : Registry) (element : Except ElementFault Element) :
    Grants registry (splitter.share index registry element).2
      ((splitter.share index registry element).1.map Chunk.id) := by
  cases h : candidateOf? index element with
  | none =>
    rw [share_of_none h]
    exact Grants.refl registry
  | some candidate =>
    rw [share_of_some h]
    exact grants_claimIds ..

/-- The share of an element consists of the chunks of its candidate, but for their identifiers. -/
theorem map_anonymous_share (index : Nat) (registry : Registry)
    (element : Except ElementFault Element) :
    (splitter.share index registry element).1.map Chunk.anonymous =
      ((candidateOf? index element).toList.flatMap splitter.refine).map Chunk.anonymous := by
  cases h : candidateOf? index element with
  | none => simp [share_of_none h]
  | some candidate => simp [share_of_some h, map_anonymous_claimIds]

/-- An element gives no chunk exactly if its candidate, if it has one, leaves none. -/
theorem share_eq_nil_iff {index : Nat} {registry : Registry} {element : Except ElementFault Element} :
    (splitter.share index registry element).1 = [] ↔
      ∀ candidate, candidateOf? index element = some candidate → splitter.refine candidate = [] := by
  rw [← List.map_eq_nil_iff, map_anonymous_share, List.map_eq_nil_iff]
  cases candidateOf? index element <;> simp

/-- The share of an element is what it gives behind the elements in front of it. -/
theorem exists_getElem?_shares {index i : Nat} {registry : Registry}
    {elements : List (Except ElementFault Element)} {element : Except ElementFault Element}
    (h : elements[i]? = some element) :
    ∃ before, before.reserved = registry.reserved ∧
      (splitter.shares index registry elements)[i]? =
        some (splitter.share (index + i) before element).1 := by
  induction elements generalizing index registry i with
  | nil => simp at h
  | cons first rest ih =>
    rw [shares]
    cases i with
    | zero =>
      obtain rfl : first = element := by simpa using h
      exact ⟨registry, rfl, rfl⟩
    | succ i =>
      obtain ⟨before, hreserved, hbefore⟩ :
          ∃ before, before.reserved = (splitter.share index registry first).2.reserved ∧
            (splitter.shares (index + 1) (splitter.share index registry first).2 rest)[i]? =
              some (splitter.share (index + 1 + i) before element).1 := ih (by simpa using h)
      refine ⟨before, hreserved.trans (grants_share index registry first).reserved_eq, ?_⟩
      rw [List.getElem?_cons_succ, hbefore, Nat.add_right_comm, Nat.add_assoc]

/-- There are as many shares as elements. -/
theorem length_shares (index : Nat) (registry : Registry) (elements : List (Except ElementFault Element)) :
    (splitter.shares index registry elements).length = elements.length := by
  induction elements generalizing index registry with
  | nil => rfl
  | cons element rest ih => exact congrArg (· + 1) (ih ..)

/-- There is an element in the place of every share. -/
theorem exists_getElem?_of_getElem?_shares {index i : Nat} {registry : Registry}
    {elements : List (Except ElementFault Element)} {part : List Chunk}
    (h : (splitter.shares index registry elements)[i]? = some part) :
    ∃ element, elements[i]? = some element := by
  obtain ⟨hlt, -⟩ := List.getElem?_eq_some_iff.mp h
  rw [length_shares] at hlt
  exact ⟨elements[i], List.getElem?_eq_getElem hlt⟩

/-- Each share is that of one of the elements. -/
theorem exists_of_mem_shares {index : Nat} {registry : Registry}
    {elements : List (Except ElementFault Element)} {part : List Chunk}
    (h : part ∈ splitter.shares index registry elements) :
    ∃ element ∈ elements, ∃ place before, part = (splitter.share place before element).1 := by
  induction elements generalizing index registry with
  | nil => simp [shares] at h
  | cons first rest ih =>
    rw [shares] at h
    rcases List.mem_cons.mp h with rfl | h
    · exact ⟨first, List.mem_cons_self, index, registry, rfl⟩
    · obtain ⟨element, helement, hshare⟩ := ih h
      exact ⟨element, List.mem_cons_of_mem _ helement, hshare⟩

/-- An element is noted on exactly if it has no candidate. -/
theorem note?_eq_none_iff {index : Nat} {element : Except ElementFault Element} :
    note? index element = none ↔ ∃ candidate, candidateOf? index element = some candidate := by
  cases element with
  | error fault => simp [note?, candidateOf?]
  | ok element => cases h : element.candidate? index <;> simp [note?, candidateOf?, h]

/-- The notes are those on the elements at their places. -/
theorem mem_notes {index : Nat} {elements : List (Except ElementFault Element)}
    {diagnostic : Diagnostic} :
    diagnostic ∈ notes index elements ↔
      ∃ i element, elements[i]? = some element ∧ note? (index + i) element = some diagnostic := by
  simp only [notes, List.mem_filterMap, Prod.exists]
  constructor
  · rintro ⟨element, place, hmem, hnote⟩
    obtain ⟨hle, hget⟩ := List.mem_zipIdx_iff_le_and_getElem?_sub.mp hmem
    exact ⟨place - index, element, hget, by rwa [Nat.add_sub_cancel' hle]⟩
  · rintro ⟨i, element, hget, hnote⟩
    refine ⟨element, index + i, ?_, hnote⟩
    rw [List.mem_zipIdx_iff_le_and_getElem?_sub]
    exact ⟨Nat.le_add_right .., by simpa using hget⟩

/-- The notes on the first element come in front of those on the others. -/
theorem notes_cons (index : Nat) (element : Except ElementFault Element)
    (rest : List (Except ElementFault Element)) :
    notes index (element :: rest) = (note? index element).toList ++ notes (index + 1) rest := by
  simp only [notes, List.zipIdx_cons, List.filterMap_cons]
  cases note? index element <;> rfl

/-- Splitting elements gives their shares, one after another, and the notes on them. -/
theorem splitElements_eq (index : Nat) (registry : Registry)
    (elements : List (Except ElementFault Element)) :
    splitter.splitElements index registry elements =
      { chunks := (splitter.shares index registry elements).flatten
        diagnostics := notes index elements } := by
  induction elements generalizing index registry with
  | nil => rfl
  | cons element rest ih =>
    cases element with
    | error fault =>
      rw [splitElements, ih, shares, share_of_none rfl, notes_cons]
      rfl
    | ok element =>
      cases hcandidate : element.candidate? index with
      | none =>
        have hnote : note? index (.ok element) = some (.emptyElement index) := by
          simp [note?, hcandidate]
        have hfound : candidateOf? index (.ok element) = none := hcandidate
        rw [splitElements, hcandidate, shares, share_of_none hfound, notes_cons, hnote]
        simp [ih]
      | some candidate =>
        have hnote : note? index (.ok element) = none := by
          simp [note?, hcandidate]
        have hfound : candidateOf? index (.ok element) = some candidate := hcandidate
        rw [splitElements, hcandidate, shares, share_of_some hfound, notes_cons, hnote]
        simp [ih, suppliedId?]

/-! ### The whole result -/

/-- The chunks of each of the elements of a parse result. -/
def resultShares (splitter : Splitter) (result : ParseResult) : List (List Chunk) :=
  splitter.shares 0 (.ofReserved (suppliedIds result.elements)) result.elements

/-- A parse result gives the shares of its elements; only if all of these are empty and there is
markdown does it give the chunks of the markdown instead. -/
theorem splitResult_eq (splitter : Splitter) (result : ParseResult) :
    splitter.splitResult result =
      match (splitter.resultShares result).flatten, fallback? result with
      | [], some markdown =>
        { chunks := splitter.splitMarkdown markdown
          diagnostics := notes 0 result.elements ++ [.markdownFallback] }
      | chunks, _ => { chunks, diagnostics := notes 0 result.elements } := by
  have helements : splitter.splitElements 0
      (.ofReserved (suppliedIds (result.layouts.map Element.ofValue)))
      (result.layouts.map Element.ofValue) =
        { chunks := (splitter.resultShares result).flatten
          diagnostics := notes 0 result.elements } := splitElements_eq ..
  rw [splitResult]
  simp only [helements]
  cases (splitter.resultShares result).flatten with
  | nil => cases fallback? result <;> rfl
  | cons chunk rest => rfl

/-- The chunks of a parse result are the shares of its elements, or else those of its markdown. -/
theorem chunks_splitResult (splitter : Splitter) (result : ParseResult) :
    (splitter.splitResult result).chunks =
      if (splitter.resultShares result).flatten = [] then
        (fallback? result).toList.flatMap splitter.splitMarkdown
      else (splitter.resultShares result).flatten := by
  rw [splitResult_eq]
  cases hshares : (splitter.resultShares result).flatten with
  | nil => cases fallback? result <;> simp
  | cons chunk rest => simp

/-- The elements of a parse result are noted on, whatever becomes of its markdown. -/
theorem notes_prefix_diagnostics (splitter : Splitter) (result : ParseResult) :
    notes 0 result.elements <+: (splitter.splitResult result).diagnostics := by
  rw [splitResult_eq]
  split
  · exact List.prefix_append ..
  · exact List.prefix_rfl

/-- The share of an element is part of the chunks of the result. -/
theorem mem_chunks_splitResult {result : ParseResult} {part : List Chunk} {chunk : Chunk}
    (hpart : part ∈ splitter.resultShares result) (hchunk : chunk ∈ part) :
    chunk ∈ (splitter.splitResult result).chunks := by
  have hmem : chunk ∈ (splitter.resultShares result).flatten :=
    List.mem_flatten.mpr ⟨part, hpart, hchunk⟩
  rw [chunks_splitResult, if_neg (List.ne_nil_of_mem hmem)]
  exact hmem

/-- The note on the splitter itself leaves the chunks of a split as they are. -/
theorem chunks_split (splitter : Splitter) (input : SplitInput) :
    (splitter.split input).chunks = (splitter.splitInput input).chunks := by
  unfold split
  split <;> rfl

end Splitter

end TextChunking
