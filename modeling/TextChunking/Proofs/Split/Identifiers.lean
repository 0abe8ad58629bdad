import TextChunking.Proofs.Layout.Identifiers
import TextChunking.Proofs.Split.Elementwise
import TextChunking.Proofs.Text.Trimming
/-!
# Distinct identifiers, and whose they are

The identifiers of plain texts and markdown are numbered, and numbers behind identifiers can be read off
again. Those of elements go through the registry: `exists_grants_shares` follows it from one element to
the next, so nothing is given out twice as long as the counter of a search for a suffix has enough values
(`HasRoomFor`). An identifier that an element brings is reserved, so it can be in use in front of that element
only if an earlier one brought it too and kept it (`notMem_used_share`). **Theorem** (`distinct_and_owned`):
identifiers are distinct, the first element that can keep an identifier gets it, and no other chunk of an
element has one that was brought along. The markdown of a result that has no other chunks does not ask the
registry, so there a made-up identifier can be one that was brought along (`splitResult_fallback_id`).
-/

namespace TextChunking

open Registry

namespace Splitter

variable {splitter : Splitter}

/-! ### Numbered identifiers -/

/-- No two items of a list stand at the same place. -/
theorem pairwise_place_ne {α : Type} (items : List α) :
    items.zipIdx.Pairwise fun first second => first.2 ≠ second.2 := by
  have hplaces : (items.zipIdx.map Prod.snd).Nodup := by
    rw [List.zipIdx_map_snd]
    exact List.nodup_range'
  exact List.pairwise_map.mp hplaces

/-- Identifiers that are numbered in turn are distinct. -/
theorem nodup_map_suffixed {α : Type} (id : String) (items : List α) :
    (items.zipIdx.map fun item => suffixed id item.2).Nodup := by
  refine List.pairwise_map.mpr ((pairwise_place_ne items).imp ?_)
  exact fun hne heq => hne (suffixed_natCast_inj.mp heq).2

/-- The chunks of a candidate carry its identifier, or this one with a number behind it. -/
theorem id_of_mem_refine {candidate chunk : Chunk} (h : chunk ∈ splitter.refine candidate) :
    chunk.id = candidate.id ∨ ∃ n : Nat, chunk.id = suffixed candidate.id n := by
  unfold refine at h
  split at h
  · exact .inl (by rw [List.mem_singleton.mp h])
  · obtain ⟨⟨piece, n⟩, -, rfl⟩ := List.mem_map.mp h
    exact .inr ⟨n, rfl⟩

/-- The pieces of a candidate are numbered, and so differ. -/
theorem nodup_ids_refine (splitter : Splitter) (candidate : Chunk) :
    ((splitter.refine candidate).map Chunk.id).Nodup := by
  unfold refine
  split
  · exact List.nodup_singleton _
  · rw [List.map_map]
    exact nodup_map_suffixed candidate.id _

/-- The chunks of a plain text have distinct identifiers. -/
theorem nodup_ids_splitText (splitter : Splitter) (text : String) :
    ((splitter.splitText text).map Chunk.id).Nodup := by
  simp only [splitText]
  split
  · exact List.nodup_nil
  · split
    · exact List.nodup_singleton _
    · rw [List.map_map]
      exact nodup_map_suffixed textId _

/-- What the identifiers of sections begin with. -/
def sectionId : String := "markdown_chunk"

/-- A section has the number of its place in its identifier. -/
theorem id_candidate (index : Nat) (part : Section) :
    (part.candidate index).id = suffixed sectionId index := by
  have hfront : "markdown_chunk_" = sectionId ++ "_" := by decide
  unfold Section.candidate suffixed
  rw [hfront]
  rfl

/-- No two sections of a text have the same number. -/
theorem pairwise_index_ne (text : List Char) :
    (sections text).Pairwise fun first second => first.1 ≠ second.1 := by
  refine List.pairwise_filterMap.mpr ((pairwise_place_ne (spans text)).imp ?_)
  rintro ⟨span, i⟩ ⟨other, j⟩ hne first hfirst second hsecond
  obtain ⟨part, -, rfl⟩ := Option.map_eq_some_iff.mp hfirst
  obtain ⟨rival, -, rfl⟩ := Option.map_eq_some_iff.mp hsecond
  exact hne

/-- The identifiers of the chunks of two sections differ. -/
theorem id_ne_of_mem_refine {i j : Nat} {part other : Section} {chunk rival : Chunk} (hne : i ≠ j)
    (h : chunk ∈ splitter.refine (part.candidate i))
    (hrival : rival ∈ splitter.refine (other.candidate j)) : chunk.id ≠ rival.id := by
  intro heq
  have hchunk := id_of_mem_refine h
  have hother := id_of_mem_refine hrival
  rw [id_candidate] at hchunk hother
  rw [← heq] at hother
  -- the last number is read off on both sides, and then the number of the section
  rcases hchunk with hchunk | ⟨m, hchunk⟩ <;> rcases hother with hother | ⟨n, hother⟩ <;>
    rw [hchunk, suffixed_natCast_inj] at hother
  · exact hne hother.2
  · exact suffixed_ne_self _ _ hother.1.symm
  · exact suffixed_ne_self _ _ hother.1
  · exact hne (suffixed_natCast_inj.mp hother.1).2

/-- The chunks of a markdown text have distinct identifiers: within a section by the numbers of the pieces, and
otherwise by those of the sections, since no number is read in two ways. -/
theorem nodup_ids_splitMarkdown (splitter : Splitter) (text : String) :
    ((splitter.splitMarkdown text).map Chunk.id).Nodup := by
  rw [splitMarkdown, List.map_flatMap, List.Nodup, List.pairwise_flatMap]
  constructor
  · rintro ⟨index, part⟩ -
    exact nodup_ids_refine splitter _
  · refine (pairwise_index_ne text.toList).imp ?_
    rintro ⟨i, part⟩ ⟨j, other⟩ hne id hid rival hrival
    obtain ⟨chunk, hchunk, rfl⟩ := List.mem_map.mp hid
    obtain ⟨found, hfound, rfl⟩ := List.mem_map.mp hrival
    exact id_ne_of_mem_refine hne hchunk hfound

/-! ### What the elements are given -/

/-- All the elements together get distinct identifiers that were not in use, if there is room for them. -/
theorem exists_grants_shares (splitter : Splitter) (index : Nat) (registry : Registry)
    (elements : List (Except ElementFault Element)) :
    ∃ after, Grants registry after
      ((splitter.shares index registry elements).flatten.map Chunk.id) := by
  induction elements generalizing index registry with
  | nil => exact ⟨registry, Grants.refl registry⟩
  | cons element rest ih =>
    obtain ⟨after, hrest⟩ := ih (index + 1) (splitter.share index registry element).2
    refine ⟨after, ?_⟩
    rw [shares, List.flatten_cons, List.map_append]
    exact (grants_share index registry element).trans hrest

/-- A registry has room for the chunks of these elements: each of them can be given an identifier. -/
def HasRoom (splitter : Splitter) (index : Nat) (registry : Registry)
    (elements : List (Except ElementFault Element)) : Prop :=
  registry.taken + (splitter.shares index registry elements).flatten.length ≤ Int32.size

/-- Room for all is room for the first element, and behind it for the others. -/
theorem HasRoom.cons {index : Nat} {registry : Registry} {element : Except ElementFault Element}
    {rest : List (Except ElementFault Element)} (h : splitter.HasRoom index registry (element :: rest)) :
    registry.taken + (splitter.share index registry element).1.length ≤ Int32.size ∧
      splitter.HasRoom (index + 1) (splitter.share index registry element).2 rest := by
  rw [HasRoom, shares, List.flatten_cons, List.length_append] at h
  constructor
  · omega
  · rw [HasRoom, (grants_share index registry element).taken_eq, List.length_map]
    omega

/-- The chunks of all elements have distinct identifiers, since the registry gives out none twice. -/
theorem nodup_ids_shares {index : Nat} {registry : Registry}
    {elements : List (Except ElementFault Element)} (h : splitter.HasRoom index registry elements) :
    ((splitter.shares index registry elements).flatten.map Chunk.id).Nodup := by
  obtain ⟨after, hgrants⟩ := exists_grants_shares splitter index registry elements
  refine hgrants.nodup ?_
  rw [List.length_map]
  exact h

/-! ### Whose an identifier is -/

/-- A chunk gets an identifier that is reserved only if its element brings it. -/
theorem supplied_or_notMem_reserved {supplied : Option String} {registry : Registry}
    {chunks : List Chunk} {chunk : Chunk} (hroom : registry.taken + chunks.length ≤ Int32.size)
    (h : chunk ∈ (claimIds supplied registry chunks).1) :
    supplied = some chunk.id ∨ chunk.id ∉ registry.reserved := by
  induction chunks generalizing registry with
  | nil => simp at h
  | cons first rest ih =>
    rw [claimIds_cons] at h
    rw [List.length_cons] at hroom
    rcases List.mem_cons.mp h with rfl | h
    · have hlt : registry.taken < Int32.size := by omega
      rcases (answers_of_lt hlt first.id (supplied == some first.id)).notMem_reserved with ⟨hown, heq⟩ | hnot
      · exact .inl ((beq_iff_eq.mp hown).trans (congrArg some heq.symm))
      · exact .inr hnot
    · have hbehind : (registry.claim first.id (supplied == some first.id)).2.taken + rest.length ≤ Int32.size := by
        rw [(Grants.claim registry first.id (supplied == some first.id)).taken_eq, List.length_singleton]
        omega
      have hrest := ih hbehind h
      exact hrest

/-- As many chunks get identifiers as there are. -/
theorem length_claimIds (supplied : Option String) (registry : Registry) (chunks : List Chunk) :
    (claimIds supplied registry chunks).1.length = chunks.length := by
  have h := congrArg List.length (map_anonymous_claimIds supplied registry chunks)
  rwa [List.length_map, List.length_map] at h

/-- A chunk has the identifier that came with its element, or one that came with none. -/
theorem supplied_or_notMem_reserved_of_mem_share {index : Nat} {registry : Registry}
    {element : Except ElementFault Element} {chunk : Chunk}
    (hroom : registry.taken + (splitter.share index registry element).1.length ≤ Int32.size)
    (h : chunk ∈ (splitter.share index registry element).1) :
    suppliedId? element = some chunk.id ∨ chunk.id ∉ registry.reserved := by
  cases hcandidate : candidateOf? index element with
  | none => simp [share_of_none hcandidate] at h
  | some candidate =>
    rw [share_of_some hcandidate] at h hroom
    rw [length_claimIds] at hroom
    exact supplied_or_notMem_reserved hroom h

/-- The same for each of the elements of a list. -/
theorem supplied_or_notMem_reserved_of_getElem? {index i : Nat} {registry : Registry}
    {elements : List (Except ElementFault Element)} {element : Except ElementFault Element}
    {part : List Chunk} {chunk : Chunk} (hroom : splitter.HasRoom index registry elements)
    (h : elements[i]? = some element) (hpart : (splitter.shares index registry elements)[i]? = some part)
    (hchunk : chunk ∈ part) : suppliedId? element = some chunk.id ∨ chunk.id ∉ registry.reserved := by
  induction elements generalizing index i registry with
  | nil => simp at h
  | cons first rest ih =>
    rw [shares] at hpart
    obtain ⟨hhere, hbehind⟩ := hroom.cons
    cases i with
    | zero =>
      obtain rfl : first = element := by simpa using h
      obtain rfl : (splitter.share index registry first).1 = part := by simpa using hpart
      exact supplied_or_notMem_reserved_of_mem_share hhere hchunk
    | succ i =>
      have hrest := ih hbehind (by simpa using h) (by simpa using hpart)
      rwa [(grants_share index registry first).reserved_eq] at hrest

/-- A chunk gets the identifier that it had, or this one with a number behind it. -/
theorem exists_id_of_mem_claimIds {supplied : Option String} {registry : Registry}
    {chunks : List Chunk} {chunk : Chunk} (h : chunk ∈ (claimIds supplied registry chunks).1) :
    ∃ source ∈ chunks, chunk.id = source.id ∨ ∃ k, chunk.id = suffixed source.id k := by
  induction chunks generalizing registry with
  | nil => simp at h
  | cons first rest ih =>
    rw [claimIds_cons] at h
    rcases List.mem_cons.mp h with rfl | h
    · exact ⟨first, List.mem_cons_self, registry.answer_eq_or_suffixed first.id _⟩
    · obtain ⟨source, hsource, hid⟩ := ih h
      exact ⟨source, List.mem_cons_of_mem _ hsource, hid⟩

/-- The identifier that an element brings is that of its candidate. -/
theorem id_of_candidateOf?_eq_some {index : Nat} {element : Except ElementFault Element}
    {candidate : Chunk} {id : String} (h : candidateOf? index element = some candidate)
    (hsupplied : suppliedId? element = some id) : candidate.id = id := by
  obtain ⟨found, rfl, -, -, hid⟩ := exists_of_candidateOf?_eq_some h
  rw [suppliedId?] at hsupplied
  rw [hid, hsupplied, Option.getD_some]

/-- A chunk with the identifier that its element brings is the whole of the element. -/
theorem share_eq_singleton {index : Nat} {registry : Registry} {element : Except ElementFault Element}
    {chunk : Chunk} (h : chunk ∈ (splitter.share index registry element).1)
    (hsupplied : suppliedId? element = some chunk.id) :
    candidateOf? index element = some chunk ∧ chunk.size ≤ splitter.maxSize ∧
      (splitter.share index registry element).1 = [chunk] := by
  cases hcandidate : candidateOf? index element with
  | none => simp [share_of_none hcandidate] at h
  | some candidate =>
    have hid : candidate.id = chunk.id := id_of_candidateOf?_eq_some hcandidate hsupplied
    rw [share_of_some hcandidate] at h ⊢
    unfold refine at h ⊢
    split at h
    · rename_i hsize
      rw [if_pos hsize, claimIds_cons, claimIds_nil]
      rw [claimIds_cons, claimIds_nil] at h
      have hchunk := List.mem_singleton.mp h
      have hanswer : (registry.claim candidate.id (suppliedId? element == some candidate.id)).1 =
          candidate.id := (congrArg Chunk.id hchunk).symm.trans hid.symm
      have heq : chunk = candidate := by rw [hchunk, hanswer]
      exact ⟨congrArg some heq.symm, heq ▸ hsize, by rw [← hchunk]⟩
    · exfalso
      -- a piece carries a number behind the identifier, which no suffix takes away again
      obtain ⟨source, hsource, hchunk⟩ := exists_id_of_mem_claimIds h
      obtain ⟨⟨piece, n⟩, -, rfl⟩ := List.mem_map.mp hsource
      have hlonger : candidate.id.length < (suffixed candidate.id n).length :=
        length_lt_suffixed candidate.id n
      rw [← hid] at hchunk
      rcases hchunk with hchunk | ⟨k, hchunk⟩
      · exact hlonger.ne (congrArg String.length hchunk)
      · exact (hlonger.trans (length_lt_suffixed _ k)).ne (congrArg String.length hchunk)

/-- An element can keep an identifier: it brings it, and its text is not blank and fits into a chunk. -/
def CanKeep (maxSize : Nat) (id : String) (element : Except ElementFault Element) : Prop :=
  ∃ found, element = .ok found ∧ found.id = some id ∧ ink found.content ≠ [] ∧
    (trim found.content).length ≤ maxSize

/-- An element can keep an identifier that it brings exactly if its candidate is small enough. -/
theorem canKeep_iff {maxSize index : Nat} {id : String} {element : Except ElementFault Element} :
    CanKeep maxSize id element ↔ suppliedId? element = some id ∧
      ∃ candidate, candidateOf? index element = some candidate ∧ candidate.size ≤ maxSize := by
  constructor
  · rintro ⟨found, rfl, hid, hink, hsize⟩
    obtain ⟨candidate, hcandidate⟩ := exists_candidateOf?_eq_some index (mt trim_eq_nil_iff_ink.mp hink)
    obtain ⟨_, ⟨⟩, -, hcontent, -⟩ := exists_of_candidateOf?_eq_some hcandidate
    refine ⟨hid, candidate, hcandidate, ?_⟩
    rw [Chunk.size, ← String.length_toList, hcontent]
    exact hsize
  · rintro ⟨hid, candidate, hcandidate, hsize⟩
    obtain ⟨found, rfl, hne, hcontent, -⟩ := exists_of_candidateOf?_eq_some hcandidate
    refine ⟨found, rfl, hid, mt trim_eq_nil_iff_ink.mpr hne, ?_⟩
    rw [Chunk.size, ← String.length_toList, hcontent] at hsize
    exact hsize

/-- A reserved identifier is put into use by none but an element that can keep it. -/
theorem notMem_used_share {index : Nat} {registry : Registry} {element : Except ElementFault Element}
    {id : String} (hroom : registry.taken + (splitter.share index registry element).1.length ≤ Int32.size)
    (hreserved : id ∈ registry.reserved) (hused : id ∉ registry.used)
    (h : ¬ CanKeep splitter.maxSize id element) :
    id ∉ (splitter.share index registry element).2.used := by
  rw [(grants_share index registry element).mem_used_iff, not_or]
  refine ⟨?_, hused⟩
  intro hmem
  obtain ⟨chunk, hchunk, rfl⟩ := List.mem_map.mp hmem
  rcases supplied_or_notMem_reserved_of_mem_share hroom hchunk with hsupplied | hnot
  · obtain ⟨hcandidate, hsize, -⟩ := share_eq_singleton hchunk hsupplied
    exact h (canKeep_iff.mpr ⟨hsupplied, chunk, hcandidate, hsize⟩)
  · exact hnot hreserved

/-- An element that can keep an identifier keeps it if nobody has it yet. -/
theorem share_of_canKeep (index : Nat) {registry : Registry} {element : Except ElementFault Element}
    {id : String} (hused : id ∉ registry.used) (h : CanKeep splitter.maxSize id element) :
    ∃ chunk, candidateOf? index element = some chunk ∧ chunk.id = id ∧
      (splitter.share index registry element).1 = [chunk] := by
  obtain ⟨hsupplied, candidate, hcandidate, hsize⟩ := canKeep_iff.mp h
  have hid : candidate.id = id := id_of_candidateOf?_eq_some hcandidate hsupplied
  refine ⟨candidate, hcandidate, hid, ?_⟩
  rw [share_of_some hcandidate, refine, if_pos hsize, claimIds_cons, claimIds_nil, hsupplied, hid,
    beq_self_eq_true, claim, answer_supplied hused, ← hid]

/-- The first element that can keep a reserved identifier keeps it, if it is not in use before. -/
theorem getElem?_shares_of_canKeep {index i : Nat} {registry : Registry}
    {elements : List (Except ElementFault Element)} {element : Except ElementFault Element}
    {id : String} (hroom : splitter.HasRoom index registry elements)
    (hreserved : id ∈ registry.reserved) (hused : id ∉ registry.used)
    (h : elements[i]? = some element) (hkeep : CanKeep splitter.maxSize id element)
    (hfirst : ∀ j < i, ∀ earlier, elements[j]? = some earlier →
      ¬ CanKeep splitter.maxSize id earlier) :
    ∃ chunk, candidateOf? (index + i) element = some chunk ∧ chunk.id = id ∧
      (splitter.shares index registry elements)[i]? = some [chunk] := by
  induction elements generalizing index i registry with
  | nil => simp at h
  | cons first rest ih =>
    rw [shares]
    obtain ⟨hhere, hroomBehind⟩ := hroom.cons
    cases i with
    | zero =>
      obtain rfl : first = element := by simpa using h
      obtain ⟨chunk, hcandidate, hid, hshare⟩ := share_of_canKeep index hused hkeep
      exact ⟨chunk, hcandidate, hid, by rw [List.getElem?_cons_zero, hshare]⟩
    | succ i =>
      have hbehind : id ∉ (splitter.share index registry first).2.used :=
        notMem_used_share hhere hreserved hused (hfirst 0 (Nat.zero_lt_succ i) first rfl)
      rw [← (grants_share index registry first).reserved_eq] at hreserved
      obtain ⟨chunk, hcandidate, hid, hshare⟩ := ih hroomBehind hreserved hbehind (by simpa using h)
        fun j hj earlier hearlier => hfirst (j + 1) (Nat.succ_lt_succ hj) earlier (by simpa using hearlier)
      refine ⟨chunk, ?_, hid, ?_⟩
      · rwa [Nat.add_right_comm, Nat.add_assoc] at hcandidate
      · rwa [List.getElem?_cons_succ]

/-! ### All the identifiers of a split -/

/-- A parse result has room if the identifiers that come with its elements, and the chunks of these, are no more
than the counter of a search has values. -/
def HasRoomFor (splitter : Splitter) (result : ParseResult) : Prop :=
  (suppliedIds result.elements).length + (splitter.resultShares result).flatten.length ≤ Int32.size

/-- Room for a parse result is room in the registry that reserves what comes with its elements. -/
theorem HasRoomFor.hasRoom {result : ParseResult} (h : splitter.HasRoomFor result) :
    splitter.HasRoom 0 (.ofReserved (suppliedIds result.elements)) result.elements := by
  have htaken : (ofReserved (suppliedIds result.elements)).taken = (suppliedIds result.elements).length :=
    Nat.zero_add _
  rw [HasRoom, htaken]
  exact h

/-- The chunks of a parse result have distinct identifiers, whether or not it falls back to its markdown. -/
theorem nodup_ids_splitResult {result : ParseResult} (h : splitter.HasRoomFor result) :
    ((splitter.splitResult result).chunks.map Chunk.id).Nodup := by
  rw [chunks_splitResult]
  split
  · cases fallback? result with
    | none => exact List.nodup_nil
    | some markdown => simpa using nodup_ids_splitMarkdown splitter markdown
  · exact nodup_ids_shares h.hasRoom

/-- Unless its markdown is split instead, the chunks of a parse result are the shares of its elements. -/
theorem chunks_splitResult_or (splitter : Splitter) (result : ParseResult) :
    (∃ markdown, splitter.FallsBack result markdown ∧
      (splitter.splitResult result).chunks = splitter.splitMarkdown markdown) ∨
      (splitter.splitResult result).chunks = (splitter.resultShares result).flatten := by
  by_cases h : ∃ markdown, splitter.FallsBack result markdown
  · obtain ⟨markdown, hback⟩ := h
    exact .inl ⟨markdown, hback, congrArg SplitOutput.chunks (splitResult_of_fallsBack hback)⟩
  · exact .inr (congrArg SplitOutput.chunks (splitResult_of_not_fallsBack (not_exists.mp h)))

/-- An identifier that can be kept is one that comes with an element. -/
theorem mem_suppliedIds_of_canKeep {maxSize i : Nat} {id : String}
    {elements : List (Except ElementFault Element)} {element : Except ElementFault Element}
    (h : elements[i]? = some element) (hkeep : CanKeep maxSize id element) :
    id ∈ suppliedIds elements := by
  obtain ⟨found, rfl, hid, -⟩ := hkeep
  exact List.mem_filterMap.mpr ⟨_, List.mem_of_getElem? h, hid⟩

/-- The first element that can keep an identifier has a single chunk, which carries it. -/
theorem exists_mem_chunks_of_canKeep {result : ParseResult} {id : String} {i : Nat}
    {element : Except ElementFault Element} (hroom : splitter.HasRoomFor result)
    (h : result.elements[i]? = some element) (hkeep : CanKeep splitter.maxSize id element)
    (hfirst : ∀ j < i, ∀ earlier, result.elements[j]? = some earlier →
      ¬ CanKeep splitter.maxSize id earlier) :
    ∃ chunk ∈ (splitter.splitResult result).chunks, chunk.id = id ∧
      (splitter.resultShares result)[i]? = some [chunk] := by
  obtain ⟨chunk, -, hid, hpart⟩ := getElem?_shares_of_canKeep hroom.hasRoom
    (mem_suppliedIds_of_canKeep h hkeep) List.not_mem_nil h hkeep hfirst
  exact ⟨chunk, mem_chunks_splitResult (List.mem_of_getElem? hpart) List.mem_cons_self, hid, hpart⟩

/-- A chunk of an element is the whole of it, with the identifier that it brings, or has one that no element
brings. -/
theorem supplied_or_notMem_suppliedIds {result : ParseResult} {i : Nat}
    {element : Except ElementFault Element} {part : List Chunk} {chunk : Chunk}
    (hroom : splitter.HasRoomFor result) (h : result.elements[i]? = some element)
    (hpart : (splitter.resultShares result)[i]? = some part) (hchunk : chunk ∈ part) :
    (suppliedId? element = some chunk.id ∧ candidateOf? i element = some chunk ∧ part = [chunk]) ∨
      chunk.id ∉ suppliedIds result.elements := by
  rcases supplied_or_notMem_reserved_of_getElem? hroom.hasRoom h hpart hchunk with hsupplied | hnot
  · obtain ⟨before, -, hshare⟩ := exists_getElem?_shares h
    obtain rfl := Option.some.inj (hshare.symm.trans hpart)
    rw [Nat.zero_add] at hchunk ⊢
    obtain ⟨hcandidate, -, hsingle⟩ := share_eq_singleton hchunk hsupplied
    exact .inl ⟨hsupplied, hcandidate, hsingle⟩
  · exact .inr hnot

/-- **Identifiers are distinct, and owned but for the fallback.** The chunks of a text and of markdown have
distinct identifiers, and so have those of a parse result that has room for them. Its chunks are those of its
elements, unless these have none and its markdown is split instead. The first element that can keep an
identifier has a single chunk, which carries it. A chunk of an element either is the whole element, with the
identifier that the element brings, or has one that no element brings. So a chunk whose identifier was made up
has one that an element brings only if it is a chunk of the fallback, where the registry is not asked. -/
theorem distinct_and_owned (splitter : Splitter) :
    (∀ text, ((splitter.split (.text text)).chunks.map Chunk.id).Nodup) ∧
    (∀ text, ((splitter.split (.markdown text)).chunks.map Chunk.id).Nodup) ∧
    ∀ result : ParseResult, splitter.HasRoomFor result →
      ((splitter.split (.structured result)).chunks.map Chunk.id).Nodup ∧
      ((∃ markdown, splitter.FallsBack result markdown ∧
        (splitter.splitResult result).chunks = splitter.splitMarkdown markdown) ∨
        (splitter.splitResult result).chunks = (splitter.resultShares result).flatten) ∧
      (∀ (id : String) (i : Nat) (element : Except ElementFault Element),
        result.elements[i]? = some element → CanKeep splitter.maxSize id element →
        (∀ j < i, ∀ earlier, result.elements[j]? = some earlier →
          ¬ CanKeep splitter.maxSize id earlier) →
        ∃ chunk ∈ (splitter.splitResult result).chunks, chunk.id = id ∧
          (splitter.resultShares result)[i]? = some [chunk]) ∧
      (∀ (i : Nat) (element : Except ElementFault Element) (part : List Chunk),
        result.elements[i]? = some element → (splitter.resultShares result)[i]? = some part →
        ∀ chunk ∈ part,
          (suppliedId? element = some chunk.id ∧ candidateOf? i element = some chunk ∧
            part = [chunk]) ∨
          chunk.id ∉ suppliedIds result.elements) ∧
      ∀ chunk ∈ (splitter.splitResult result).chunks, chunk.id ∈ suppliedIds result.elements →
        (∃ i element, result.elements[i]? = some element ∧ suppliedId? element = some chunk.id ∧
          candidateOf? i element = some chunk) ∨
        ∃ markdown, splitter.FallsBack result markdown ∧ chunk ∈ splitter.splitMarkdown markdown := by
  refine ⟨fun text => ?_, fun text => ?_, fun result hroom => ⟨?_, chunks_splitResult_or splitter result, ?_, ?_, ?_⟩⟩
  · rw [chunks_split]
    exact nodup_ids_splitText splitter text
  · rw [chunks_split]
    exact nodup_ids_splitMarkdown splitter text
  · rw [chunks_split]
    exact nodup_ids_splitResult hroom
  · exact fun id i element h hkeep hfirst => exists_mem_chunks_of_canKeep hroom h hkeep hfirst
  · exact fun i element part h hpart chunk hchunk => supplied_or_notMem_suppliedIds hroom h hpart hchunk
  · intro chunk hchunk hid
    rcases chunks_splitResult_or splitter result with ⟨markdown, hback, hchunks⟩ | hshares
    · exact .inr ⟨markdown, hback, hchunks ▸ hchunk⟩
    · rw [hshares] at hchunk
      obtain ⟨part, hpart, hmem⟩ := List.mem_flatten.mp hchunk
      obtain ⟨i, hi⟩ := List.getElem?_of_mem hpart
      obtain ⟨element, helement⟩ := exists_getElem?_of_getElem?_shares hi
      rcases supplied_or_notMem_suppliedIds hroom helement hi hmem with ⟨hsupplied, hcandidate, -⟩ | hnot
      · exact .inl ⟨i, element, helement, hsupplied, hcandidate⟩
      · exact absurd hid hnot

/-- An oversized element whose first piece would take the identifier that the element behind it brings. -/
theorem distinct_and_owned_piece :
    ∃ chunk ∈ (Splitter.splitResult ⟨3, 0, by decide⟩
      { layouts := [.object [("text", .string "abcdef"), ("uniqueId", .string "a")],
          .object [("text", .string "x"), ("uniqueId", .string "a_0")]] }).chunks,
      chunk.id = "a_0" ∧ chunk.content = "x" := by
  obtain ⟨-, -, hresult⟩ := distinct_and_owned ⟨3, 0, by decide⟩
  obtain ⟨-, -, hkeep, howned, -⟩ := hresult
    { layouts := [.object [("text", .string "abcdef"), ("uniqueId", .string "a")],
        .object [("text", .string "x"), ("uniqueId", .string "a_0")]] } (by unfold HasRoomFor; decide +kernel)
  obtain ⟨chunk, hmem, hid, hpart⟩ := hkeep "a_0" 1 (.ok { text := some "x", id := some "a_0" }) rfl
    ⟨_, rfl, rfl, by decide, by decide⟩ (by
      rintro j hj earlier hearlier ⟨found, rfl, hfound, -⟩
      obtain rfl : j = 0 := Nat.lt_one_iff.mp hj
      obtain rfl : { text := some "abcdef", id := some "a" } = found :=
        Except.ok.inj (Option.some.inj hearlier)
      exact absurd hfound (by decide))
  refine ⟨chunk, hmem, hid, ?_⟩
  rcases howned 1 _ [chunk] rfl hpart chunk List.mem_cons_self with ⟨-, hcandidate, -⟩ | hnot
  · have hcontent := congrArg (Option.map Chunk.content) hcandidate
    exact (Option.some.inj hcontent).symm.trans (by decide +kernel)
  · exact absurd (by rw [hid]; decide +kernel) hnot

/-- The sections of markdown are numbered without regard to what blank elements bring. -/
theorem splitResult_fallback_id :
    "markdown_chunk_0_0" ∈ (Splitter.splitResult ⟨5, 0, by decide⟩
      { layouts := [.object [("text", .string ""), ("uniqueId", .string "markdown_chunk_0_0")]]
        markdown := some "aaaa\n\nbbbb" }).chunks.map Chunk.id ∧
    "markdown_chunk_0_0" ∈ suppliedIds (ParseResult.elements
      { layouts := [.object [("text", .string ""), ("uniqueId", .string "markdown_chunk_0_0")]]
        markdown := some "aaaa\n\nbbbb" }) := by
  constructor
  · decide +kernel
  · decide +kernel

end Splitter

end TextChunking
