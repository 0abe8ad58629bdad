import Mathlib
import TextChunking.Proofs.Json.Lexemes
/-!
# Values that are read back

**Theorem** (`read?_compact`): a plain value is read back from its text. A text is read in three steps, and
each step has its own lemma.

* The tokens of a written value are those of a tree (`Spells`), whatever the text stands in front of.
  `Tokenizes` is the reading of tokens without its bound on the number of steps.
* The tokens of a tree build this tree (`build?_tokens`), in whatever containers they stand.
* The tree has the value that was written (`exists_spells_of_isPlain`).

Floating-point numbers are left out (`Value.IsPlain`). The members of an object are put in their order when
they are read, which changes nothing about members that are in it (`Members.ofPairs_of_isOrdered`).
-/

namespace TextChunking.Json

/-! ### Tokens -/

/-- Texts and the rows of their tokens, with nothing between one token and the next. -/
inductive Tokenizes : List Char → List Token → Prop
  | nil : Tokenizes [] []
  | cons {lexeme rest : List Char} {token : Token} {tokens : List Token} (nonempty : lexeme ≠ [])
      (read : token? (lexeme ++ rest) = some (token, rest)) (more : Tokenizes rest tokens) :
      Tokenizes (lexeme ++ rest) (token :: tokens)

/-- No token begins with a space, so that it is skipped in front of one. -/
theorem token?_eq_none_of_isSpace {c : Char} (h : isSpace c = true) (rest : List Char) :
    token? (c :: rest) = none := by
  simp only [isSpace, Bool.or_eq_true, beq_iff_eq] at h
  rcases h with ((rfl | rfl) | rfl) | rfl <;> rfl

/-- The tokens of a text are read one after another, as long as there are as many steps as characters. -/
theorem tokensFrom?_of_tokenizes {text : List Char} {tokens : List Token} (h : Tokenizes text tokens)
    {fuel : Nat} (hfuel : text.length ≤ fuel) (done : List Token) :
    tokensFrom? fuel done text = some (done.reverse ++ tokens) := by
  induction h generalizing fuel done with
  | nil => cases fuel <;> simp [tokensFrom?]
  | @cons lexeme rest token tokens nonempty read more ih =>
    obtain ⟨c, lexeme, rfl⟩ := List.exists_cons_of_ne_nil nonempty
    simp only [List.cons_append, List.length_cons, List.length_append] at hfuel
    obtain ⟨fuel, rfl⟩ : ∃ steps, fuel = steps + 1 := ⟨fuel - 1, by omega⟩
    have hspace : isSpace c = false := by
      by_contra hspace
      rw [List.cons_append, token?_eq_none_of_isSpace (by simpa using hspace)] at read
      cases read
    rw [List.cons_append] at read ⊢
    simp only [tokensFrom?, hspace, Bool.false_eq_true, if_false, read]
    rw [ih (by omega), List.reverse_cons, List.append_assoc, List.singleton_append]

/-- The length of a text is enough steps for its tokens, since each of these takes a character. -/
theorem tokens?_of_tokenizes {text : List Char} {tokens : List Token} (h : Tokenizes text tokens) :
    tokens? text = some tokens :=
  tokensFrom?_of_tokenizes h (Nat.le_refl _) []

/-! ### Trees -/

mutual

/-- The tokens of a tree. -/
def Syntax.tokens : Syntax → List Token
  | .null => [.null]
  | .bool value => [.bool value]
  | .number text => [.number text]
  | .string text => [.string text]
  | .array [] => [.openBracket, .closeBracket]
  | .array (item :: rest) => .openBracket :: (item.tokens ++ itemTokens rest)
  | .object [] => [.openBrace, .closeBrace]
  | .object ((key, item) :: rest) =>
    .openBrace :: .string key :: .colon :: (item.tokens ++ memberTokens rest)

/-- The tokens of the items of an array after the first, and of its end. -/
def itemTokens : List Syntax → List Token
  | [] => [.closeBracket]
  | item :: rest => .comma :: (item.tokens ++ itemTokens rest)

/-- The tokens of the members of an object after the first, and of its end. -/
def memberTokens : List (StringText × Syntax) → List Token
  | [] => [.closeBrace]
  | (key, item) :: rest => .comma :: .string key :: .colon :: (item.tokens ++ memberTokens rest)

end

/-- Every tree has a first token, which does not close an array. -/
theorem Syntax.exists_tokens_eq_cons (tree : Syntax) :
    ∃ first rest, tree.tokens = first :: rest ∧ first ≠ .closeBracket := by
  cases tree with
  | array items => cases items <;> exact ⟨_, _, by rw [Syntax.tokens], by simp⟩
  | object members => cases members <;> exact ⟨_, _, by rw [Syntax.tokens], by simp⟩
  | _ => exact ⟨_, _, by rw [Syntax.tokens], by simp⟩

mutual

/-- The tokens of a tree build it, whatever stands around it. -/
theorem build?_tokens (tree : Syntax) (stack : List Container) (more : List Token) :
    build? none stack (tree.tokens ++ more) = build? (some tree) stack more := by
  match tree with
  | .null | .bool _ | .number _ | .string _ | .array [] | .object [] =>
    simp [Syntax.tokens, build?]
  | .array (item :: rest) =>
    obtain ⟨first, others, hitem, hfirst⟩ := item.exists_tokens_eq_cons
    have hopen : ∀ tokens, build? none stack (.openBracket :: (item.tokens ++ tokens)) =
        build? none (.array [] :: stack) (item.tokens ++ tokens) := by
      intro tokens
      rw [hitem, List.cons_append, build?]
      simpa using hfirst
    rw [Syntax.tokens, List.cons_append, List.append_assoc, hopen, build?_tokens item,
      build?_itemTokens rest]
    rfl
  | .object ((key, item) :: rest) =>
    simp only [Syntax.tokens, List.cons_append, List.append_assoc, build?]
    rw [build?_tokens item, build?_memberTokens rest]
    rfl

/-- The items behind the first one are read into the array that is open. -/
theorem build?_itemTokens (items : List Syntax) (value : Syntax) (done : List Syntax)
    (stack : List Container) (more : List Token) :
    build? (some value) (.array done :: stack) (itemTokens items ++ more) =
      build? (some (.array (done.reverse ++ value :: items))) stack more := by
  match items with
  | [] => simp [itemTokens, build?]
  | item :: rest =>
    simp only [itemTokens, List.cons_append, List.append_assoc, build?]
    rw [build?_tokens item, build?_itemTokens rest]
    simp

/-- The members behind the first one are read into the object that is open. -/
theorem build?_memberTokens (members : List (StringText × Syntax)) (key : StringText) (value : Syntax)
    (done : List (StringText × Syntax)) (stack : List Container) (more : List Token) :
    build? (some value) (.object done key :: stack) (memberTokens members ++ more) =
      build? (some (.object (done.reverse ++ (key, value) :: members))) stack more := by
  match members with
  | [] => simp [memberTokens, build?]
  | (next, item) :: rest =>
    simp only [memberTokens, List.cons_append, List.append_assoc, build?]
    rw [build?_tokens item, build?_memberTokens rest]
    simp

end

/-! ### Texts of trees -/

/-- A text in which a tree is written: whatever it stands in front of is read on behind its tokens. A
number has to be followed by something else than more of it. -/
def Spells (text : List Char) (tree : Syntax) : Prop :=
  ∀ {rest : List Char} {more : List Token}, EndsNumber rest → Tokenizes rest more →
    Tokenizes (text ++ rest) (tree.tokens ++ more)

/-- A mark of punctuation, which is a token whatever follows it. -/
theorem Tokenizes.mark {c : Char} {token : Token} {rest : List Char} {tokens : List Token}
    (read : ∀ rest, token? (c :: rest) = some (token, rest)) (more : Tokenizes rest tokens) :
    Tokenizes (c :: rest) (token :: tokens) :=
  Tokenizes.cons (List.cons_ne_nil c []) (read rest) more

/-- A key with its colon is two tokens. -/
theorem Tokenizes.key {key : String} {rest : List Char} {tokens : List Token}
    (more : Tokenizes rest tokens) :
    Tokenizes (stringText key ++ ':' :: rest) (.string (some key) :: .colon :: tokens) :=
  Tokenizes.cons (List.cons_ne_nil _ _) (token?_stringText key _) (more.mark fun _ => rfl)

/-- A tree is read from its text. -/
theorem Spells.read? {text : List Char} {tree : Syntax} (h : Spells text tree) :
    Syntax.read? (String.ofList text) = some tree := by
  have htokens : tokens? text = some tree.tokens := by
    simpa using tokens?_of_tokenizes (h endsNumber_nil .nil)
  have hbuild : build? none [] tree.tokens = some tree := by
    simpa [build?] using build?_tokens tree [] []
  simp only [Syntax.read?, String.toList_ofList, htokens, Option.bind_some, hbuild]

/-- A text that is a single token. -/
theorem spells_of_token? {text : List Char} {tree : Syntax} {token : Token} (hne : text ≠ [])
    (htree : tree.tokens = [token])
    (hread : ∀ rest, EndsNumber rest → token? (text ++ rest) = some (token, rest)) :
    Spells text tree := by
  intro rest more hrest hmore
  rw [htree]
  exact .cons hne (hread rest hrest) hmore

/-- A string is written as one token. -/
theorem spells_string (s : String) : Spells (stringText s) (.string (some s)) :=
  spells_of_token? (List.cons_ne_nil _ _) (by rw [Syntax.tokens]) fun rest _ => token?_stringText s rest

/-- A whole number is written as one token, whose end shows only from what follows. -/
theorem spells_int (i : Int) : Spells (intText i) (.number (.ofInt i)) :=
  spells_of_token? (intText_ne_nil i) (by rw [Syntax.tokens]) fun _ hrest => token?_intText i hrest

/-- The items of an array behind the first one, if each of them is written as a tree. -/
theorem tokenizes_compactItems {items : List Value} {trees : List Syntax}
    (h : List.Forall₂ (fun item tree => Spells item.compactText tree) items trees)
    {rest : List Char} {more : List Token} (hrest : Tokenizes rest more) :
    EndsNumber (compactItems items ++ rest) ∧
      Tokenizes (compactItems items ++ rest) (itemTokens trees ++ more) := by
  induction h with
  | nil => exact ⟨endsNumber_cons (by decide) _, hrest.mark fun _ => rfl⟩
  | @cons item tree items trees hitem _ ih =>
    refine ⟨endsNumber_cons (by decide) _, ?_⟩
    rw [compactItems, itemTokens, List.cons_append, List.append_assoc, List.cons_append,
      List.append_assoc]
    exact (hitem ih.1 ih.2).mark fun _ => rfl

/-- An array is written between brackets, with its items as they are written. -/
theorem spells_array {items : List Value} {trees : List Syntax}
    (h : List.Forall₂ (fun item tree => Spells item.compactText tree) items trees) :
    Spells (Value.array items).compactText (.array trees) := by
  intro rest more _ hmore
  cases h with
  | nil =>
    rw [Value.compactText, Syntax.tokens]
    exact (hmore.mark fun _ => rfl).mark fun _ => rfl
  | @cons item tree items trees hitem hitems =>
    obtain ⟨hends, htail⟩ := tokenizes_compactItems hitems hmore
    rw [Value.compactText, Syntax.tokens, List.cons_append, List.append_assoc, List.cons_append,
      List.append_assoc]
    exact (hitem hends htail).mark fun _ => rfl

/-- A member and the tree of a member in which it is written. -/
def SpellsMember (member : String × Value) (tree : StringText × Syntax) : Prop :=
  tree.1 = some member.1 ∧ Spells member.2.compactText tree.2

/-- The members of an object behind the first one, if each of them is written as a tree. -/
theorem tokenizes_compactMembers {members : List (String × Value)} {trees : List (StringText × Syntax)}
    (h : List.Forall₂ SpellsMember members trees) {rest : List Char} {more : List Token}
    (hrest : Tokenizes rest more) :
    EndsNumber (compactMembers members ++ rest) ∧
      Tokenizes (compactMembers members ++ rest) (memberTokens trees ++ more) := by
  induction h with
  | nil => exact ⟨endsNumber_cons (by decide) _, hrest.mark fun _ => rfl⟩
  | @cons member tree members trees hmember _ ih =>
    obtain ⟨key, item⟩ := member
    obtain ⟨_, tree⟩ := tree
    obtain ⟨rfl, hitem⟩ := hmember
    refine ⟨endsNumber_cons (by decide) _, ?_⟩
    simp only [compactMembers, memberTokens, List.cons_append, List.append_assoc]
    exact (hitem ih.1 ih.2).key.mark fun _ => rfl

/-- An object is written between braces, with its members as they are written. -/
theorem spells_object {members : List (String × Value)} {trees : List (StringText × Syntax)}
    (h : List.Forall₂ SpellsMember members trees) :
    Spells (Value.object members).compactText (.object trees) := by
  intro rest more _ hmore
  cases h with
  | nil =>
    rw [Value.compactText, Syntax.tokens]
    exact (hmore.mark fun _ => rfl).mark fun _ => rfl
  | @cons member tree members trees hmember hmembers =>
    obtain ⟨key, item⟩ := member
    obtain ⟨_, tree⟩ := tree
    obtain ⟨rfl, hitem⟩ := hmember
    obtain ⟨hends, htail⟩ := tokenizes_compactMembers hmembers hmore
    simp only [Value.compactText, Syntax.tokens, List.cons_append, List.append_assoc]
    exact (hitem hends htail).key.mark fun _ => rfl

/-! ### Values -/

namespace Members

/-- Members in the order of their keys, each key once. -/
def IsOrdered (members : Members) : Prop := members.Pairwise fun a b => a.1 < b.1

/-- A key behind all others is put at the end. -/
theorem insert_of_forall_lt {members : Members} {key : String} (h : ∀ member ∈ members, member.1 < key)
    (value : Value) : insert key value members = members ++ [(key, value)] := by
  induction members with
  | nil => rfl
  | cons member rest ih =>
    obtain ⟨k, v⟩ := member
    have hlt : k < key := h (k, v) List.mem_cons_self
    rw [insert, if_neg (ne_of_lt hlt), if_neg (lt_asymm hlt),
      ih fun member hmember => h member (List.mem_cons_of_mem _ hmember)]
    rfl

/-- Members that come in their order are put one behind another. -/
theorem extend_of_isOrdered {front members : Members} (h : IsOrdered (front ++ members)) :
    extend front members = front ++ members := by
  induction members generalizing front with
  | nil => simp [extend]
  | cons member rest ih =>
    have hfront : ∀ other ∈ front, other.1 < member.1 := fun other hother =>
      (List.pairwise_append.mp h).2.2 other hother member List.mem_cons_self
    have hrest : IsOrdered ((front ++ [member]) ++ rest) := by
      rwa [List.append_assoc, List.singleton_append]
    rw [extend, List.foldl_cons, insert_of_forall_lt hfront, ← extend, ih hrest, List.append_assoc,
      List.singleton_append]

/-- Members that are in order already are kept as they are. -/
theorem ofPairs_of_isOrdered {members : Members} (h : members.IsOrdered) : ofPairs members = members :=
  extend_of_isOrdered h

end Members

/-- A value that its text gives back: without floating-point numbers, and with at most `depth` containers
around one another. That integers fit a word and that members are in the order of their keys holds of
every value. -/
inductive Value.IsPlain : Nat → Value → Prop
  | null {depth : Nat} : IsPlain depth .null
  | bool {depth : Nat} (value : Bool) : IsPlain depth (.bool value)
  | int {depth : Nat} {i : Int} (low : -signedLimit ≤ i) (high : i < wordLimit) :
      IsPlain depth (.number (.int i))
  | string {depth : Nat} (value : String) : IsPlain depth (.string value)
  | array {depth : Nat} {items : List Value} (plain : ∀ item ∈ items, IsPlain depth item) :
      IsPlain (depth + 1) (.array items)
  | object {depth : Nat} {members : Members} (ordered : members.IsOrdered)
      (plain : ∀ member ∈ members, IsPlain depth member.2) : IsPlain (depth + 1) (.object members)

/-- If each item is taken to the wanted one, so are all of them. -/
theorem mapM_eq_some_of_forall₂ {α β : Type} {f : α → Option β} {found : List α} {wanted : List β}
    (h : List.Forall₂ (fun b a => f a = some b) wanted found) : found.mapM f = some wanted := by
  induction h with
  | nil => rfl
  | cons hhead _ ih => simp [List.mapM_cons, hhead, ih]

/-- A plain value is written as a tree that has this value. -/
theorem exists_spells_of_isPlain {depth : Nat} {value : Value} (h : value.IsPlain depth) :
    ∃ tree, Spells value.compactText tree ∧ tree.value? depth = some value := by
  induction h with
  | null =>
    refine ⟨.null, spells_of_token? ?_ ?_ fun _ _ => rfl, ?_⟩
    · simp [Value.compactText]
    · rw [Syntax.tokens]
    · simp [Syntax.value?]
  | bool value =>
    refine ⟨.bool value, ?_, by simp [Syntax.value?]⟩
    cases value <;> exact spells_of_token? (by simp [Value.compactText]) (by rw [Syntax.tokens]) fun _ _ => rfl
  | int low high =>
    exact ⟨_, spells_int _, by simp [Syntax.value?, value?_ofInt low high]⟩
  | string value =>
    exact ⟨_, spells_string value, by simp [Syntax.value?]⟩
  | @array depth items plain ih =>
    choose! tree hspells hvalue using ih
    refine ⟨.array (items.map tree), spells_array ?_, ?_⟩
    · exact List.forall₂_map_right_iff.mpr (List.forall₂_same.mpr hspells)
    · have hitems : (items.map tree).mapM (Syntax.value? depth) = some items :=
        mapM_eq_some_of_forall₂ (List.forall₂_map_right_iff.mpr (List.forall₂_same.mpr hvalue))
      rw [Syntax.value?, hitems, Option.map_some]
  | @object depth members ordered plain ih =>
    choose! tree hspells hvalue using ih
    refine ⟨.object (members.map fun member => (some member.1, tree member)), spells_object ?_, ?_⟩
    · refine List.forall₂_map_right_iff.mpr (List.forall₂_same.mpr fun member hmember => ?_)
      exact ⟨rfl, hspells member hmember⟩
    · have hmembers : (members.map fun member => (some member.1, tree member)).mapM
          (member? (Syntax.value? depth)) = some members := by
        refine mapM_eq_some_of_forall₂ (List.forall₂_map_right_iff.mpr (List.forall₂_same.mpr ?_))
        intro member hmember
        simp [member?, hvalue member hmember]
      rw [Syntax.value?, hmembers, Option.map_some, Members.ofPairs_of_isOrdered ordered]

/-- **A plain value is read back from its text.** -/
theorem read?_compact {value : Value} (h : value.IsPlain maxDepth) :
    Value.read? value.compact = some value := by
  obtain ⟨tree, hspells, hvalue⟩ := exists_spells_of_isPlain h
  rw [Value.read?, Value.compact, hspells.read?, Option.bind_some, hvalue]

end TextChunking.Json
