import JapaneseSpacing.Source.Tree
import Mathlib.Data.List.Induction

/-!
# Which blocks are open

The tokens alone tell what is open behind them: an opening token stays open as long as the
tokens behind it never close more than they open (`IsOpen`). Read from left to right, these
tokens are the ones on a stack (`mem_openTokens_iff`), and the last of them that has a node is
around what comes next (`IsNearest`). `ListsBlocks` says of a list of nodes that it has one for
each token that leaves one, in their order, below the nodes that are around them.
-/

namespace JapaneseSpacing

/-! ## Opening and closing -/

/-- How many blocks the tokens open and do not close. -/
def blockBalance (tokens : List BlockToken) : Int :=
  (tokens.countP (·.nesting == 1) : Int) - tokens.countP (·.nesting == -1)

/-- Some tokens in front of the last one close one block more than they open. -/
def ClosesEarly (tokens : List BlockToken) : Prop :=
  ∃ count < tokens.length, blockBalance (tokens.take count) = -1

/-- A token opens a block that the tokens behind it leave open. -/
structure IsOpen (tokens : List BlockToken) (index : Nat) (opening : BlockToken) : Prop where
  isToken : tokens[index]? = some opening
  opens : opening.nesting = 1
  stays : ∀ part, part <+: tokens.drop (index + 1) → 0 ≤ blockBalance part

/-- The type of the node for a block that a token opens, if it has one of its own. -/
def BlockToken.elementType? (token : BlockToken) : Option NodeType :=
  token.kind.openedElement.blockNodeType?

/-- The node around the end of the tokens is that of the token with this number, the last open
one whose block has a node. Without a number it is the document. -/
def IsNearest (tokens : List BlockToken) : Option Nat → Prop
  | some index =>
    (∃ opening, IsOpen tokens index opening ∧ opening.elementType? ≠ none)
      ∧ ∀ later opening, index < later → IsOpen tokens later opening →
        opening.elementType? = none
  | none => ∀ index opening, IsOpen tokens index opening → opening.elementType? = none

section Balance

variable {token : BlockToken}

theorem blockBalance_append (tokens more : List BlockToken) :
    blockBalance (tokens ++ more) = blockBalance tokens + blockBalance more := by
  simp only [blockBalance, List.countP_append]
  omega

theorem blockBalance_opening (opens : token.nesting = 1) : blockBalance [token] = 1 := by
  simp [blockBalance, opens]

theorem blockBalance_closing (closes : token.nesting = -1) : blockBalance [token] = -1 := by
  simp [blockBalance, closes]

theorem blockBalance_single (notOpening : token.nesting ≠ 1) (notClosing : token.nesting ≠ -1) :
    blockBalance [token] = 0 := by
  simp [blockBalance, notOpening, notClosing]

end Balance

/-! ## The stack of open tokens -/

section Stack

variable {tokens : List BlockToken} {token opening : BlockToken} {index : Nat}

theorem IsOpen.lt_length (isOpen : IsOpen tokens index opening) : index < tokens.length :=
  (List.getElem?_eq_some_iff.1 isOpen.isToken).1

/-- Behind one more token the open tokens are those that it does not close, and itself if it
opens a block. -/
theorem isOpen_concat_iff :
    IsOpen (tokens ++ [token]) index opening
      ↔ (IsOpen tokens index opening
          ∧ 0 ≤ blockBalance (tokens.drop (index + 1)) + blockBalance [token])
        ∨ (index = tokens.length ∧ opening = token ∧ token.nesting = 1) := by
  constructor
  · rintro ⟨isToken, opens, stays⟩
    rcases Nat.lt_or_ge index tokens.length with inside | atEnd
    · rw [List.getElem?_append_left inside] at isToken
      rw [List.drop_append_of_le_length inside] at stays
      refine .inl ⟨⟨isToken, opens, fun part starts => ?_⟩, ?_⟩
      · exact stays part (starts.trans (List.prefix_append _ _))
      · rw [← blockBalance_append]
        exact stays _ (List.prefix_refl _)
    · have within := (List.getElem?_eq_some_iff.1 isToken).1
      rw [List.length_append, List.length_singleton] at within
      obtain rfl : index = tokens.length := by omega
      rw [List.getElem?_append_right (Nat.le_refl _), Nat.sub_self, List.getElem?_cons_zero,
        Option.some.injEq] at isToken
      subst isToken
      exact .inr ⟨rfl, rfl, opens⟩
  · rintro (⟨isOpen, stays⟩ | ⟨rfl, rfl, opens⟩)
    · have inside := isOpen.lt_length
      refine ⟨?_, isOpen.opens, fun part starts => ?_⟩
      · rw [List.getElem?_append_left inside, isOpen.isToken]
      · rw [List.drop_append_of_le_length inside, List.prefix_concat_iff] at starts
        rcases starts with rfl | inFront
        · rw [blockBalance_append]
          exact stays
        · exact isOpen.stays part inFront
    · refine ⟨?_, opens, fun part starts => ?_⟩
      · rw [List.getElem?_append_right (Nat.le_refl _), Nat.sub_self, List.getElem?_cons_zero]
      · rw [List.drop_of_length_le (by simp), List.prefix_nil] at starts
        rw [starts]
        exact Int.le_refl 0

/-- The numbers of the open tokens with the types of their nodes, after one more token. -/
def openAfter (opened : List (Nat × Option NodeType)) (numbered : BlockToken × Nat) :
    List (Nat × Option NodeType) :=
  if numbered.1.nesting = 1 then (numbered.2, numbered.1.elementType?) :: opened
  else if numbered.1.nesting = -1 then opened.tail
  else opened

/-- The numbers of the open tokens with the types of their nodes, the last one first. -/
def openTokens (tokens : List BlockToken) : List (Nat × Option NodeType) :=
  tokens.zipIdx.foldl openAfter []

theorem openTokens_concat (tokens : List BlockToken) (token : BlockToken) :
    openTokens (tokens ++ [token]) = openAfter (openTokens tokens) (token, tokens.length) := by
  rw [openTokens, List.zipIdx_append, List.foldl_append, Nat.zero_add]
  rfl

theorem openTokens_opening (tokens : List BlockToken) (opens : token.nesting = 1) :
    openTokens (tokens ++ [token]) = (tokens.length, token.elementType?) :: openTokens tokens := by
  rw [openTokens_concat, openAfter, if_pos opens]

theorem openTokens_closing (tokens : List BlockToken) (closes : token.nesting = -1) :
    openTokens (tokens ++ [token]) = (openTokens tokens).tail := by
  rw [openTokens_concat, openAfter, if_neg (by rw [closes]; decide), if_pos closes]

theorem openTokens_single (tokens : List BlockToken) (notOpening : token.nesting ≠ 1)
    (notClosing : token.nesting ≠ -1) : openTokens (tokens ++ [token]) = openTokens tokens := by
  rw [openTokens_concat, openAfter, if_neg notOpening, if_neg notClosing]

/-- A token is open with at least `count` blocks open behind it. -/
structure IsOpenBelow (tokens : List BlockToken) (index : Nat) (type : Option NodeType)
    (count : Nat) : Prop where
  isOpen : ∃ opening, IsOpen tokens index opening ∧ opening.elementType? = type
  below : (count : Int) ≤ blockBalance (tokens.drop (index + 1))

theorem isOpenBelow_concat_iff {type : Option NodeType} {count : Nat} :
    IsOpenBelow (tokens ++ [token]) index type count
      ↔ ((∃ opening, IsOpen tokens index opening ∧ opening.elementType? = type)
          ∧ (count : Int) ≤ blockBalance (tokens.drop (index + 1)) + blockBalance [token])
        ∨ (index = tokens.length ∧ token.elementType? = type ∧ token.nesting = 1 ∧ count = 0) := by
  have behind : index < tokens.length → blockBalance ((tokens ++ [token]).drop (index + 1))
      = blockBalance (tokens.drop (index + 1)) + blockBalance [token] := by
    intro inside
    rw [List.drop_append_of_le_length inside, blockBalance_append]
  have atEnd : blockBalance ((tokens ++ [token]).drop (tokens.length + 1)) = 0 := by
    rw [List.drop_of_length_le (by simp)]
    rfl
  constructor
  · rintro ⟨⟨opening, isOpen, isType⟩, below⟩
    rcases isOpen_concat_iff.1 isOpen with ⟨isOpen, _⟩ | ⟨rfl, rfl, opens⟩
    · rw [behind isOpen.lt_length] at below
      exact .inl ⟨⟨opening, isOpen, isType⟩, below⟩
    · rw [atEnd] at below
      exact .inr ⟨rfl, isType, opens, by omega⟩
  · rintro (⟨⟨opening, isOpen, isType⟩, below⟩ | ⟨rfl, isType, opens, rfl⟩)
    · refine ⟨⟨opening, isOpen_concat_iff.2 (.inl ⟨isOpen, by omega⟩), isType⟩, ?_⟩
      rwa [behind isOpen.lt_length]
    · refine ⟨⟨token, isOpen_concat_iff.2 (.inr ⟨rfl, rfl, opens⟩), isType⟩, ?_⟩
      rw [atEnd]
      exact Int.le_refl 0

/-- Below the top `count` entries of the stack are the open tokens behind which at least as many
blocks are open. -/
theorem mem_drop_openTokens_iff {type : Option NodeType} {count : Nat} :
    (index, type) ∈ (openTokens tokens).drop count ↔ IsOpenBelow tokens index type count := by
  -- From the end of the tokens every closing one asks for one more block to be open behind.
  induction tokens using List.reverseRecOn generalizing count with
  | nil =>
    constructor
    · intro member
      cases List.mem_of_mem_drop member
    · rintro ⟨⟨opening, isOpen, _⟩, _⟩
      cases isOpen.isToken
  | append_singleton tokens token inductionHypothesis =>
    rw [isOpenBelow_concat_iff]
    by_cases opens : token.nesting = 1
    · rw [openTokens_opening tokens opens, blockBalance_opening opens]
      cases count with
      | zero =>
        have onStack := @inductionHypothesis 0
        rw [List.drop_zero] at onStack
        rw [List.drop_zero, List.mem_cons, onStack, Prod.mk.injEq]
        constructor
        · rintro (⟨rfl, rfl⟩ | ⟨isOpen, below⟩)
          · exact .inr ⟨rfl, rfl, opens, rfl⟩
          · exact .inl ⟨isOpen, by omega⟩
        · rintro (⟨⟨opening, isOpen, isType⟩, _⟩ | ⟨isLast, isType, _, _⟩)
          · exact .inr ⟨⟨opening, isOpen, isType⟩, isOpen.stays _ (List.prefix_refl _)⟩
          · exact .inl ⟨isLast, isType.symm⟩
      | succ count =>
        rw [List.drop_succ_cons, inductionHypothesis]
        constructor
        · rintro ⟨isOpen, below⟩
          exact .inl ⟨isOpen, by omega⟩
        · rintro (⟨isOpen, below⟩ | ⟨_, _, _, isZero⟩)
          · exact ⟨isOpen, by omega⟩
          · cases isZero
    have notLast : ¬ (index = tokens.length ∧ token.elementType? = type ∧ token.nesting = 1
        ∧ count = 0) := fun both => opens both.2.2.1
    rw [or_iff_left notLast]
    by_cases closes : token.nesting = -1
    · rw [openTokens_closing tokens closes, blockBalance_closing closes, ← List.drop_one,
        List.drop_drop, inductionHypothesis]
      constructor
      · rintro ⟨isOpen, below⟩
        exact ⟨isOpen, by omega⟩
      · rintro ⟨isOpen, below⟩
        exact ⟨isOpen, by omega⟩
    · rw [openTokens_single tokens opens closes, blockBalance_single opens closes, Int.add_zero,
        inductionHypothesis]
      constructor
      · rintro ⟨isOpen, below⟩
        exact ⟨isOpen, below⟩
      · rintro ⟨isOpen, below⟩
        exact ⟨isOpen, below⟩

/-- On the stack are exactly the open tokens. -/
theorem mem_openTokens_iff {type : Option NodeType} :
    (index, type) ∈ openTokens tokens
      ↔ ∃ opening, IsOpen tokens index opening ∧ opening.elementType? = type := by
  have onStack := @mem_drop_openTokens_iff tokens index type 0
  rw [List.drop_zero] at onStack
  rw [onStack]
  constructor
  · rintro ⟨isOpen, _⟩
    exact isOpen
  · rintro ⟨opening, isOpen, isType⟩
    exact ⟨⟨opening, isOpen, isType⟩, isOpen.stays _ (List.prefix_refl _)⟩

/-- The later of two open tokens is nearer to the top. -/
theorem openTokens_descending (tokens : List BlockToken) :
    (openTokens tokens).Pairwise fun upper lower => lower.1 < upper.1 := by
  induction tokens using List.reverseRecOn with
  | nil => exact .nil
  | append_singleton tokens token inductionHypothesis =>
    by_cases opens : token.nesting = 1
    · rw [openTokens_opening tokens opens]
      refine .cons (fun entry member => ?_) inductionHypothesis
      obtain ⟨opening, isOpen, _⟩ := mem_openTokens_iff.1 member
      exact isOpen.lt_length
    by_cases closes : token.nesting = -1
    · rw [openTokens_closing tokens closes]
      exact inductionHypothesis.tail
    · rwa [openTokens_single tokens opens closes]

/-- Below entries without a node the next one is that of the nearest node. -/
theorem isNearest_of_openTokens {front others : List (Nat × Option NodeType)} {type : NodeType}
    (stack : openTokens tokens = front ++ (index, some type) :: others)
    (noNode : ∀ entry ∈ front, entry.2 = none) : IsNearest tokens (some index) := by
  constructor
  · have member : (index, some type) ∈ openTokens tokens := by
      rw [stack]
      exact List.mem_append_right _ List.mem_cons_self
    obtain ⟨opening, isOpen, isType⟩ := mem_openTokens_iff.1 member
    exact ⟨opening, isOpen, by rw [isType]; exact Option.some_ne_none type⟩
  · intro later opening behind isOpen
    have member := mem_openTokens_iff.2 ⟨opening, isOpen, rfl⟩
    have descending := openTokens_descending tokens
    rw [stack] at member descending
    rcases List.mem_append.1 member with inFront | below
    · exact noNode _ inFront
    rcases List.mem_cons.1 below with same | further
    · have isIndex := congrArg Prod.fst same
      dsimp only at isIndex
      omega
    · have order := List.rel_of_pairwise_cons (List.pairwise_append.1 descending).2.1 further
      dsimp only at order
      omega

theorem isNearest_document (noNode : ∀ entry ∈ openTokens tokens, entry.2 = none) :
    IsNearest tokens none := fun _ opening isOpen =>
  noNode _ (mem_openTokens_iff.2 ⟨opening, isOpen, rfl⟩)

end Stack

/-! ## What tokens leave -/

/-- What a block token leaves in a document: a node of its own, or what it finds in its
content. -/
inductive BlockTrace where
  | node (type : NodeType)
  | content
deriving Repr, DecidableEq

/-- What a token leaves, if it leaves anything: a closing token and one of an unknown kind leave
nothing, and neither does an opening one whose element has no node. -/
def BlockToken.trace? (token : BlockToken) : Option BlockTrace :=
  if token.nesting = 1 then token.elementType?.map .node
  else if token.nesting = -1 then none
  else if token.kind = .inline then some .content
  else token.kind.leafNodeType?.map .node

/-- What the tokens leave, in their order, with their numbers. -/
def blockTraces (tokens : List BlockToken) : List (Nat × BlockTrace) :=
  tokens.zipIdx.filterMap fun numbered => numbered.1.trace?.map (numbered.2, ·)

/-- What a token left, with the number of the token whose node is around it. -/
structure BlockEntry where
  parent : Option Nat
  index : Nat
  trace : BlockTrace

/-- The entries are those of the tokens in their order, each one below the nearest node that is
open there. -/
structure ListsBlocks (tokens : List BlockToken) (entries : List BlockEntry) : Prop where
  inOrder : (entries.map fun entry => (entry.index, entry.trace)) = blockTraces tokens
  parents : ∀ entry ∈ entries, IsNearest (tokens.take entry.index) entry.parent

section Traces

variable {tokens : List BlockToken} {token : BlockToken} {entries : List BlockEntry}

theorem BlockToken.trace?_closing (closes : token.nesting = -1) : token.trace? = none := by
  rw [BlockToken.trace?, if_neg (by rw [closes]; decide), if_pos closes]

theorem blockTraces_concat (tokens : List BlockToken) (token : BlockToken) :
    blockTraces (tokens ++ [token])
      = blockTraces tokens ++ (token.trace?.map (tokens.length, ·)).toList := by
  rw [blockTraces, List.zipIdx_append, List.filterMap_append, Nat.zero_add]
  rfl

namespace ListsBlocks

theorem nil : ListsBlocks [] [] :=
  ⟨rfl, List.forall_mem_nil _⟩

theorem lt_length (lists : ListsBlocks tokens entries) {entry : BlockEntry}
    (member : entry ∈ entries) : entry.index < tokens.length := by
  have traced : (entry.index, entry.trace) ∈ blockTraces tokens := by
    rw [← lists.inOrder]
    exact List.mem_map_of_mem member
  obtain ⟨⟨token, index⟩, isNumbered, isTrace⟩ := List.mem_filterMap.1 traced
  obtain ⟨trace, _, same⟩ := Option.map_eq_some_iff.1 isTrace
  have inside := List.snd_lt_of_mem_zipIdx isNumbered
  have isIndex := congrArg Prod.fst same
  dsimp only at inside isIndex
  omega

theorem parents_append (lists : ListsBlocks tokens entries) (more : List BlockToken) :
    ∀ entry ∈ entries, IsNearest ((tokens ++ more).take entry.index) entry.parent := by
  intro entry member
  rw [List.take_append_of_le_length (Nat.le_of_lt (lists.lt_length member))]
  exact lists.parents entry member

/-- A token that leaves nothing changes nothing. -/
theorem skip (lists : ListsBlocks tokens entries) (noTrace : token.trace? = none) :
    ListsBlocks (tokens ++ [token]) entries where
  inOrder := by
    rw [blockTraces_concat, noTrace, lists.inOrder]
    exact (List.append_nil _).symm
  parents := lists.parents_append [token]

/-- What a token leaves goes below the node that is open in front of it. -/
theorem concat (lists : ListsBlocks tokens entries) {trace : BlockTrace} {parent : Option Nat}
    (isTrace : token.trace? = some trace) (nearest : IsNearest tokens parent) :
    ListsBlocks (tokens ++ [token]) (entries ++ [⟨parent, tokens.length, trace⟩]) where
  inOrder := by
    rw [blockTraces_concat, isTrace, List.map_append, lists.inOrder]
    rfl
  parents := by
    intro entry member
    rcases List.mem_append.1 member with earlier | isNew
    · exact lists.parents_append [token] entry earlier
    · rw [List.mem_singleton.1 isNew, List.take_left]
      exact nearest

end ListsBlocks

end Traces

end JapaneseSpacing
