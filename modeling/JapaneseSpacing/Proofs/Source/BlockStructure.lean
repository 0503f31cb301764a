import JapaneseSpacing.Markdown.Block.Context
import JapaneseSpacing.Proofs.Source.BlockStack
import JapaneseSpacing.Proofs.Source.Unlocated

/-!
# The tree has the structure of the tokens

A list of block tokens either closes more than was opened before its last token, and then there is
no tree, or it has one whose nodes are those of its tokens (`buildTree_mirrors`). A single token
takes the open blocks of one stack to those of the next (`Mirrors.step`), so by induction a
whole list leads to a tree or to the token that finds the document closed (`readBlocks_mirrors`).
No token fails for any other reason as long as its lines exist, since everything that is looked
for counts as being found somewhere.
-/

namespace JapaneseSpacing

/-! ## Tokens whose lines exist -/

/-- A token without lines, or with lines of which the first exists. -/
def BlockToken.StartsOnLine (text : Text) (token : BlockToken) : Prop :=
  ∀ range ∈ token.lineRange, 0 ≤ range.1 ∧ range.1 < (Text.lines text).length

/-- The nodes that an inline token adds to whatever it fills, in some state of the document. -/
def BlockToken.Fills (source : SourceLines) (token : BlockToken) (nodes : List Node) : Prop :=
  ∃ (state after : ReadState) (span : Span), ∀ container : OpenNode,
    (fillContainer source token container).Gives state
      { container with span, children := container.children ++ nodes } after

section Lines

variable {text : Text} {token : BlockToken}

/-- The lines of a content are all found or given up, wherever the search for them begins. -/
theorem exists_locateLines (text : Text) (offset : Nat) (parts : List Text) (state : ReadState)
    {line : Option Int} (fromStart : ∀ number ∈ line, 0 ≤ number) :
    ∃ places after, places.length = parts.length
      ∧ (locateLines (SourceLines.ofText text) line offset parts).Gives state
        ⟨(Text.startsFrom offset parts).map Int.ofNat, places⟩ after := by
  induction parts generalizing line offset state with
  | nil => exact ⟨[], state, rfl, .pure _ _⟩
  | cons part rest inductionHypothesis =>
    have exists_window : ∃ window, searchBounds? text line state.floor = some window := by
      cases line with
      | none => exact ⟨_, rfl⟩
      | some number =>
        obtain ⟨number, rfl⟩ := Int.eq_ofNat_of_zero_le (fromStart number rfl)
        exact ⟨_, searchBounds?_natCast text number state.floor⟩
    obtain ⟨window, bounds⟩ := exists_window
    have found := @locatePart_between text part line window state bounds
    have nextFromStart : ∀ number ∈ line.map (· + 1), 0 ≤ number := by
      intro number isNext
      obtain ⟨before, isLine, rfl⟩ := Option.map_eq_some_iff.1 isNext
      have first := fromStart before isLine
      omega
    obtain ⟨places, after, sameLength, others⟩ := inductionHypothesis
      (offset + part.length + 1) _ nextFromStart
    exact ⟨placeIn text part window :: places, after, by simp [sameLength],
      .bind found (.bind others (.pure _ _))⟩

/-- An inline token whose lines exist fills any container. -/
theorem exists_fillContainer (onLine : token.StartsOnLine text) (state : ReadState) :
    ∃ span nodes after, ∀ container,
      (fillContainer (SourceLines.ofText text) token container).Gives state
        { container with span, children := container.children ++ nodes } after := by
  obtain ⟨nodes, _, elsewhere⟩ := exists_nodes_sentTo token .document
  have fromStart : ∀ number ∈ token.lineRange.map (·.1), 0 ≤ number := by
    intro number isFirst
    obtain ⟨range, isRange, rfl⟩ := Option.map_eq_some_iff.1 isFirst
    exact (onLine range isRange).1
  obtain ⟨places, located, sameLength, lines⟩ :=
    exists_locateLines text 0 (Text.lines token.content) state fromStart
  obtain ⟨place, sendTo⟩ := (covers_startsFrom sameLength).exists_sendTo
  obtain ⟨after, filled⟩ := elsewhere _ state located _ place lines sendTo
  exact ⟨_, _, after, filled⟩

theorem exists_lineStart {line : Int} (fromStart : 0 ≤ line)
    (inside : line < (Text.lines text).length) :
    ∃ start, (SourceLines.ofText text).lineStart line = .ok start := by
  obtain ⟨number, rfl⟩ := Int.eq_ofNat_of_zero_le fromStart
  have within : number < (Text.lineStarts text).length := by
    rw [length_lineStarts_eq]
    exact Int.ofNat_lt.1 inside
  rw [SourceLines.lineStart, SourceLines.ofText]
  dsimp only
  rw [item?_natCast, List.getElem?_eq_getElem within]
  exact ⟨_, rfl⟩

theorem exists_lineStop {line : Int} (fromStart : 0 ≤ line)
    (inside : line < (Text.lines text).length) :
    ∃ stop, (SourceLines.ofText text).lineStop line = .ok stop := by
  obtain ⟨number, rfl⟩ := Int.eq_ofNat_of_zero_le fromStart
  have isLine : number < (Text.lines text).length := Int.ofNat_lt.1 inside
  have isStart : number < (Text.lineStarts text).length := by
    rwa [length_lineStarts_eq]
  rw [SourceLines.lineStop, SourceLines.ofText]
  dsimp only
  rw [item?_natCast, item?_natCast, List.getElem?_eq_getElem isLine,
    List.getElem?_eq_getElem isStart]
  exact ⟨_, rfl⟩

/-- A block whose lines exist has a span. -/
theorem exists_blockSpan (onLine : token.StartsOnLine text) (state : ReadState) :
    ∃ span, (blockSpan (SourceLines.ofText text) token).Gives state span state := by
  rw [blockSpan]
  split
  · next first last isRange =>
    obtain ⟨fromStart, inside⟩ := onLine (first, last) isRange
    obtain ⟨start, isStart⟩ := exists_lineStart fromStart inside
    have lastFromStart : 0 ≤ max first (min last (Text.lines text).length - 1) := by
      dsimp only at fromStart
      omega
    have lastInside :
        max first (min last (Text.lines text).length - 1) < (Text.lines text).length := by
      dsimp only at inside
      omega
    obtain ⟨stop, isStop⟩ := exists_lineStop lastFromStart lastInside
    have span : (SourceLines.ofText text).rangeSpan first last = .ok ⟨start, stop⟩ := by
      rw [SourceLines.rangeSpan, isStart]
      change (do return Span.mk start (← (SourceLines.ofText text).lineStop
        (max first (min last (Text.lines text).length - 1)))) = _
      rw [isStop]
      rfl
    rw [span]
    exact ⟨_, .ofOffset _ _⟩
  · exact ⟨_, .bind (.get state) (.pure _ _)⟩

end Lines

/-! ## One token -/

/-- What a part took from a content is what the token with its number adds to what it fills. -/
def BlockPart.ShowsContent (source : SourceLines) (tokens : List BlockToken) : BlockPart → Prop
  | block _ _ _ _ => True
  | content index nodes => ∃ token, tokens[index]? = some token ∧ token.Fills source nodes

theorem BlockPart.showsContent_of_node {source : SourceLines} {tokens : List BlockToken}
    {part : BlockPart} {type : NodeType} (isNode : part.trace = .node type) :
    part.ShowsContent source tokens := by
  cases part with
  | block index type span parts => trivial
  | content index nodes => cases isNode

theorem BlockPart.ShowsContent.append {source : SourceLines} {tokens : List BlockToken}
    {part : BlockPart} (shows : part.ShowsContent source tokens) (more : List BlockToken) :
    part.ShowsContent source (tokens ++ more) := by
  cases part with
  | block index type span parts => trivial
  | content index nodes =>
    obtain ⟨token, isToken, fills⟩ := shows
    have inside := (List.getElem?_eq_some_iff.1 isToken).1
    exact ⟨token, by rw [List.getElem?_append_left inside, isToken], fills⟩

/-- The parts below a document have the structure of the tokens: there is one for each token that
leaves one, in their order, below the nearest node that is open there. Every node whose token is
closed reaches over what is in it, and so does the document once it is closed. -/
structure MirrorsBlocks (source : SourceLines) (tokens : List BlockToken) (span : Span)
    (parts : List BlockPart) : Prop where
  lists : ListsBlocks tokens ((BlockPart.walkParts none parts).map PlacedPart.entry)
  contents : ∀ placed ∈ BlockPart.walkParts none parts, placed.part.ShowsContent source tokens
  reaches : ∀ placed ∈ BlockPart.walkParts none parts,
    (∀ opening, ¬ IsOpen tokens placed.part.index opening) → placed.part.Reaches
  document : blockBalance tokens = -1 → span.Reaches (BlockPart.allNodes parts)

/-- A stack of open blocks has the structure of the tokens that were read. -/
structure OpenStack.Mirrors (source : SourceLines) (tokens : List BlockToken)
    (stack : OpenStack) : Prop where
  opens : stack.opens = openTokens tokens
  balanced : blockBalance tokens = stack.opens.length
  lists : ListsBlocks tokens stack.entries
  finished : ∀ placed ∈ stack.finished,
    placed.part.Reaches ∧ placed.part.ShowsContent source tokens

/-- Behind the tokens that were read one more is read, and what is open then has the structure of
all of them. -/
def OpenStack.ReadsOn (text : Text) (tokens : List BlockToken) (stack : OpenStack)
    (token : BlockToken) (state : ReadState) : Prop :=
  ∃ (next : OpenStack) (after : ReadState),
    (readBlock (.ofText text) token stack.blocks stack.root).Gives state
      (.inside next.blocks next.root) after
    ∧ next.Mirrors (.ofText text) (tokens ++ [token])

/-- Behind the tokens that were read one more closes the document, which has the structure of all
of them. -/
def OpenStack.ClosesDocument (text : Text) (tokens : List BlockToken) (stack : OpenStack)
    (token : BlockToken) (state : ReadState) : Prop :=
  ∃ span parts, (readBlock (.ofText text) token stack.blocks stack.root).Gives state
      (.closed (.mk .document span (BlockPart.allNodes parts))) state
    ∧ blockBalance (tokens ++ [token]) = -1
    ∧ MirrorsBlocks (.ofText text) (tokens ++ [token]) span parts

namespace OpenStack.Mirrors

variable {source : SourceLines} {tokens : List BlockToken} {token : BlockToken}
  {stack : OpenStack}

/-- The innermost node of the stack is the nearest one. -/
theorem nearest (mirrors : stack.Mirrors source tokens) : IsNearest tokens stack.index? := by
  have opens := mirrors.opens
  cases stack with
  | document opened =>
    refine isNearest_document fun entry member => ?_
    rw [← opens] at member
    obtain ⟨index, _, rfl⟩ := List.mem_map.1 member
    rfl
  | inside index type opened outer =>
    refine isNearest_of_openTokens opens.symm fun entry member => ?_
    obtain ⟨index, _, rfl⟩ := List.mem_map.1 member
    rfl

/-- What was finished stays so behind more tokens. -/
theorem finished_append (mirrors : stack.Mirrors source tokens) (more : List BlockToken) :
    ∀ placed ∈ stack.finished,
      placed.part.Reaches ∧ placed.part.ShowsContent source (tokens ++ more) :=
  fun placed member =>
    ⟨(mirrors.finished placed member).1, (mirrors.finished placed member).2.append more⟩

/-- A token opens a block with a node. -/
theorem openNode (mirrors : stack.Mirrors source tokens) (opens : token.nesting = 1)
    {type : NodeType} (isType : token.elementType? = some type) (span : Span) :
    (inside tokens.length type ⟨span, [], []⟩ stack).Mirrors source (tokens ++ [token]) where
  opens := by
    rw [openTokens_opening tokens opens, isType, ← mirrors.opens]
    rfl
  balanced := by
    rw [blockBalance_append, mirrors.balanced, blockBalance_opening opens]
    rfl
  lists := by
    refine mirrors.lists.concat ?_ mirrors.nearest
    rw [BlockToken.trace?, if_pos opens, isType]
    rfl
  finished := by
    rw [OpenStack.finished, BlockPart.walkParts, List.append_nil]
    exact mirrors.finished_append [token]

/-- A token opens an element without a node. -/
theorem openTransparent (mirrors : stack.Mirrors source tokens) (opens : token.nesting = 1)
    (noType : token.elementType? = none) :
    (stack.change (·.push tokens.length)).Mirrors source (tokens ++ [token]) := by
  obtain ⟨pushed, _, _, entries, finished⟩ := stack.push_same tokens.length
  refine ⟨?_, ?_, ?_, ?_⟩
  · rw [pushed, openTokens_opening tokens opens, noType, mirrors.opens]
  · rw [pushed, blockBalance_append, mirrors.balanced, blockBalance_opening opens,
      List.length_cons]
    rfl
  · rw [entries]
    refine mirrors.lists.skip ?_
    rw [BlockToken.trace?, if_pos opens, noType]
    rfl
  · rw [finished]
    exact mirrors.finished_append [token]

/-- A token closes the block that was opened last. -/
theorem close (mirrors : stack.Mirrors source tokens) (closing : token.nesting = -1)
    {next : OpenStack} (closes : Closes stack next) :
    next.Mirrors source (tokens ++ [token]) := by
  obtain ⟨entry, popped⟩ := closes.opens
  refine ⟨?_, ?_, ?_, ?_⟩
  · rw [openTokens_closing tokens closing, ← mirrors.opens, popped, List.tail_cons]
  · rw [blockBalance_append, mirrors.balanced, blockBalance_closing closing, popped,
      List.length_cons]
    omega
  · rw [closes.entries]
    exact mirrors.lists.skip (BlockToken.trace?_closing closing)
  · intro placed member
    rcases closes.finished placed member with earlier | ⟨⟨type, isNode⟩, reaches⟩
    · exact mirrors.finished_append [token] placed earlier
    · exact ⟨reaches, BlockPart.showsContent_of_node isNode⟩

/-- A token that closes the document closes all that was open. -/
theorem closeDocument {opened : OpenParts} (mirrors : (document opened).Mirrors source tokens)
    (closing : token.nesting = -1) (noneOpen : (document opened).opens = []) :
    blockBalance (tokens ++ [token]) = -1
      ∧ MirrorsBlocks source (tokens ++ [token]) (opened.node .document).widen.span
        opened.parts := by
  constructor
  · rw [blockBalance_append, mirrors.balanced, noneOpen, blockBalance_closing closing]
    rfl
  refine ⟨mirrors.lists.skip (BlockToken.trace?_closing closing), ?_, ?_, fun _ => ?_⟩
  · exact fun placed member => (mirrors.finished_append [token] placed member).2
  · exact fun placed member _ => (mirrors.finished placed member).1
  · have widens : ¬ NodeType.document.keepsSpan := by decide
    exact OpenNode.widen_reaches (opened.node .document) widens

/-- A single token leaves a part without parts inside it. -/
theorem append (mirrors : stack.Mirrors source tokens) (notOpening : token.nesting ≠ 1)
    (notClosing : token.nesting ≠ -1) (part : BlockPart) (isTrace : token.trace? = some part.trace)
    (isIndex : part.index = tokens.length)
    (single : ∀ parent, part.walkBelow parent = [⟨parent, part⟩]) (reaches : part.Reaches)
    (shows : part.ShowsContent source (tokens ++ [token])) :
    (stack.append part).Mirrors source (tokens ++ [token]) where
  opens := by
    rw [opens_append, openTokens_single tokens notOpening notClosing, mirrors.opens]
  balanced := by
    rw [opens_append, blockBalance_append, mirrors.balanced,
      blockBalance_single notOpening notClosing, Int.add_zero]
  lists := by
    have listed := mirrors.lists.concat isTrace mirrors.nearest
    rw [entries_append, single]
    rw [← isIndex] at listed
    exact listed
  finished := by
    intro placed member
    rw [OpenStack.finished_append, single, List.mem_append, List.mem_singleton] at member
    rcases member with earlier | rfl
    · exact mirrors.finished_append [token] placed earlier
    · exact ⟨reaches, shows⟩

/-- A token of another kind leaves nothing. -/
theorem skip (mirrors : stack.Mirrors source tokens) (notOpening : token.nesting ≠ 1)
    (notClosing : token.nesting ≠ -1) (noTrace : token.trace? = none) :
    stack.Mirrors source (tokens ++ [token]) where
  opens := by rw [openTokens_single tokens notOpening notClosing, mirrors.opens]
  balanced := by
    rw [blockBalance_append, mirrors.balanced, blockBalance_single notOpening notClosing,
      Int.add_zero]
  lists := mirrors.lists.skip noTrace
  finished := mirrors.finished_append [token]

theorem spanning (mirrors : stack.Mirrors source tokens) (span : Span) :
    (stack.change (·.spanning span)).Mirrors source tokens := by
  obtain ⟨opens, _, entries, finished⟩ := stack.spanning_same span
  exact ⟨opens.trans mirrors.opens, opens ▸ mirrors.balanced, entries ▸ mirrors.lists,
    finished ▸ mirrors.finished⟩

section Step

variable {text : Text}

/-- Reading an opening token. -/
theorem readsOn_opening (mirrors : stack.Mirrors (.ofText text) tokens)
    (onLine : token.StartsOnLine text) (opens : token.nesting = 1) (state : ReadState) :
    stack.ReadsOn text tokens token state := by
  rw [ReadsOn, readBlock, if_pos opens, ← BlockToken.elementType?]
  cases isType : token.elementType? with
  | none =>
    obtain ⟨_, blocks, root, _, _⟩ := stack.push_same tokens.length
    refine ⟨_, state, ?_, mirrors.openTransparent opens isType⟩
    rw [blocks, root]
    exact .pure _ _
  | some type =>
    obtain ⟨span, isSpan⟩ := exists_blockSpan onLine state
    exact ⟨_, state, .bind isSpan (.pure _ _), mirrors.openNode opens isType span⟩

/-- Reading a closing token. -/
theorem readsOn_or_closesDocument (mirrors : stack.Mirrors (.ofText text) tokens)
    (closing : token.nesting = -1) (state : ReadState) :
    stack.ReadsOn text tokens token state ∨ stack.ClosesDocument text tokens token state := by
  have notOpening : token.nesting ≠ 1 := by
    rw [closing]
    decide
  rw [ReadsOn, ClosesDocument, readBlock, if_neg notOpening, if_pos closing]
  rcases stack.closeBlock_cases with ⟨opened, rfl, noneOpen, closed⟩ | ⟨next, closes⟩
  · obtain ⟨balance, mirrored⟩ := mirrors.closeDocument closing noneOpen
    refine .inr ⟨_, _, ?_, balance, mirrored⟩
    rw [closed, OpenNode.widen_eq]
    exact .pure _ _
  · refine .inl ⟨next, state, ?_, mirrors.close closing closes⟩
    rw [closes.closeBlock_eq]
    exact .pure _ _

section Single

variable (mirrors : stack.Mirrors (.ofText text) tokens) (onLine : token.StartsOnLine text)
  (notOpening : token.nesting ≠ 1) (notClosing : token.nesting ≠ -1) (state : ReadState)
include mirrors onLine notOpening notClosing

/-- Reading an inline token. -/
theorem readsOn_inline (inline : token.kind = .inline) :
    stack.ReadsOn text tokens token state := by
  obtain ⟨span, nodes, after, fills⟩ := exists_fillContainer onLine state
  have isTrace : token.trace? = some (BlockPart.content tokens.length nodes).trace := by
    rw [BlockToken.trace?, if_neg notOpening, if_neg notClosing, if_pos inline]
    rfl
  have shows : (BlockPart.content tokens.length nodes).ShowsContent (.ofText text)
      (tokens ++ [token]) := by
    refine ⟨token, ?_, state, after, span, fills⟩
    rw [List.getElem?_append_right (Nat.le_refl _), Nat.sub_self, List.getElem?_cons_zero]
  refine ⟨_, after, ?_, (mirrors.spanning span).append notOpening notClosing _ isTrace rfl
    (fun _ => rfl) trivial shows⟩
  rw [readBlock, if_neg notOpening, if_neg notClosing, if_pos inline, innermost_blocks]
  refine .bind (fills stack.inner) ?_
  rw [stack.fill_blocks tokens.length span nodes]
  exact .pure _ _

/-- Reading a token for a block without children, or one that leaves nothing. -/
theorem readsOn_leaf (notInline : token.kind ≠ .inline) :
    stack.ReadsOn text tokens token state := by
  have isTrace : token.trace? = token.kind.leafNodeType?.map .node := by
    rw [BlockToken.trace?, if_neg notOpening, if_neg notClosing, if_neg notInline]
  rw [ReadsOn, readBlock, if_neg notOpening, if_neg notClosing, if_neg notInline]
  cases isType : token.kind.leafNodeType? with
  | none =>
    rw [isType] at isTrace
    exact ⟨stack, state, .pure _ _, mirrors.skip notOpening notClosing isTrace⟩
  | some type =>
    rw [isType, Option.map_some] at isTrace
    obtain ⟨span, isSpan⟩ := exists_blockSpan onLine state
    have reaches : (BlockPart.block tokens.length type span []).Reaches := fun _ =>
      ⟨by simp [BlockPart.allNodes], by simp [BlockPart.allNodes]⟩
    have appended := stack.appendInnermost_blocks (.block tokens.length type span []) rfl
    rw [BlockPart.allNodes, ← Node.leaf] at appended
    refine ⟨_, { state with floor := max state.floor span.stop }, ?_,
      mirrors.append notOpening notClosing (.block tokens.length type span []) isTrace rfl
        (fun _ => rfl) reaches trivial⟩
    refine .bind isSpan (.bind (.get state) (.bind (.setFloor _ _) ?_))
    rw [appended]
    exact .pure _ _

end Single

/-- One token takes the blocks that are open to the next ones, or closes the document. -/
theorem step (mirrors : stack.Mirrors (.ofText text) tokens) (onLine : token.StartsOnLine text)
    (state : ReadState) :
    stack.ReadsOn text tokens token state ∨ stack.ClosesDocument text tokens token state := by
  by_cases opens : token.nesting = 1
  · exact .inl (mirrors.readsOn_opening onLine opens state)
  by_cases closing : token.nesting = -1
  · exact mirrors.readsOn_or_closesDocument closing state
  by_cases inline : token.kind = .inline
  · exact .inl (mirrors.readsOn_inline onLine opens closing state inline)
  · exact .inl (mirrors.readsOn_leaf onLine opens closing state inline)

end Step

/-- At the end of the tokens the blocks that are still open count as they stand. -/
theorem exists_finishBlocks (mirrors : stack.Mirrors source tokens) :
    ∃ span parts, finishBlocks stack.blocks stack.root
        = .mk .document span (BlockPart.allNodes parts)
      ∧ MirrorsBlocks source tokens span parts := by
  obtain ⟨opened, finish, entries, finished⟩ := stack.exists_finishBlocks
  refine ⟨opened.span, opened.parts, finish, ?_, ?_, ?_, ?_⟩
  · rw [entries]
    exact mirrors.lists
  · intro placed member
    rcases finished placed member with isFinished | ⟨type, isNode, _⟩
    · exact (mirrors.finished placed isFinished).2
    · exact BlockPart.showsContent_of_node isNode
  · intro placed member closed
    rcases finished placed member with isFinished | ⟨type, _, isOpen⟩
    · exact (mirrors.finished placed isFinished).1
    · rw [mirrors.opens] at isOpen
      obtain ⟨opening, isOpen, _⟩ := mem_openTokens_iff.1 isOpen
      exact absurd isOpen (closed opening)
  · intro overclosed
    have balanced := mirrors.balanced
    omega

end OpenStack.Mirrors

/-! ## All tokens -/

/-- Behind tokens that were read, some of the others close one block more than is open, not only
all of them together. -/
def ClosesWithin (read rest : List BlockToken) : Prop :=
  ∃ count < rest.length, blockBalance (read ++ rest.take count) = -1

theorem not_closesWithin_nil (read : List BlockToken) : ¬ ClosesWithin read [] :=
  fun ⟨count, inside, _⟩ => Nat.not_lt_zero count inside

theorem closesWithin_cons_iff {read rest : List BlockToken} {token : BlockToken}
    (notClosed : blockBalance read ≠ -1) :
    ClosesWithin read (token :: rest) ↔ ClosesWithin (read ++ [token]) rest := by
  constructor
  · rintro ⟨_ | count, inside, closes⟩
    · rw [List.take_zero, List.append_nil] at closes
      exact absurd closes notClosed
    · refine ⟨count, Nat.lt_of_succ_lt_succ inside, ?_⟩
      rw [List.append_assoc]
      exact closes
  · rintro ⟨count, inside, closes⟩
    refine ⟨count + 1, Nat.succ_lt_succ inside, ?_⟩
    rw [List.append_assoc] at closes
    exact closes

/-- A run over all tokens ends with a tree that has their structure, or at the token behind the
one that closes the document. -/
theorem readBlocks_mirrors {text : Text} {read : List BlockToken} {stack : OpenStack}
    (mirrors : stack.Mirrors (.ofText text) read) (rest : List BlockToken)
    (onLines : ∀ token ∈ rest, token.StartsOnLine text) (state : ReadState) :
    (ClosesWithin read rest ∧ ∃ after,
        (readBlocks (.ofText text) (.inside stack.blocks stack.root) rest).Fails state
          .nothingOpen after)
      ∨ (¬ ClosesWithin read rest ∧ ∃ span parts after,
        (readBlocks (.ofText text) (.inside stack.blocks stack.root) rest).Gives state
          (.mk .document span (BlockPart.allNodes parts)) after
        ∧ MirrorsBlocks (.ofText text) (read ++ rest) span parts) := by
  induction rest generalizing read stack state with
  | nil =>
    obtain ⟨span, parts, finish, mirrored⟩ := mirrors.exists_finishBlocks
    refine .inr ⟨not_closesWithin_nil read, span, parts, state, ?_, ?_⟩
    · rw [readBlocks, finish]
      exact .pure _ _
    · rwa [List.append_nil]
  | cons token rest inductionHypothesis =>
    have notClosed : blockBalance read ≠ -1 := by
      rw [mirrors.balanced]
      omega
    rw [closesWithin_cons_iff notClosed, readBlocks]
    have onLine := onLines token List.mem_cons_self
    have onOtherLines : ∀ other ∈ rest, other.StartsOnLine text := fun other member =>
      onLines other (List.mem_cons_of_mem _ member)
    -- What was read grows by one token, and the stack keeps to it.
    rcases mirrors.step onLine state with
      ⟨next, between, gives, mirrored⟩ | ⟨span, parts, gives, balance, mirrored⟩
    · rcases inductionHypothesis mirrored onOtherLines between with
        ⟨closes, after, fails⟩ | ⟨closesNot, span, parts, after, later, whole⟩
      · exact .inl ⟨closes, after, .later gives fails⟩
      · rw [List.append_assoc] at whole
        exact .inr ⟨closesNot, span, parts, after, .bind gives later, whole⟩
    · cases rest with
      | nil =>
        exact .inr ⟨not_closesWithin_nil _, span, parts, state, .bind gives (.pure _ _), mirrored⟩
      | cons next others =>
        refine .inl ⟨⟨0, Nat.succ_pos _, ?_⟩, state, .later gives rfl⟩
        rw [List.take_zero, List.append_nil]
        exact balance

/-- There is no tree exactly if the tokens close more than they open before their last one, and
otherwise the tree has the structure of the tokens. -/
theorem buildTree_mirrors (text : Text) (tokens : List BlockToken)
    (onLines : ∀ token ∈ tokens, token.StartsOnLine text) :
    (∀ problem, (∃ after, (buildTree (.ofText text) tokens).Fails {} problem after)
        ↔ ClosesEarly tokens ∧ problem = .nothingOpen)
      ∧ (¬ ClosesEarly tokens → ∃ span parts after,
        (buildTree (.ofText text) tokens).Gives {}
          (.mk .document span (BlockPart.allNodes parts)) after
        ∧ MirrorsBlocks (.ofText text) tokens span parts) := by
  have started : (OpenStack.document ⟨⟨0, text.length⟩, [], []⟩).Mirrors (.ofText text) [] :=
    ⟨rfl, rfl, .nil, List.forall_mem_nil _⟩
  rcases readBlocks_mirrors started tokens onLines {} with
    ⟨closes, after, fails⟩ | ⟨closesNot, span, parts, after, gives, mirrored⟩
  · refine ⟨fun problem => ⟨?_, ?_⟩, fun closesNot => absurd closes closesNot⟩
    · rintro ⟨other, failsToo⟩
      have same := failsToo.symm.trans fails
      rw [Prod.mk.injEq, Except.error.injEq] at same
      exact ⟨closes, same.1⟩
    · rintro ⟨_, rfl⟩
      exact ⟨after, fails⟩
  · refine ⟨fun problem => ⟨?_, ?_⟩, fun _ => ⟨span, parts, after, gives, mirrored⟩⟩
    · rintro ⟨other, fails⟩
      exact (gives.not_fails fails).elim
    · rintro ⟨closes, _⟩
      exact absurd closes closesNot

instance (text : Text) (token : BlockToken) : Decidable (token.StartsOnLine text) :=
  inferInstanceAs (Decidable (∀ range ∈ token.lineRange, _))

instance (tokens : List BlockToken) : Decidable (ClosesEarly tokens) :=
  inferInstanceAs (Decidable (∃ count < tokens.length, _))

/-- The tokens of a table that consists of its head. -/
def headTokens : List BlockToken :=
  BlockToken.enclose .table (some (0, 2)) <| BlockToken.enclose .tableHead (some (0, 1)) <|
    BlockToken.enclose .tableRow (some (0, 1)) <| BlockToken.enclose .headerCell none
      [{ kind := .inline, content := "a".toList, lineRange := some (0, 1),
         children := some [.ofText "a".toList 0] }]

/-- The head of a table leaves no node between the table and its row. -/
theorem buildTree_mirrors_head : ∃ span parts after,
    (buildTree (.ofText "| a |\n|---|".toList) headTokens).Gives {}
      (.mk .document span (BlockPart.allNodes parts)) after
    ∧ (BlockPart.walkParts none parts).map (fun placed => (placed.part.index, placed.part.trace))
      = [(0, .node .table), (2, .node .tableRow), (3, .node .tableCell), (4, .content)] := by
  obtain ⟨span, parts, after, gives, mirrored⟩ :=
    (buildTree_mirrors "| a |\n|---|".toList headTokens (by decide)).2 (by decide)
  have traces : blockTraces headTokens
      = [(0, .node .table), (2, .node .tableRow), (3, .node .tableCell), (4, .content)] := by
    decide
  have inOrder := mirrored.lists.inOrder
  rw [List.map_map, traces] at inOrder
  exact ⟨span, parts, after, gives, inOrder⟩

end JapaneseSpacing
