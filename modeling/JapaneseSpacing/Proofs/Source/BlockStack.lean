import JapaneseSpacing.Proofs.Source.OpenTokens

/-!
# Open blocks that know their tokens

While a document is read, its open blocks are a stack of nodes that do not tell which tokens they
come from. `OpenStack` is such a stack whose nodes know the numbers of their tokens; forgetting
the numbers gives the open blocks (`OpenStack.blocks`, `OpenStack.root`). What is added to the
innermost node comes last among all that was read (`entries_append`). Closing a block leaves
everything in its place (`exists_closeBlock`), and so does the end of the document, where blocks
may still be open (`exists_finishBlocks`).
-/

namespace JapaneseSpacing

/-! ## Parts of a document -/

/-- A part of a document: the node of a block with the number of its token, or the nodes that
the token with this number found in its content. -/
inductive BlockPart where
  | block (index : Nat) (type : NodeType) (span : Span) (parts : List BlockPart)
  | content (index : Nat) (nodes : List Node)

/-- A part with the number of the token whose node is directly above it, if it is not the
document. -/
structure PlacedPart where
  parent : Option Nat
  part : BlockPart

namespace BlockPart

mutual

/-- The nodes of a part. -/
def nodes : BlockPart → List Node
  | block _ type span parts => [.mk type span (allNodes parts)]
  | content _ nodes => nodes

/-- The nodes of neighbouring parts. -/
def allNodes : List BlockPart → List Node
  | [] => []
  | part :: rest => nodes part ++ allNodes rest

end

mutual

/-- A part and the parts inside it in document order. -/
def walkBelow (parent : Option Nat) : BlockPart → List PlacedPart
  | block index type span parts =>
    ⟨parent, block index type span parts⟩ :: walkParts (some index) parts
  | content index nodes => [⟨parent, content index nodes⟩]

/-- Neighbouring parts and the parts inside them in document order. -/
def walkParts (parent : Option Nat) : List BlockPart → List PlacedPart
  | [] => []
  | part :: rest => walkBelow parent part ++ walkParts parent rest

end

/-- The number of the token that left a part. -/
def index : BlockPart → Nat
  | block index _ _ _ => index
  | content index _ => index

/-- What the token of a part left. -/
def trace : BlockPart → BlockTrace
  | block _ type _ _ => .node type
  | content _ _ => .content

theorem allNodes_append (parts more : List BlockPart) :
    allNodes (parts ++ more) = allNodes parts ++ allNodes more := by
  induction parts with
  | nil => rfl
  | cons part rest inductionHypothesis =>
    rw [List.cons_append, allNodes, allNodes, inductionHypothesis, List.append_assoc]

theorem allNodes_single (part : BlockPart) : allNodes [part] = part.nodes := by
  rw [allNodes, allNodes, List.append_nil]

theorem walkParts_append (parent : Option Nat) (parts more : List BlockPart) :
    walkParts parent (parts ++ more) = walkParts parent parts ++ walkParts parent more := by
  induction parts with
  | nil => rfl
  | cons part rest inductionHypothesis =>
    rw [List.cons_append, walkParts, walkParts, inductionHypothesis, List.append_assoc]

theorem walkParts_single (parent : Option Nat) (part : BlockPart) :
    walkParts parent [part] = part.walkBelow parent := by
  rw [walkParts, walkParts, List.append_nil]

end BlockPart

/-- The entry of a part in the list of all that was left. -/
def PlacedPart.entry (placed : PlacedPart) : BlockEntry :=
  ⟨placed.parent, placed.part.index, placed.part.trace⟩

/-- The span reaches from the first to the last of some nodes. -/
structure Span.Reaches (span : Span) (nodes : List Node) : Prop where
  first : ∀ node ∈ nodes.head?, span.start ≤ node.span.start
  last : ∀ node ∈ nodes.getLast?, node.span.stop ≤ span.stop

/-- The types of nodes that keep the span of their inline content. -/
def NodeType.keepsSpan (type : NodeType) : Prop :=
  type ∈ [NodeType.paragraph, .header, .tableCell]

instance (type : NodeType) : Decidable type.keepsSpan :=
  inferInstanceAs (Decidable (type ∈ _))

/-- The span of a node reaches over what is in it, unless it is that of its inline content. -/
def BlockPart.Reaches : BlockPart → Prop
  | block _ type span parts => ¬ type.keepsSpan → span.Reaches (allNodes parts)
  | content _ _ => True

namespace OpenNode

theorem widen_eq (node : OpenNode) : node.widen = { node with span := node.widen.span } := by
  rw [widen]
  split
  · split <;> rfl
  · rfl

/-- A node that is closed reaches over its children. -/
theorem widen_reaches (node : OpenNode) (widens : ¬ node.type.keepsSpan) :
    node.widen.span.Reaches node.children := by
  rw [widen]
  split
  · next first last isFirst isLast =>
    have notKept : [NodeType.paragraph, .header, .tableCell].contains node.type = false := by
      rw [← Bool.not_eq_true, List.contains_iff_mem]
      exact widens
    rw [notKept, if_neg Bool.false_ne_true]
    constructor
    · intro other isOther
      rw [isFirst, Option.mem_some] at isOther
      rw [← isOther]
      exact Int.min_le_right _ _
    · intro other isOther
      rw [isLast, Option.mem_some] at isOther
      rw [← isOther]
      exact Int.le_max_right _ _
  · next noChildren =>
    have empty : node.children = [] := by
      cases isChildren : node.children with
      | nil => rfl
      | cons first rest =>
        obtain ⟨last, isLast⟩ := List.getLast?_isSome.2 (List.cons_ne_nil first rest) |>
          Option.isSome_iff_exists.1
        rw [isChildren] at noChildren
        exact absurd isLast (noChildren first last rfl)
    rw [empty]
    exact ⟨by simp, by simp⟩

end OpenNode

/-! ## The stack -/

/-- What is inside an open node: its parts so far, and the numbers of the elements without a node
that are open in it, the last one first. -/
structure OpenParts where
  span : Span
  parts : List BlockPart := []
  transparent : List Nat := []

namespace OpenParts

/-- The open node of some type around the parts. -/
def node (opened : OpenParts) (type : NodeType) : OpenNode :=
  ⟨type, opened.span, BlockPart.allNodes opened.parts⟩

/-- One more part behind the others. -/
def append (part : BlockPart) (opened : OpenParts) : OpenParts :=
  { opened with parts := opened.parts ++ [part] }

/-- The same parts inside another span. -/
def spanning (span : Span) (opened : OpenParts) : OpenParts :=
  { opened with span }

/-- One more element without a node is open. -/
def push (index : Nat) (opened : OpenParts) : OpenParts :=
  { opened with transparent := index :: opened.transparent }

/-- The elements without a node as open blocks. -/
def blocks (opened : OpenParts) : List OpenBlock :=
  List.replicate opened.transparent.length .transparent

/-- The elements without a node as open tokens. -/
def opens (opened : OpenParts) : List (Nat × Option NodeType) :=
  opened.transparent.map (·, none)

theorem node_append (part : BlockPart) (opened : OpenParts) (type : NodeType) :
    (opened.append part).node type
      = { opened.node type with children := (opened.node type).children ++ part.nodes } := by
  rw [node, node, append, BlockPart.allNodes_append, BlockPart.allNodes_single]

end OpenParts

/-- The open nodes of a document from the innermost one out, each with the number of the token
that opened it. -/
inductive OpenStack where
  | document (opened : OpenParts)
  | inside (index : Nat) (type : NodeType) (opened : OpenParts) (outer : OpenStack)

namespace OpenStack

/-- The number of the token that opened the innermost node, if it is not the document. -/
def index? : OpenStack → Option Nat
  | document _ => none
  | inside index _ _ _ => some index

/-- The innermost open node. -/
def inner : OpenStack → OpenNode
  | document opened => opened.node .document
  | inside _ type opened _ => opened.node type

/-- The stack with a change inside the innermost node. -/
def change (change : OpenParts → OpenParts) : OpenStack → OpenStack
  | document opened => document (change opened)
  | inside index type opened outer => inside index type (change opened) outer

/-- One more part in the innermost node. -/
def append (part : BlockPart) (stack : OpenStack) : OpenStack :=
  stack.change (·.append part)

/-- The open blocks. -/
def blocks : OpenStack → List OpenBlock
  | document opened => opened.blocks
  | inside _ type opened outer => opened.blocks ++ .node (opened.node type) :: outer.blocks

/-- The document around the open blocks. -/
def root : OpenStack → OpenNode
  | document opened => opened.node .document
  | inside _ _ _ outer => outer.root

/-- The open tokens, the last one first. -/
def opens : OpenStack → List (Nat × Option NodeType)
  | document opened => opened.opens
  | inside index type opened outer => opened.opens ++ (index, some type) :: outer.opens

/-- The entries of all that was read, in document order. -/
def entries : OpenStack → List BlockEntry
  | document opened => (BlockPart.walkParts none opened.parts).map PlacedPart.entry
  | inside index type opened outer =>
    outer.entries ++ ⟨outer.index?, index, .node type⟩
      :: (BlockPart.walkParts (some index) opened.parts).map PlacedPart.entry

/-- The parts that are not open. -/
def finished : OpenStack → List PlacedPart
  | document opened => BlockPart.walkParts none opened.parts
  | inside index _ opened outer =>
    outer.finished ++ BlockPart.walkParts (some index) opened.parts

section Change

variable (part : BlockPart) (span : Span) (stack : OpenStack)

theorem opens_append : (stack.append part).opens = stack.opens := by
  cases stack <;> rfl

/-- What is added to the innermost node comes behind all that was read. -/
theorem entries_append : (stack.append part).entries
    = stack.entries ++ (part.walkBelow stack.index?).map PlacedPart.entry := by
  cases stack with
  | document opened =>
    rw [append, change, entries, OpenParts.append, BlockPart.walkParts_append,
      BlockPart.walkParts_single, List.map_append]
    rfl
  | inside index type opened outer =>
    rw [append, change, entries, OpenParts.append, BlockPart.walkParts_append,
      BlockPart.walkParts_single, List.map_append, entries, List.append_assoc, List.cons_append]
    rfl

theorem finished_append :
    (stack.append part).finished = stack.finished ++ part.walkBelow stack.index? := by
  cases stack with
  | document opened =>
    rw [append, change, finished, OpenParts.append, BlockPart.walkParts_append,
      BlockPart.walkParts_single]
    rfl
  | inside index type opened outer =>
    rw [append, change, finished, OpenParts.append, BlockPart.walkParts_append,
      BlockPart.walkParts_single, finished, List.append_assoc]
    rfl

/-- Only the innermost node's parts and the elements open in it tell what was read. -/
theorem spanning_same : (stack.change (·.spanning span)).opens = stack.opens
    ∧ (stack.change (·.spanning span)).index? = stack.index?
    ∧ (stack.change (·.spanning span)).entries = stack.entries
    ∧ (stack.change (·.spanning span)).finished = stack.finished := by
  cases stack <;> exact ⟨rfl, rfl, rfl, rfl⟩

/-- An element without a node that is opened only shows among what is open. -/
theorem push_same (index : Nat) : (stack.change (·.push index)).opens = (index, none) :: stack.opens
    ∧ (stack.change (·.push index)).blocks = .transparent :: stack.blocks
    ∧ (stack.change (·.push index)).root = stack.root
    ∧ (stack.change (·.push index)).entries = stack.entries
    ∧ (stack.change (·.push index)).finished = stack.finished := by
  cases stack <;> exact ⟨rfl, rfl, rfl, rfl, rfl⟩

end Change

/-! ## Reading blocks -/

theorem changeInnermost_transparent (change : OpenNode → OpenNode) (count : Nat)
    (blocks : List OpenBlock) (document : OpenNode) :
    changeInnermost change (List.replicate count .transparent ++ blocks) document
      = (List.replicate count .transparent ++ (changeInnermost change blocks document).1,
        (changeInnermost change blocks document).2) := by
  induction count with
  | zero => rfl
  | succ count inductionHypothesis =>
    rw [List.replicate_succ, List.cons_append, changeInnermost, inductionHypothesis]
    rfl

theorem innermost_transparent (count : Nat) (blocks : List OpenBlock) (document : OpenNode) :
    innermost (List.replicate count .transparent ++ blocks) document
      = innermost blocks document := by
  induction count with
  | zero => rfl
  | succ count inductionHypothesis =>
    rw [List.replicate_succ, List.cons_append, innermost, inductionHypothesis]

theorem innermost_blocks (stack : OpenStack) : innermost stack.blocks stack.root = stack.inner := by
  cases stack with
  | document opened =>
    have read := innermost_transparent opened.transparent.length [] (opened.node .document)
    rw [List.append_nil] at read
    exact read
  | inside index type opened outer => exact innermost_transparent _ _ _

/-- A change of the innermost open node is a change inside the stack. -/
theorem changeInnermost_blocks {changeNode : OpenNode → OpenNode}
    {changeParts : OpenParts → OpenParts} {stack : OpenStack}
    (sameNode : changeNode stack.inner = (stack.change changeParts).inner)
    (sameOpen : ∀ opened, (changeParts opened).transparent = opened.transparent) :
    changeInnermost changeNode stack.blocks stack.root
      = ((stack.change changeParts).blocks, (stack.change changeParts).root) := by
  cases stack with
  | document opened =>
    have changed := changeInnermost_transparent changeNode opened.transparent.length []
      (opened.node .document)
    rw [List.append_nil] at changed
    rw [blocks, OpenParts.blocks, root, changed, change, blocks, OpenParts.blocks, sameOpen, root]
    rw [changeInnermost, List.append_nil]
    exact congrArg _ sameNode
  | inside index type opened outer =>
    rw [blocks, OpenParts.blocks, root, changeInnermost_transparent, change, blocks,
      OpenParts.blocks, sameOpen, root, changeInnermost]
    exact congrArg (fun node => (List.replicate opened.transparent.length OpenBlock.transparent
      ++ OpenBlock.node node :: outer.blocks, outer.root)) sameNode

theorem appendInnermost_blocks (stack : OpenStack) (part : BlockPart) {child : Node}
    (isPart : part.nodes = [child]) : appendInnermost child stack.blocks stack.root
      = ((stack.append part).blocks, (stack.append part).root) := by
  refine changeInnermost_blocks ?_ fun _ => rfl
  cases stack with
  | document opened =>
    rw [change, inner, inner, OpenParts.node_append, isPart]
    rfl
  | inside index type opened outer =>
    rw [change, inner, inner, OpenParts.node_append, isPart]
    rfl

/-- Filling the innermost node with the nodes of a content gives it one more part. -/
theorem fill_blocks (stack : OpenStack) (index : Nat) (span : Span) (nodes : List Node) :
    changeInnermost (fun _ => { stack.inner with span, children := stack.inner.children ++ nodes })
        stack.blocks stack.root
      = (((stack.change (·.spanning span)).append (.content index nodes)).blocks,
        ((stack.change (·.spanning span)).append (.content index nodes)).root) := by
  have both : (stack.change (·.spanning span)).append (.content index nodes)
      = stack.change fun opened => (opened.spanning span).append (.content index nodes) := by
    cases stack <;> rfl
  rw [both]
  refine changeInnermost_blocks ?_ fun _ => rfl
  cases stack with
  | document opened =>
    rw [change, inner, inner, OpenParts.node_append]
    rfl
  | inside index type opened outer =>
    rw [change, inner, inner, OpenParts.node_append]
    rfl

/-- The innermost node is widened. -/
theorem widen_blocks (stack : OpenStack) :
    changeInnermost OpenNode.widen stack.blocks stack.root
      = ((stack.change (·.spanning stack.inner.widen.span)).blocks,
        (stack.change (·.spanning stack.inner.widen.span)).root) := by
  refine changeInnermost_blocks ?_ fun _ => rfl
  rw [OpenNode.widen_eq]
  cases stack <;> rfl

/-- The blocks that are left when a block is closed. Everything that was read stays in its place,
and what is finished by closing it reaches over what is in it. -/
structure Closes (stack next : OpenStack) : Prop where
  opens : ∃ entry, stack.opens = entry :: next.opens
  closeBlock_eq : closeBlock stack.blocks stack.root = .inside next.blocks next.root
  entries : next.entries = stack.entries
  finished : ∀ placed ∈ next.finished, placed ∈ stack.finished
    ∨ (∃ type, placed.part.trace = .node type) ∧ placed.part.Reaches

/-- Closing an element without a node widens the node around it. -/
theorem closes_push (index : Nat) (stack : OpenStack) :
    Closes (stack.change (·.push index))
      (stack.change (·.spanning stack.inner.widen.span)) := by
  obtain ⟨opens, blocks, root, entries, finished⟩ := stack.push_same index
  obtain ⟨opensSame, _, entriesSame, finishedSame⟩ :=
    stack.spanning_same stack.inner.widen.span
  refine ⟨⟨(index, none), ?_⟩, ?_, ?_, ?_⟩
  · rw [opens, opensSame]
  · rw [blocks, root, closeBlock, widen_blocks]
  · rw [entries, entriesSame]
  · rw [finished, finishedSame]
    exact fun placed member => .inl member

/-- Closing a node makes it the last part of the node around it. -/
theorem closes_inside (index : Nat) (type : NodeType) (span : Span) (parts : List BlockPart)
    (outer : OpenStack) :
    Closes (inside index type ⟨span, parts, []⟩ outer) (outer.append
      (.block index type (OpenNode.mk type span (BlockPart.allNodes parts)).widen.span parts)) := by
  refine ⟨⟨(index, some type), ?_⟩, ?_, ?_, ?_⟩
  · rw [opens_append]
    rfl
  · have widened := OpenNode.widen_eq ⟨type, span, BlockPart.allNodes parts⟩
    have closed := outer.appendInnermost_blocks (.block index type
      (OpenNode.mk type span (BlockPart.allNodes parts)).widen.span parts) rfl
    change closeBlock (.node ⟨type, span, BlockPart.allNodes parts⟩ :: outer.blocks) outer.root = _
    rw [closeBlock, widened]
    exact congrArg (fun both => OpenBlocks.inside both.1 both.2) closed
  · rw [entries_append]
    rfl
  · intro placed member
    rw [finished_append, List.mem_append, BlockPart.walkBelow, List.mem_cons] at member
    rcases member with earlier | rfl | within
    · exact .inl (List.mem_append_left _ earlier)
    · exact .inr ⟨⟨type, rfl⟩, fun widens => OpenNode.widen_reaches _ widens⟩
    · exact .inl (List.mem_append_right _ within)

/-- Where nothing is open the document is closed, anywhere else the block that was opened last. -/
theorem closeBlock_cases (stack : OpenStack) :
    (∃ opened, stack = document opened ∧ stack.opens = []
        ∧ closeBlock stack.blocks stack.root = .closed (opened.node .document).widen.close)
      ∨ ∃ next, Closes stack next := by
  rcases stack with ⟨span, parts, _ | ⟨innermost, more⟩⟩
    | ⟨index, type, ⟨span, parts, _ | ⟨innermost, more⟩⟩, outer⟩
  · exact .inl ⟨⟨span, parts, []⟩, rfl, rfl, rfl⟩
  · exact .inr ⟨_, closes_push innermost (document ⟨span, parts, more⟩)⟩
  · exact .inr ⟨_, closes_inside index type span parts outer⟩
  · exact .inr ⟨_, closes_push innermost (inside index type ⟨span, parts, more⟩ outer)⟩

/-! ## The end of a document -/

theorem finishBlocks_transparent (count : Nat) (blocks : List OpenBlock) (document : OpenNode) :
    finishBlocks (List.replicate count .transparent ++ blocks) document
      = finishBlocks blocks document := by
  induction count with
  | zero => rfl
  | succ count inductionHypothesis =>
    rw [List.replicate_succ, List.cons_append, finishBlocks, inductionHypothesis]

theorem finishBlocks_node_transparent (node : OpenNode) (count : Nat) (blocks : List OpenBlock)
    (document : OpenNode) :
    finishBlocks (.node node :: (List.replicate count .transparent ++ blocks)) document
      = finishBlocks (.node node :: blocks) document := by
  induction count with
  | zero => rfl
  | succ count inductionHypothesis =>
    rw [List.replicate_succ, List.cons_append, finishBlocks]
    exact inductionHypothesis

/-- At the end an open node becomes the last part of the node around it as it stands. -/
theorem finishBlocks_node (stack : OpenStack) (node : OpenNode) (part : BlockPart)
    (isPart : part.nodes = [node.close]) :
    finishBlocks (.node node :: stack.blocks) stack.root
      = finishBlocks (stack.append part).blocks (stack.append part).root := by
  cases stack with
  | document opened =>
    have dropped := finishBlocks_node_transparent node opened.transparent.length []
      (opened.node .document)
    have finished := finishBlocks_transparent opened.transparent.length []
      ((opened.append part).node .document)
    rw [List.append_nil] at dropped finished
    change finishBlocks (.node node :: List.replicate opened.transparent.length .transparent)
        (opened.node .document)
      = finishBlocks (List.replicate opened.transparent.length .transparent)
        ((opened.append part).node .document)
    rw [dropped, finished, OpenParts.node_append, isPart, finishBlocks, finishBlocks, finishBlocks]
    rfl
  | inside index type opened outer =>
    change finishBlocks (.node node :: (List.replicate opened.transparent.length .transparent
          ++ .node (opened.node type) :: outer.blocks)) outer.root
      = finishBlocks (List.replicate opened.transparent.length .transparent
          ++ .node ((opened.append part).node type) :: outer.blocks) outer.root
    rw [finishBlocks_node_transparent, finishBlocks_transparent, finishBlocks,
      OpenParts.node_append, isPart]
    rfl

/-- How many nodes are around the innermost one. -/
def depth : OpenStack → Nat
  | document _ => 0
  | inside _ _ _ outer => outer.depth + 1

theorem depth_append (part : BlockPart) (stack : OpenStack) :
    (stack.append part).depth = stack.depth := by
  cases stack <;> rfl

/-- At the end of a document everything that was read is in its place, and what is not finished
is open. -/
theorem exists_finishBlocks (stack : OpenStack) :
    ∃ opened : OpenParts, finishBlocks stack.blocks stack.root = (opened.node .document).close
      ∧ (BlockPart.walkParts none opened.parts).map PlacedPart.entry = stack.entries
      ∧ ∀ placed ∈ BlockPart.walkParts none opened.parts, placed ∈ stack.finished
        ∨ ∃ type, placed.part.trace = .node type
          ∧ (placed.part.index, some type) ∈ stack.opens := by
  induction isDepth : stack.depth generalizing stack with
  | zero =>
    cases stack with
    | document opened =>
      refine ⟨opened, ?_, rfl, fun placed member => .inl member⟩
      have finished := finishBlocks_transparent opened.transparent.length []
        (opened.node .document)
      rw [List.append_nil, finishBlocks] at finished
      exact finished
    | inside index type opened outer => cases isDepth
  | succ depth inductionHypothesis =>
    cases stack with
    | document opened => cases isDepth
    | inside index type opened outer =>
      have shallower :
          (outer.append (.block index type opened.span opened.parts)).depth = depth := by
        rw [depth_append]
        exact Nat.succ.inj isDepth
      obtain ⟨whole, finish, entries, finished⟩ := inductionHypothesis _ shallower
      refine ⟨whole, ?_, ?_, fun placed member => ?_⟩
      · rw [← finish, ← finishBlocks_node outer (opened.node type) _ rfl]
        exact finishBlocks_transparent _ _ _
      · rw [entries, entries_append]
        rfl
      · rcases finished placed member with isFinished | ⟨placedType, isNode, isOpen⟩
        · rw [finished_append, List.mem_append, BlockPart.walkBelow, List.mem_cons] at isFinished
          rcases isFinished with earlier | rfl | within
          · exact .inl (List.mem_append_left _ earlier)
          · exact .inr ⟨type, rfl, List.mem_append_right _ List.mem_cons_self⟩
          · exact .inl (List.mem_append_right _ within)
        · rw [opens_append] at isOpen
          exact .inr ⟨placedType, isNode,
            List.mem_append_right _ (List.mem_cons_of_mem _ isOpen)⟩

end OpenStack

end JapaneseSpacing
