import JapaneseSpacing.Proofs.Source.LinkEnd
import JapaneseSpacing.Proofs.Source.Locate

/-!
# Walks wherever the lines stand

How the tokens of a content are read does not depend on where its lines are found in the
document: the places of the lines only decide where the nodes come to lie. One step of the
walk gives the same walk, relocated (`InRange.relocates_node`), and so does the whole walk
(`InRange.relocates_tokens`). In particular a line that is not found keeps its nodes.
-/

namespace JapaneseSpacing

/-! ## Relocated nodes -/

/-- A span whose ends are sent to their places. -/
def Span.relocate (place : Int → Int) (span : Span) : Span :=
  ⟨place span.start, place span.stop⟩

mutual

/-- A node whose span and descendants are sent to their places. -/
def Node.relocate (place : Int → Int) : Node → Node
  | .mk type span children => .mk type (span.relocate place) (Node.relocateAll place children)

/-- Neighbouring nodes sent to their places. -/
def Node.relocateAll (place : Int → Int) : List Node → List Node
  | [] => []
  | node :: rest => node.relocate place :: Node.relocateAll place rest

end

theorem Node.relocateAll_append (place : Int → Int) (nodes more : List Node) :
    Node.relocateAll place (nodes ++ more)
      = Node.relocateAll place nodes ++ Node.relocateAll place more := by
  induction nodes with
  | nil => rfl
  | cons node rest inductionHypothesis =>
    rw [List.cons_append, Node.relocateAll, inductionHypothesis]
    rfl

mutual

/-- What stays where it is does not change. -/
theorem Node.relocate_id : ∀ node : Node, node.relocate (fun offset => offset) = node
  | .mk _ _ children => by
    rw [Node.relocate, Node.relocateAll_id children]
    rfl

theorem Node.relocateAll_id :
    ∀ nodes : List Node, Node.relocateAll (fun offset => offset) nodes = nodes
  | [] => rfl
  | node :: rest => by
    rw [Node.relocateAll, Node.relocate_id node, Node.relocateAll_id rest]

end

/-- An open node sent to its place. -/
def OpenNode.relocate (place : Int → Int) (node : OpenNode) : OpenNode :=
  ⟨node.type, node.span.relocate place, Node.relocateAll place node.children⟩

/-- Open nodes, the innermost first, sent to their places. The last one stands for the
container `base`, which has a place and children of its own. -/
def OpenNode.relocateStack (place : Int → Int) (base : OpenNode) :
    OpenNode → List OpenNode → OpenNode × List OpenNode
  | bottom, [] =>
    ({ base with children := base.children ++ Node.relocateAll place bottom.children }, [])
  | inner, parent :: outer =>
    let moved := OpenNode.relocateStack place base parent outer
    (inner.relocate place, moved.1 :: moved.2)

namespace InlineWalk

/-- A walk over a content whose offsets are sent to their places, in a container. -/
def relocate (place : Int → Int) (base : OpenNode) (walk : InlineWalk) : InlineWalk :=
  let moved := OpenNode.relocateStack place base walk.inner walk.outer
  { walk with inner := moved.1, outer := moved.2 }

variable (place : Int → Int) (base : OpenNode) (walk : InlineWalk)

theorem relocate_append (child : Node) :
    (walk.append child).relocate place base
      = (walk.relocate place base).append (child.relocate place) := by
  rcases walk with ⟨inner, outer, linkStops, cursor, pending⟩
  cases outer with
  | nil =>
    simp [relocate, append, OpenNode.relocateStack, OpenNode.append, Node.relocateAll_append,
      Node.relocateAll]
  | cons parent outer =>
    simp [relocate, append, OpenNode.relocateStack, OpenNode.append, OpenNode.relocate,
      Node.relocateAll_append, Node.relocateAll]

theorem relocate_leave :
    walk.leave.relocate place base = (walk.relocate place base).leave := by
  rcases walk with ⟨inner, outer, linkStops, cursor, pending⟩
  cases outer with
  | nil => rfl
  | cons parent outer =>
    have appended := relocate_append place base ⟨parent, outer, linkStops, cursor, pending⟩
      inner.close
    exact appended

theorem relocate_stopInner (stop : Int) :
    (walk.stopInner stop).relocate place base
      = (walk.relocate place base).stopInner (place stop) := by
  rcases walk with ⟨inner, outer, linkStops, cursor, pending⟩
  cases outer with
  | nil => rfl
  | cons parent outer => rfl

theorem relocate_container :
    (walk.relocate place base).container
      = { base with
          children := base.children ++ Node.relocateAll place walk.container.children } := by
  rcases walk with ⟨inner, outer, linkStops, cursor, pending⟩
  induction outer generalizing inner with
  | nil => rfl
  | cons parent outer inductionHypothesis =>
    have left := relocate_leave place base ⟨inner, parent :: outer, linkStops, cursor, pending⟩
    have closed := inductionHypothesis (parent.append inner.close)
    rw [show (⟨parent.append inner.close, outer, linkStops, cursor, pending⟩ : InlineWalk)
      = leave ⟨inner, parent :: outer, linkStops, cursor, pending⟩ from rfl, left] at closed
    exact closed

/-- The offsets that a walk keeps lie at or behind the content's start. -/
structure InRange (walk : InlineWalk) : Prop where
  cursor : 0 ≤ walk.cursor
  pending : ∀ span ∈ walk.pending, 0 ≤ span.start ∧ 0 ≤ span.stop
  linkStops : ∀ stop ∈ walk.linkStops, 0 ≤ stop

end InlineWalk

/-- Offsets into the content are sent to their places in the document. -/
def LineOffsets.SendTo (offsets : LineOffsets) (place : Int → Int) : Prop :=
  ∀ offset : Int, 0 ≤ offset → offsets.locate offset = .ok (place offset)

theorem LineOffsets.SendTo.span {offsets : LineOffsets} {place : Int → Int}
    (sendTo : offsets.SendTo place) (span : Span) (start : 0 ≤ span.start) (stop : 0 ≤ span.stop) :
    (offsets.span span.start span.stop).Leaves (span.relocate place) [] := by
  rw [LineOffsets.span, sendTo _ start, sendTo _ stop]
  exact .bind_quiet (.ofOffset _) (.bind_quiet (.ofOffset _) (.pure _))

/-! ## What is read in the content alone -/

theorem findToken_leaves (content : Text) (cursor : Int) (kind : TokenKind) (needle : Text) :
    ∃ found noted, (findToken content cursor kind needle).Leaves found noted
      ∧ ∀ start ∈ found, 0 ≤ start := by
  rw [findToken]
  cases occurrence : if needle.isEmpty then none
      else (content.find? needle cursor content.length).map Int.ofNat with
  | none => exact ⟨none, _, .then_quiet (.note _) (.pure _), by simp⟩
  | some start =>
    refine ⟨some start, [], .pure _, ?_⟩
    rintro _ ⟨⟩
    split at occurrence
    · cases occurrence
    · obtain ⟨place, _, rfl⟩ := Option.map_eq_some_iff.1 occurrence
      exact Int.natCast_nonneg place

theorem getD_inside {found : Option Int} {cursor : Int} (inside : ∀ start ∈ found, 0 ≤ start)
    (cursorInside : 0 ≤ cursor) : 0 ≤ found.getD cursor := by
  cases found with
  | none => exact cursorInside
  | some start => exact inside start rfl

theorem skipBalanced_inside {source : Text} {position : Int} (inside : 0 ≤ position)
    (opening closing : Char) :
    ∃ stop : Int, 0 ≤ stop ∧ skipBalanced source position opening closing = .ok stop := by
  rw [skipBalanced]
  split
  · exact ⟨_, Int.natCast_nonneg _, rfl⟩
  · exact ⟨_, by omega, rfl⟩

theorem linkSourceEnd_inside {source : Text} {position : Int} (inside : 0 ≤ position) :
    ∃ stop : Int, 0 ≤ stop ∧ linkSourceEnd source position = .ok stop := by
  obtain ⟨label, labelInside, labelRead⟩ := @skipBalanced_inside source position inside '[' ']'
  rw [linkSourceEnd_of_label labelRead, targetEnd]
  split
  · exact skipBalanced_inside labelInside '(' ')'
  · exact skipBalanced_inside labelInside '[' ']'
  · exact ⟨label, labelInside, rfl⟩

theorem codeSpanStop_inside (content markup : Text) (start : Int) :
    0 ≤ codeSpanStop content markup start := by
  rw [codeSpanStop]
  split
  · exact Int.natCast_nonneg _
  · exact Int.natCast_nonneg _

theorem linkSpan_leaves (token : Token) (label : Option Token) (content : Text) {cursor : Int}
    (inside : 0 ≤ cursor) :
    ∃ span noted, (linkSpan token label content cursor).Leaves span noted
      ∧ 0 ≤ span.start ∧ 0 ≤ span.stop := by
  unfold linkSpan
  split
  · dsimp only
    split
    · exact ⟨_, [], .pure _, by simp, by simp; omega⟩
    · exact ⟨_, _, .then_quiet (.note _) (.pure _), inside, inside⟩
  · split
    · dsimp only
      split
      · split
        · exact ⟨_, [], .pure _, by simp, by simp; omega⟩
        · exact ⟨_, [], .pure _, by simp, by simp⟩
      · exact ⟨_, [], .pure _, inside, inside⟩
    · dsimp only
      split
      · rename_i start _
        obtain ⟨stop, stopInside, read⟩ := linkSourceEnd_inside (Int.natCast_nonneg start)
        rw [read]
        exact ⟨_, [], .bind_quiet (.ofOffset _) (.pure _), by simp, stopInside⟩
      · exact ⟨_, _, .then_quiet (.note _) (.pure _), inside, inside⟩

/-! ## The walk -/

namespace InlineWalk

theorem InRange.leave {walk : InlineWalk} (inRange : walk.InRange) : walk.leave.InRange := by
  rcases walk with ⟨inner, outer, linkStops, cursor, pending⟩
  cases outer with
  | nil => exact inRange
  | cons parent outer => exact ⟨inRange.cursor, inRange.pending, inRange.linkStops⟩

theorem InRange.stopInner {walk : InlineWalk} (inRange : walk.InRange) (stop : Int) :
    (walk.stopInner stop).InRange := by
  rcases walk with ⟨inner, outer, linkStops, cursor, pending⟩
  cases outer with
  | nil => exact inRange
  | cons parent outer => exact ⟨inRange.cursor, inRange.pending, inRange.linkStops⟩

/-- A step that goes on from a walk in the same way wherever the lines of the content stand. -/
def Relocates (step : LineOffsets → InlineWalk → Reading InlineWalk) (walk : InlineWalk) : Prop :=
  ∃ (next : InlineWalk) (noted : List TreeNote), next.InRange
    ∧ ∀ offsets place base, LineOffsets.SendTo offsets place →
      (step offsets (walk.relocate place base)).Leaves (next.relocate place base) noted

theorem Relocates.bind {first second : LineOffsets → InlineWalk → Reading InlineWalk}
    {walk : InlineWalk} (relocates : walk.Relocates first)
    (others : ∀ next : InlineWalk, next.InRange → next.Relocates second) :
    walk.Relocates fun offsets walk => first offsets walk >>= second offsets := by
  obtain ⟨next, noted, inRange, read⟩ := relocates
  obtain ⟨last, more, lastInRange, readMore⟩ := others next inRange
  refine ⟨last, noted ++ more, lastInRange, fun offsets place base sendTo => ?_⟩
  exact .bind (read offsets place base sendTo) (readMore offsets place base sendTo)

variable {walk : InlineWalk} (inRange : walk.InRange)
include inRange

theorem InRange.relocates_ignored (item : TreeNote) :
    walk.Relocates fun _ walk => do
      Reading.note item
      return walk :=
  ⟨walk, [item], inRange, fun _ _ _ _ => .then_quiet (.note _) (.pure _)⟩

/-- Adding a node and going on behind it. -/
theorem InRange.relocates_leaf (type : NodeType) (span : Span) {cursor : Int}
    (start : 0 ≤ span.start) (stop : 0 ≤ span.stop) (cursorInside : 0 ≤ cursor) :
    walk.Relocates fun offsets walk => do
      let span ← offsets.span span.start span.stop
      return { walk.append (.leaf type span) with cursor } := by
  refine ⟨{ walk.append (.leaf type span) with cursor }, [],
    ⟨cursorInside, inRange.pending, inRange.linkStops⟩, fun offsets place base sendTo => ?_⟩
  have appended := relocate_append place base walk (.leaf type span)
  have moved : ({ walk.append (.leaf type span) with cursor } : InlineWalk).relocate place base
      = { (walk.relocate place base).append (.leaf type (span.relocate place)) with cursor } :=
    congrArg (fun walk : InlineWalk => { walk with cursor }) appended
  rw [moved]
  exact .bind_quiet (sendTo.span span start stop) (.pure _)

theorem InRange.relocates_flush : walk.Relocates fun offsets walk => walk.flush offsets := by
  cases started : walk.pending with
  | none =>
    refine ⟨walk, [], inRange, fun offsets place base _ => ?_⟩
    have noText : (walk.relocate place base).pending = none := started
    have read : ((walk.relocate place base).flush offsets).Leaves
        (walk.relocate place base) [] := by
      unfold flush
      rw [noText]
      exact .pure _
    exact read
  | some span =>
    obtain ⟨start, stop⟩ := inRange.pending span started
    refine ⟨{ walk.append (.leaf .str span) with pending := none }, [],
      ⟨inRange.cursor, by simp, inRange.linkStops⟩, fun offsets place base sendTo => ?_⟩
    have text : (walk.relocate place base).pending = some span := started
    have appended := relocate_append place base walk (.leaf .str span)
    have moved : ({ walk.append (.leaf .str span) with pending := none } : InlineWalk).relocate
        place base = { (walk.relocate place base).append (.leaf .str (span.relocate place)) with
          pending := none } :=
      congrArg (fun walk : InlineWalk => { walk with pending := none }) appended
    have read : ((walk.relocate place base).flush offsets).Leaves
        { (walk.relocate place base).append (.leaf .str (span.relocate place)) with
          pending := none } [] := by
      unfold flush
      rw [text]
      exact .bind_quiet (sendTo.span span start stop) (.pure _)
    rw [moved]
    exact read

theorem InRange.relocates_text (content : Text) (token : Token) (needle : Text) :
    walk.Relocates fun _ walk => walkText content token needle walk := by
  obtain ⟨found, noted, read, inside⟩ := findToken_leaves content walk.cursor token.kind needle
  cases found with
  | none => exact ⟨walk, noted, inRange, fun _ _ _ _ => .then_quiet read (.pure _)⟩
  | some start =>
    have startInside := inside start rfl
    refine ⟨{ walk with
        pending := some ⟨(walk.pending.map Span.start).getD start, start + needle.length⟩
        cursor := start + needle.length }, noted, ⟨by dsimp only; omega, ?_, inRange.linkStops⟩,
      fun _ place base _ => .then_quiet read ?_⟩
    · rintro _ ⟨⟩
      refine ⟨?_, by dsimp only; omega⟩
      cases pending : walk.pending with
      | none => exact startInside
      | some span => exact (inRange.pending span pending).1
    · rcases walk with ⟨inner, outer, linkStops, cursor, pending⟩
      cases pending with
      | none => exact .pure _
      | some span => exact .pure _

/-- Entering a node and going on inside. -/
theorem InRange.relocates_enter (type : NodeType) (span : Span) {cursor : Int}
    {linkStops : List Int} (start : 0 ≤ span.start) (stop : 0 ≤ span.stop)
    (cursorInside : 0 ≤ cursor) (stopsInside : ∀ stop ∈ linkStops, 0 ≤ stop) :
    walk.Relocates fun offsets walk => do
      let span ← offsets.span span.start span.stop
      return { walk.enter type span with linkStops, cursor } :=
  ⟨{ walk.enter type span with linkStops, cursor }, [],
    ⟨cursorInside, inRange.pending, stopsInside⟩, fun _ _ _ sendTo =>
      .bind_quiet (sendTo.span span start stop) (.pure _)⟩

theorem InRange.relocates_linkClosing (content : Text) (token : Token)
    (closes : token.kind = .closing .link) (label : Option Token) :
    walk.Relocates fun offsets walk => walkNode offsets content token label walk := by
  cases stops : walk.linkStops with
  | nil =>
    refine ⟨walk.leave, [], inRange.leave, fun offsets place base _ => ?_⟩
    have noStop : (walk.relocate place base).linkStops = [] := stops
    dsimp only
    rw [walkNode, closes, relocate_leave]
    simp only [noStop]
    exact .pure _
  | cons stop others =>
    have inside : ∀ other ∈ stop :: others, 0 ≤ other := stops ▸ inRange.linkStops
    refine ⟨{ walk.leave with linkStops := others, cursor := stop }, [],
      ⟨inside stop List.mem_cons_self, inRange.leave.pending,
        fun other member => inside other (List.mem_cons_of_mem _ member)⟩,
      fun offsets place base _ => ?_⟩
    have someStop : (walk.relocate place base).linkStops = stop :: others := stops
    have moved : ({ walk.leave with linkStops := others, cursor := stop } : InlineWalk).relocate
        place base
        = { (walk.relocate place base).leave with linkStops := others, cursor := stop } :=
      congrArg (fun walk : InlineWalk => { walk with linkStops := others, cursor := stop })
        (relocate_leave place base walk)
    dsimp only
    rw [walkNode, closes, moved]
    simp only [someStop]
    exact .pure _

/-- Closing an element at an offset of the content. -/
theorem InRange.relocates_stop {stop : Int} (inside : 0 ≤ stop) :
    walk.Relocates fun offsets walk => do
      let absolute ← .ofOffset (offsets.locate stop)
      return { (walk.stopInner absolute).leave with cursor := stop } := by
  have closed := (inRange.stopInner stop).leave
  refine ⟨{ (walk.stopInner stop).leave with cursor := stop }, [],
    ⟨inside, closed.pending, closed.linkStops⟩, fun offsets place base sendTo => ?_⟩
  have moved : ({ (walk.stopInner stop).leave with cursor := stop } : InlineWalk).relocate
      place base
      = { ((walk.relocate place base).stopInner (place stop)).leave with cursor := stop } := by
    rw [← relocate_stopInner, ← relocate_leave]
    rfl
  dsimp only
  rw [sendTo stop inside, moved]
  exact .bind_quiet (.ofOffset _) (.pure _)

theorem InRange.relocates_linkOpening (content : Text) (token : Token)
    (opens : token.kind = .opening .link) (label : Option Token) :
    walk.Relocates fun offsets walk => walkNode offsets content token label walk := by
  obtain ⟨span, noted, read, start, stop⟩ := linkSpan_leaves token label content inRange.cursor
  have cursorInside : 0 ≤ if token.markup = plainLinkMarkup then span.start
      else min (span.start + 1) span.stop := by
    split <;> omega
  have stopsInside : ∀ other ∈ span.stop :: walk.linkStops, 0 ≤ other := by
    rintro other (_ | ⟨_, member⟩)
    · exact stop
    · exact inRange.linkStops other member
  obtain ⟨next, more, nextInRange, goesOn⟩ :=
    inRange.relocates_enter .link span start stop cursorInside stopsInside
  refine ⟨next, noted ++ more, nextInRange, fun offsets place base sendTo => ?_⟩
  dsimp only
  rw [walkNode, opens]
  exact .bind read (goesOn offsets place base sendTo)

/-- Opening an element by its markup, or else where the walk stands. -/
theorem InRange.relocates_opening (type : NodeType) (content markup : Text) (kind : TokenKind) :
    walk.Relocates fun offsets walk => do
      let start := (← findToken content walk.cursor kind markup).getD walk.cursor
      let span ← offsets.span start start
      return { walk.enter type span with cursor := start + markup.length } := by
  obtain ⟨found, noted, read, inside⟩ := findToken_leaves content walk.cursor kind markup
  have start := getD_inside inside inRange.cursor
  have inner : 0 ≤ found.getD walk.cursor + markup.length := by omega
  obtain ⟨next, more, nextInRange, goesOn⟩ := inRange.relocates_enter type
    ⟨found.getD walk.cursor, found.getD walk.cursor⟩ start start inner inRange.linkStops
  exact ⟨next, noted ++ more, nextInRange, fun offsets place base sendTo =>
    .bind read (goesOn offsets place base sendTo)⟩

/-- Closing an element behind its markup, or else where the walk stands. -/
theorem InRange.relocates_closing (content markup : Text) (kind : TokenKind) :
    walk.Relocates fun offsets walk => do
      let stop := match ← findToken content walk.cursor kind markup with
        | some start => start + markup.length
        | none => walk.cursor
      let absolute ← .ofOffset (offsets.locate stop)
      return { (walk.stopInner absolute).leave with cursor := stop } := by
  obtain ⟨found, noted, read, inside⟩ := findToken_leaves content walk.cursor kind markup
  cases found with
  | none =>
    obtain ⟨next, more, nextInRange, goesOn⟩ := inRange.relocates_stop inRange.cursor
    exact ⟨next, noted ++ more, nextInRange, fun offsets place base sendTo =>
      .bind read (goesOn offsets place base sendTo)⟩
  | some start =>
    have startInside := inside start rfl
    have stop : 0 ≤ start + markup.length := by omega
    obtain ⟨next, more, nextInRange, goesOn⟩ := inRange.relocates_stop stop
    exact ⟨next, noted ++ more, nextInRange, fun offsets place base sendTo =>
      .bind read (goesOn offsets place base sendTo)⟩

theorem InRange.relocates_node (content : Text) (token : Token) (label : Option Token) :
    walk.Relocates fun offsets walk => walkNode offsets content token label walk := by
  have cursorInside := inRange.cursor
  rcases token with ⟨kind, nesting, level, shown, markup, info, href⟩
  cases kind with
  | opening element =>
    cases element with
    | link => exact inRange.relocates_linkOpening content _ rfl label
    | emphasis => exact inRange.relocates_opening .emphasis content markup _
    | strong => exact inRange.relocates_opening .strong content markup _
    | strikethrough => exact inRange.relocates_opening .delete content markup _
    | _ => exact inRange.relocates_ignored _
  | closing element =>
    cases element with
    | link => exact inRange.relocates_linkClosing content _ rfl label
    | emphasis => exact inRange.relocates_closing content markup _
    | strong => exact inRange.relocates_closing content markup _
    | strikethrough => exact inRange.relocates_closing content markup _
    | _ => exact inRange.relocates_ignored _
  | image =>
    obtain ⟨found, noted, read, inside⟩ := findToken_leaves content walk.cursor .image ['!', '[']
    have start := getD_inside inside cursorInside
    obtain ⟨stop, stopInside, ended⟩ :=
      @linkSourceEnd_inside content (found.getD walk.cursor + 1) (by omega)
    obtain ⟨next, more, nextInRange, goesOn⟩ :=
      inRange.relocates_leaf .image ⟨found.getD walk.cursor, stop⟩ start stopInside stopInside
    refine ⟨next, noted ++ more, nextInRange, fun offsets place base sendTo => ?_⟩
    have endedHere : linkSourceEnd content (found.getD (walk.relocate place base).cursor + 1)
        = .ok stop := ended
    refine .bind read (.bind_quiet ?_ (goesOn offsets place base sendTo))
    rw [endedHere]
    exact .ofOffset stop
  | codeSpan =>
    obtain ⟨found, noted, read, inside⟩ := findToken_leaves content walk.cursor .codeSpan markup
    have start := getD_inside inside cursorInside
    have stop := codeSpanStop_inside content markup (found.getD walk.cursor)
    obtain ⟨next, more, nextInRange, goesOn⟩ := inRange.relocates_leaf .code
      ⟨found.getD walk.cursor, codeSpanStop content markup (found.getD walk.cursor)⟩ start stop stop
    exact ⟨next, noted ++ more, nextInRange, fun offsets place base sendTo =>
      .bind read (goesOn offsets place base sendTo)⟩
  | hardBreak =>
    obtain ⟨found, noted, read, inside⟩ := findToken_leaves content walk.cursor .hardBreak ['\n']
    cases found with
    | none => exact ⟨walk, noted, inRange, fun _ _ _ _ => .then_quiet read (.pure _)⟩
    | some start =>
      have startInside := inside start rfl
      have stop : 0 ≤ start + 1 := by omega
      obtain ⟨next, more, nextInRange, goesOn⟩ :=
        inRange.relocates_leaf .lineBreak ⟨start, start + 1⟩ startInside stop stop
      exact ⟨next, noted ++ more, nextInRange, fun offsets place base sendTo =>
        .bind read (goesOn offsets place base sendTo)⟩
  | rawHtml =>
    obtain ⟨found, noted, read, inside⟩ := findToken_leaves content walk.cursor .rawHtml shown
    cases found with
    | none => exact ⟨walk, noted, inRange, fun _ _ _ _ => .then_quiet read (.pure _)⟩
    | some start =>
      have startInside := inside start rfl
      have stop : 0 ≤ start + shown.length := by omega
      obtain ⟨next, more, nextInRange, goesOn⟩ :=
        inRange.relocates_leaf .html ⟨start, start + shown.length⟩ startInside stop stop
      exact ⟨next, noted ++ more, nextInRange, fun offsets place base sendTo =>
        .bind read (goesOn offsets place base sendTo)⟩
  | _ => exact inRange.relocates_ignored _

/-- The whole walk goes on in the same way wherever the lines of the content stand. -/
theorem InRange.relocates_tokens (content : Text) (tokens : List Token) :
    walk.Relocates fun offsets walk => walkTokens offsets content walk tokens := by
  induction tokens generalizing walk with
  | nil => exact inRange.relocates_flush
  | cons token rest inductionHypothesis =>
    cases isText : token.textNeedle? with
    | some needle =>
      have read := (inRange.relocates_text content token needle).bind
        fun next nextInRange => inductionHypothesis nextInRange
      simpa only [walkTokens, isText] using read
    | none =>
      have read := (inRange.relocates_flush.bind fun next nextInRange =>
        nextInRange.relocates_node content token rest.head?).bind
        fun next nextInRange => inductionHypothesis nextInRange
      simpa only [walkTokens, isText, bind_assoc] using read

end InlineWalk

end JapaneseSpacing
