import JapaneseSpacing.Lint.Rule
import JapaneseSpacing.Proofs.Source.Relocation
import JapaneseSpacing.Proofs.Source.TreeWalk

/-!
# Lines that are not found

A line of an inline content that does not occur in the document counts as being found where
the search for it started. So the nodes of an inline token are the same in every document,
only their places differ, and a line that is not found keeps its nodes.
-/

namespace JapaneseSpacing

/-- How far the document has been read when a line of a content is looked for. -/
def floorBefore (text : Text) (number : Nat) (floor : Int) : List Text → Nat → Int
  | part :: rest, line + 1 =>
    floorBefore text (number + 1) (placeIn text part (searchWindow text number floor) + part.length)
      rest line
  | _, _ => floor

/-- Where a line of a content is looked for. -/
def lineWindow (text : Text) (number : Nat) (floor : Int) (parts : List Text) (line : Nat) :
    Int × Int :=
  searchWindow text (number + line) (floorBefore text number floor parts line)

theorem length_linePlaces (text : Text) (number : Nat) (floor : Int) (parts : List Text) :
    (linePlaces text number floor parts).length = parts.length := by
  induction parts generalizing number floor with
  | nil => rfl
  | cons part rest inductionHypothesis => simp [linePlaces, inductionHypothesis]

theorem linePlaces_getElem? {text part : Text} {number line : Nat} {floor : Int}
    {parts : List Text} (isPart : parts[line]? = some part) :
    (linePlaces text number floor parts)[line]?
      = some (placeIn text part (lineWindow text number floor parts line)) := by
  induction parts generalizing number floor line with
  | nil => simp at isPart
  | cons first rest inductionHypothesis =>
    cases line with
    | zero =>
      rw [List.getElem?_cons_zero, Option.some.injEq] at isPart
      rw [isPart]
      rfl
    | succ line =>
      have place := @inductionHypothesis (number + 1) line
        (placeIn text first (searchWindow text number floor) + first.length) isPart
      rw [linePlaces, List.getElem?_cons_succ, place, lineWindow, lineWindow, floorBefore,
        Nat.add_right_comm number 1 line]
      rfl

/-- The places of offsets into a content whose first line is looked for on line `number`. -/
def contentPlace (text : Text) (number : Nat) (floor : Int) (content : Text) (offset : Int) : Int :=
  match (LineOffsets.mk ((Text.startsFrom 0 (Text.lines content)).map Int.ofNat)
    (linePlaces text number floor (Text.lines content))).locate offset with
  | .ok place => place
  | .error _ => offset

/-- Where every line has a place, so has every offset. -/
theorem LineOffsets.Covers.exists_sendTo {offsets : LineOffsets} (covers : offsets.Covers) :
    ∃ place, offsets.SendTo place := by
  refine ⟨fun offset => (offsets.locate offset).toOption.getD offset, fun offset inside => ?_⟩
  obtain ⟨line, found, start, _, _, _, _, located⟩ := covers.exists_line inside
  dsimp only
  rw [located]
  rfl

section Places

variable {text content : Text} {number : Nat} {floor : Int}

theorem sendTo_contentPlace :
    (LineOffsets.mk ((Text.startsFrom 0 (Text.lines content)).map Int.ofNat)
      (linePlaces text number floor (Text.lines content))).SendTo
      (contentPlace text number floor content) := by
  intro offset inside
  have covers := @covers_startsFrom content (linePlaces text number floor (Text.lines content))
    (length_linePlaces _ _ _ _)
  obtain ⟨line, found, start, _, _, _, _, located⟩ := covers.exists_line inside
  rw [contentPlace, located]

/-- An offset into a line keeps its distance from the line's start, wherever the line stands. -/
theorem locate_line {places : List Int} {line start distance : Nat} {part : Text} {place : Int}
    (isLine : (Text.lines content)[line]? = some part)
    (isStart : (Text.lineStarts content)[line]? = some start)
    (isPlace : places[line]? = some place) (inside : distance ≤ part.length) :
    (LineOffsets.mk ((Text.startsFrom 0 (Text.lines content)).map Int.ofNat) places).locate
      (start + distance) = .ok (place + distance) := by
  rw [Text.lineStarts_eq] at isStart
  have starts : ((Text.startsFrom 0 (Text.lines content)).map Int.ofNat)[line]?
      = some (start : Int) := by
    rw [List.getElem?_map, isStart]
    rfl
  have ascending : ((Text.startsFrom 0 (Text.lines content)).map Int.ofNat).Pairwise (· < ·) := by
    refine List.Pairwise.map _ (fun first second order => ?_) (Text.startsFrom_ascending 0 _)
    exact Int.ofNat_lt.2 order
  have count : countUpTo ((Text.startsFrom 0 (Text.lines content)).map Int.ofNat)
      ((start : Int) + distance) = line + 1 := by
    refine countUpTo_between ascending starts (by omega) fun next isNext => ?_
    rw [List.getElem?_map] at isNext
    obtain ⟨nextStart, found, rfl⟩ := Option.map_eq_some_iff.1 isNext
    have behind := Text.startsFrom_next isLine isStart found
    simp only [Int.ofNat_eq_natCast]
    omega
  have index : ((line + 1 : Nat) : Int) - 1 = (line : Nat) := by omega
  rw [LineOffsets.locate]
  simp only [count, index, item?_natCast, starts, isPlace, Except.ok.injEq]
  omega

theorem contentPlace_line {line start distance : Nat} {part : Text}
    (isLine : (Text.lines content)[line]? = some part)
    (isStart : (Text.lineStarts content)[line]? = some start) (inside : distance ≤ part.length) :
    contentPlace text number floor content (start + distance)
      = placeIn text part (lineWindow text number floor (Text.lines content) line) + distance := by
  rw [contentPlace, locate_line isLine isStart (linePlaces_getElem? isLine) inside]

end Places

/-! ## The nodes of a token -/

section Containers

variable {token : BlockToken}

/-- The span of a container, and the types and spans of its nodes. -/
def OpenNode.places (container : OpenNode) : Span × List (NodeType × Span) :=
  (container.span, container.children.map fun node => (node.type, node.span))

/-- A token as it would be in a document that is its own content. -/
def BlockToken.alone (token : BlockToken) : BlockToken :=
  { token with lineRange := some (0, 0) }

/-- Wherever its lines stand, the tokens of a content are read in the same way. -/
theorem exists_walk (token : BlockToken) :
    ∃ (walk : InlineWalk) (noted : List TreeNote), ∀ offsets place base,
      LineOffsets.SendTo offsets place →
      (walkTokens offsets token.content { inner := base } (token.children.getD [])).Leaves
        (walk.relocate place base) noted := by
  have inRange : InlineWalk.InRange { inner := ⟨.document, ⟨0, 0⟩, []⟩ } :=
    ⟨Int.le_refl 0, by simp, by simp⟩
  obtain ⟨walk, noted, _, read⟩ :=
    inRange.relocates_tokens token.content (token.children.getD [])
  refine ⟨walk, noted, fun offsets place base sendTo => ?_⟩
  have started : InlineWalk.relocate place base { inner := ⟨.document, ⟨0, 0⟩, []⟩ }
      = { inner := base } := by
    simp [InlineWalk.relocate, OpenNode.relocateStack, Node.relocateAll]
  rw [← started]
  exact read offsets place base sendTo

/-- The nodes of a token in a document that is its own content are its nodes in any other
document, sent to where its lines are located. -/
theorem exists_nodes_sentTo (token : BlockToken) (type : NodeType) :
    ∃ nodes : List Node,
      (∃ after, (fillContainer (SourceLines.ofText token.content) token.alone
        ⟨type, ⟨0, 0⟩, []⟩).Gives {} ⟨type, ⟨0, token.content.length⟩, nodes⟩ after)
      ∧ ∀ (source : SourceLines) (state located : ReadState) (offsets : LineOffsets)
        (place : Int → Int), (locateLines source (token.lineRange.map (·.1)) 0
          (Text.lines token.content)).Gives state offsets located → offsets.SendTo place →
        ∃ after, ∀ container, (fillContainer source token container).Gives state
          { container with
            span := (Span.mk 0 token.content.length).relocate place
            children := container.children ++ Node.relocateAll place nodes } after := by
  obtain ⟨walk, noted, read⟩ := exists_walk token
  refine ⟨walk.container.children, ?_, ?_⟩
  · have walked : ∀ offsets : LineOffsets, offsets.IsIdentity →
        (walkTokens offsets token.alone.content
          { inner := ⟨type, ⟨0, token.alone.content.length⟩, []⟩ }
          (token.alone.children.getD [])).Gives { floor := token.alone.content.length }
          (walk.relocate (fun offset => offset) ⟨type, ⟨0, token.content.length⟩, []⟩)
          { floor := token.alone.content.length, notes := [] ++ noted } := by
      intro offsets identity
      exact read offsets _ _ identity _
    have filled := @fillContainer_own token.alone ⟨type, ⟨0, 0⟩, []⟩ _ _ 0 rfl walked
    rw [InlineWalk.relocate_container, Node.relocateAll_id] at filled
    exact ⟨_, filled⟩
  · intro source state located offsets place lines sendTo
    have span := sendTo.span ⟨0, token.content.length⟩ (Int.le_refl 0) (Int.natCast_nonneg _)
    refine ⟨{ located with notes := located.notes ++ [] ++ noted }, fun container => ?_⟩
    have walked := read _ _ { container with
      span := (Span.mk 0 token.content.length).relocate place } sendTo
    rw [fillContainer]
    refine .bind lines (.bind (span _) (.bind (walked _) ?_))
    rw [InlineWalk.relocate_container]
    exact .pure _ _

/-- On lines that are counted from the first one, the places are those of the content. -/
theorem exists_nodes (token : BlockToken) (type : NodeType) :
    ∃ nodes : List Node,
      (∃ after, (fillContainer (SourceLines.ofText token.content) token.alone
        ⟨type, ⟨0, 0⟩, []⟩).Gives {} ⟨type, ⟨0, token.content.length⟩, nodes⟩ after)
      ∧ ∀ (text : Text) (state : ReadState) (container : OpenNode) (number : Nat) (last : Int),
        token.lineRange = some ((number : Int), last) →
        ∃ after, (fillContainer (SourceLines.ofText text) token container).Gives state
          { container with
            span := (Span.mk 0 token.content.length).relocate
              (contentPlace text number state.floor token.content)
            children := container.children ++ Node.relocateAll
              (contentPlace text number state.floor token.content) nodes } after := by
  obtain ⟨nodes, alone, elsewhere⟩ := exists_nodes_sentTo token type
  refine ⟨nodes, alone, fun text state container number last onLine => ?_⟩
  obtain ⟨located, lines⟩ := locateLines_gives text number 0 (Text.lines token.content) state
  rw [show some (number : Int) = token.lineRange.map (·.1) by rw [onLine]; rfl] at lines
  obtain ⟨after, filled⟩ := elsewhere _ state located _ _ lines sendTo_contentPlace
  exact ⟨after, filled container⟩

/-- Whatever the document says, a token has the nodes that it has where its content is its
own document, and only their places differ. A line is sent to its first occurrence behind
the floor, or else to where the search for it starts, so its nodes are kept either way. -/
theorem nodes_kept_wherever_lines_stand (text : Text) (state : ReadState) (container : OpenNode)
    {number : Nat} {last : Int} (onLine : token.lineRange = some ((number : Int), last)) :
    ∃ (own : OpenNode) (ownAfter after : ReadState),
      (fillContainer (SourceLines.ofText token.content) token.alone
        ⟨container.type, ⟨0, 0⟩, []⟩).Gives {} own ownAfter
      ∧ (fillContainer (SourceLines.ofText text) token container).Gives state
        { container with
          span := ⟨contentPlace text number state.floor token.content 0,
            contentPlace text number state.floor token.content token.content.length⟩
          children := container.children ++ Node.relocateAll
            (contentPlace text number state.floor token.content) own.children } after
      ∧ ∀ (line start distance : Nat) (part : Text), (Text.lines token.content)[line]? = some part →
        (Text.lineStarts token.content)[line]? = some start → distance ≤ part.length →
        let window := lineWindow text number state.floor (Text.lines token.content) line
        (∀ found, occurrenceIn? text part window = some found →
          contentPlace text number state.floor token.content (start + distance)
            = found + distance)
        ∧ (occurrenceIn? text part window = none →
          contentPlace text number state.floor token.content (start + distance)
            = window.1 + distance) := by
  obtain ⟨nodes, ⟨ownAfter, alone⟩, elsewhere⟩ := exists_nodes token container.type
  obtain ⟨after, filled⟩ := elsewhere text state container number last onLine
  refine ⟨_, ownAfter, after, alone, filled, ?_⟩
  intro line start distance part isLine isStart inside
  have place := @contentPlace_line text token.content number state.floor line start distance part
    isLine isStart inside
  constructor
  · intro found occurs
    rw [place, placeIn, occurs, Option.getD_some]
  · intro missing
    rw [place, placeIn, missing, Option.getD_none]

end Containers

/-- A table with an escaped pipe in its only cell. -/
def escapedPipeTable : Text :=
  "| a |\n|---|\n| x\\|yは foo bar |\n".toList

/-- The token of the cell, which shows the pipe without its backslash. -/
def escapedPipeCell : BlockToken where
  kind := .inline
  content := "x|yは foo bar".toList
  lineRange := some (2, 3)
  children := some [.ofText "x|yは foo bar".toList 0]

theorem escapedPipeCell_missing :
    occurrenceIn? escapedPipeTable escapedPipeCell.content (searchWindow escapedPipeTable 2 3)
      = none := by
  decide +kernel

/-- The content of the cell is placed at the start of its row, the backslash counted in and
the last word cut off. -/
theorem nodes_kept_escapedPipe :
    ∃ (own : OpenNode) (ownAfter after : ReadState),
      (fillContainer (SourceLines.ofText escapedPipeCell.content) escapedPipeCell.alone
        ⟨.tableCell, ⟨0, 0⟩, []⟩).Gives {} own ownAfter
      ∧ (fillContainer (SourceLines.ofText escapedPipeTable) escapedPipeCell
        ⟨.tableCell, ⟨0, 0⟩, []⟩).Gives { floor := 3 }
        ⟨.tableCell, ⟨12, 24⟩, Node.relocateAll
          (contentPlace escapedPipeTable 2 3 escapedPipeCell.content) own.children⟩ after := by
  obtain ⟨own, ownAfter, after, alone, filled, lines⟩ :=
    @nodes_kept_wherever_lines_stand escapedPipeCell escapedPipeTable { floor := 3 }
      ⟨.tableCell, ⟨0, 0⟩, []⟩ 2 3 rfl
  have window : (searchWindow escapedPipeTable 2 3).1 = 12 := by decide +kernel
  have start := (lines 0 0 0 escapedPipeCell.content rfl rfl (by decide)).2 escapedPipeCell_missing
  have stop := (lines 0 0 12 escapedPipeCell.content rfl rfl (by decide)).2 escapedPipeCell_missing
  have span : Span.mk (contentPlace escapedPipeTable 2 3 escapedPipeCell.content 0)
      (contentPlace escapedPipeTable 2 3 escapedPipeCell.content 12) = ⟨12, 24⟩ := by
    rw [Span.mk.injEq]
    exact ⟨start.trans (congrArg (· + 0) window), stop.trans (congrArg (· + 12) window)⟩
  refine ⟨own, ownAfter, after, alone, ?_⟩
  rw [← span]
  exact filled

/-- A line that does not occur in the document is not dropped: the cell gets text, and a
single word in it is reported although the cell holds a phrase. -/
theorem unlocated_line_not_dropped :
    (¬ ∀ (text : Text) (state after : ReadState) (token : BlockToken) (container filled : OpenNode)
      (number : Nat) (last : Int), token.lineRange = some ((number : Int), last) →
      number < (Text.lines text).length → token.content ≠ [] → '\n' ∉ token.content →
      occurrenceIn? text token.content (searchWindow text number state.floor) = none →
      container.children = [] →
      (fillContainer (SourceLines.ofText text) token container).Gives state filled after →
      ∀ node ∈ filled.children, node.type ≠ .str)
    ∧ (lintTree escapedPipeTable {} (.mk .tableCell ⟨12, 24⟩ [.leaf .str ⟨12, 24⟩])).map
        Message.index = [19] := by
  refine ⟨fun dropped => ?_, by decide +kernel⟩
  obtain ⟨nodes, ⟨ownAfter, alone⟩, elsewhere⟩ := exists_nodes escapedPipeCell .tableCell
  obtain ⟨after, filled⟩ :=
    elsewhere escapedPipeTable { floor := 3 } ⟨.tableCell, ⟨0, 0⟩, []⟩ 2 3 rfl
  have noText := dropped escapedPipeTable { floor := 3 } after escapedPipeCell
    ⟨.tableCell, ⟨0, 0⟩, []⟩ _ 2 3 rfl (by decide +kernel) (by decide) (by decide)
    escapedPipeCell_missing rfl filled
  let tree : InlineTree := .running (.plain escapedPipeCell.content) .nil
  have wellFormed : tree.WellFormed [] := ⟨⟨by decide, by decide⟩, trivial⟩
  have walked : ∀ offsets : LineOffsets, offsets.IsIdentity →
      (walkTokens offsets escapedPipeCell.alone.content
        { inner := ⟨.tableCell, ⟨0, escapedPipeCell.alone.content.length⟩, []⟩ }
        (escapedPipeCell.alone.children.getD [])).Gives
        { floor := escapedPipeCell.alone.content.length }
        (({ inner := ⟨.tableCell, ⟨0, 12⟩, []⟩ } : InlineWalk).upTo (tree.nodes none 0) none
          tree.source.length) { floor := escapedPipeCell.alone.content.length } := by
    intro offsets identity
    exact walkTokens_shows identity _ _ wellFormed rfl
  have filledAlone := @fillContainer_own escapedPipeCell.alone ⟨.tableCell, ⟨0, 0⟩, []⟩ _ _ 0 rfl
    walked
  have nodesAlone : nodes = [.leaf .str ⟨0, 12⟩] :=
    congrArg OpenNode.children (alone.unique filledAlone).1
  rw [nodesAlone] at noText
  exact noText _ List.mem_cons_self rfl

end JapaneseSpacing
