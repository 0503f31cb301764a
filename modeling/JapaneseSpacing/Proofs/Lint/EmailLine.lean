import JapaneseSpacing.Lint.Rule
import JapaneseSpacing.Proofs.Markdown.EmailLine
import JapaneseSpacing.Proofs.Source.Paragraph
import JapaneseSpacing.Proofs.Spacing.Link

/-!
# What is reported about a line of addresses

The characters beside an address decide alone: one that must be set apart in front of the
address or behind it gives one message each, at the boundary, and nothing else on the line
gives any (`EmailLine.lint_linkEmails`).
-/

namespace JapaneseSpacing

/-- Text beyond ASCII has no half-width runs to complain about. -/
theorem checkText_beyond {text : Text} (beyond : BeyondAscii text) : checkText text = [] := by
  suffices quiet : ∀ previous, violationsBehind previous text = [] by
    rw [checkText_eq, quiet]
  induction text using Text.runInduction with
  | run run inside =>
    intro previous
    rw [violationsBehind_run inside]
    exact runViolations_bare fun char member =>
      isAsciiAlphanumeric_eq_false_of_beyond (beyond char member)
  | cut run outside rest inside notInside inductionHypothesis =>
    intro previous
    have runBeyond : ∀ char ∈ run, isAsciiAlphanumeric char = false := fun char member =>
      isAsciiAlphanumeric_eq_false_of_beyond (beyond char (List.mem_append_left _ member))
    have restBeyond : BeyondAscii rest := fun char member =>
      beyond char (List.mem_append_right _ (List.mem_cons_of_mem _ member))
    rw [violationsBehind_cut inside notInside, runViolations_bare runBeyond,
      inductionHypothesis restBeyond]
    rfl

/-! ## The messages of a row -/

/-- A message about a place of a text's only line. -/
def messageAt (wording : Text) (place : Nat) : Message where
  message := wording
  index := place
  line := 1
  column := place + 1
  fix := some (.insertSpace place)

/-- An address starts at a place without a blank in front of it. -/
def addressStartMessage (start : Nat) : Message :=
  messageAt "全角文字とメールアドレスの間にはスペースを入れる必要があります".toList start

/-- An address stops at a place without a blank behind it. -/
def addressStopMessage (stop : Nat) : Message :=
  messageAt "メールアドレスと全角文字の間にはスペースを入れる必要があります".toList stop

/-- The messages of an address between two places and two neighbours. -/
def addressMessages (previous next : Option Char) (start stop : Nat) : List Message :=
  (if previous.any isSpacingTarget then [addressStartMessage start] else [])
    ++ (if next.any isSpacingTarget then [addressStopMessage stop] else [])

/-- The messages of a row of addresses that starts at an offset behind some character. -/
def rowMessages (previous : Option Char) (offset : Nat) :
    List (EmailAddress × Text) → List Message
  | [] => []
  | (address, text) :: more =>
    let stop := offset + address.text.length
    addressMessages previous text.head? offset stop
      ++ rowMessages text.getLast? (stop + text.length) more

/-- The messages of a line: for each address one at its start if the last character of the text
in front of it must be set apart, and one at its end if the first character of the text behind
it must be. -/
def EmailLine.messages (line : EmailLine) : List Message :=
  rowMessages line.front.getLast? line.front.length line.row

theorem mem_addressMessages {previous next : Option Char} {start stop : Nat} {message : Message}
    (member : message ∈ addressMessages previous next start stop) :
    message.index = start ∨ message.index = stop := by
  rcases List.mem_append.1 member with inFront | behind
  · split at inFront
    · rw [List.mem_singleton.1 inFront]
      exact .inl rfl
    · cases inFront
  · split at behind
    · rw [List.mem_singleton.1 behind]
      exact .inr rfl
    · cases behind

theorem EmailAddress.length_text_pos (address : EmailAddress) : 0 < address.text.length :=
  List.length_pos_iff.2 address.text_nonempty

/-- The messages of a row stand at or behind its start, in the order of their places. -/
theorem rowMessages_ascending {previous : Option Char} {offset : Nat}
    {row : List (EmailAddress × Text)} (isRow : AddressRow row) :
    (∀ message ∈ rowMessages previous offset row, (offset : Int) ≤ message.index)
      ∧ (rowMessages previous offset row).Pairwise (·.index < ·.index) := by
  induction row generalizing previous offset with
  | nil => exact ⟨fun _ member => (List.not_mem_nil member).elim, .nil⟩
  | cons pair more inductionHypothesis =>
    obtain ⟨address, text⟩ := pair
    have some_address := address.length_text_pos
    obtain ⟨others, ordered⟩ := @inductionHypothesis text.getLast?
      (offset + address.text.length + text.length) isRow.tail
    -- behind an address another one can only follow if there is text in between
    have behind : ∀ message ∈ rowMessages text.getLast?
        (offset + address.text.length + text.length) more,
        ((offset + address.text.length : Nat) : Int) < message.index := by
      intro message member
      have place := others message member
      rcases isRow.text_or_last with someText | rfl
      · have between := List.length_pos_iff.2 someText
        dsimp only at between
        omega
      · cases member
    have here : (addressMessages previous text.head? offset
        (offset + address.text.length)).Pairwise (·.index < ·.index) := by
      have order : (addressStartMessage offset).index
          < (addressStopMessage (offset + address.text.length)).index := by
        change (offset : Int) < (offset + address.text.length : Nat)
        omega
      rw [addressMessages]
      split <;> split <;> simp [order]
    rw [rowMessages]
    constructor
    · intro message member
      rcases List.mem_append.1 member with isHere | isBehind
      · rcases mem_addressMessages isHere with place | place <;> omega
      · have place := behind message isBehind
        omega
    · refine List.pairwise_append.2 ⟨here, ordered, fun message isHere other isBehind => ?_⟩
      have place := behind other isBehind
      rcases mem_addressMessages isHere with before | before <;> omega

/-! ## Nodes on one line -/

theorem Position.ofOffset_oneLine {text : Text} (oneLine : '\n' ∉ text) (offset : Nat) :
    Position.ofOffset (Text.lineStarts text) offset = ⟨1, offset + 1⟩ := by
  have count : countUpTo [0] (offset : Int) = 1 :=
    @countUpTo_between [0] offset 0 0 (by decide) rfl (by omega) (by simp)
  have starts : ([0] : List Nat).map Int.ofNat = [0] := rfl
  rw [lineStarts_of_noBreak oneLine, Position.ofOffset, starts, count]
  simp [item?]

theorem EmailAddress.isAutoLink_text (address : EmailAddress) :
    isAutoLink address.text = true := by
  obtain ⟨first, more, isPart⟩ := List.exists_cons_of_ne_nil address.localPart_nonempty
  have isLocal : isLocalChar first = true :=
    address.localPart_inside first (by rw [isPart]; exact List.mem_cons_self)
  have notBracket : first ≠ '[' := by
    rintro rfl
    exact absurd isLocal (by decide)
  rw [EmailAddress.text, isPart, List.cons_append, isAutoLink, List.head?_cons, bne_iff_ne]
  exact fun same => notBracket (Option.some.inj same)

/-- An address is complained about on either side where its neighbour must be set apart. -/
theorem checkLink_address (front behind : Text) (address : EmailAddress) :
    checkLink address.text front.length (front.length + address.text.length : Nat)
        (front ++ address.text ++ behind)
      = (if front.getLast?.any isSpacingTarget then
          [leadingSpaceRequired AddressKind.email.label front.length] else [])
        ++ (if behind.head?.any isSpacingTarget then
          [trailingSpaceRequired AddressKind.email.label
            (front.length + address.text.length : Nat) .parent] else []) := by
  have leading := leadingLinkViolation?_front AddressKind.email.label front (address.text ++ behind)
  rw [← List.append_assoc] at leading
  rw [checkLink, if_pos address.isAutoLink_text]
  simp only [address.ofText_text, leading, trailingLinkViolation?_behind]
  split <;> split <;> rfl

/-- A violation that is anchored to a parent on the only line stands where it says. -/
theorem Violation.toMessage_oneLine {text : Text} (oneLine : '\n' ∉ text) {node parent : Node}
    {ancestors : List Node} (atStart : parent.span.start = 0) {violation : Violation} {place : Nat}
    (anchored : violation.anchor = .parent) (index : violation.index = place)
    (fixed : violation.fix = some (.insertSpace place)) :
    violation.toMessage text ⟨node, parent :: ancestors⟩ = messageAt violation.message place := by
  have shifted : (Fix.insertSpace place).shift 0 = .insertSpace place := by
    simp [Fix.shift, Span.shift, Fix.insertSpace]
  simp only [Violation.toMessage, anchored, Located.parent?, List.head?_cons, atStart, index,
    Int.zero_add, Position.ofOffset_oneLine oneLine, fixed, Option.map_some, shifted]
  rfl

theorem leadingSpaceRequired_address (index : Int) :
    (leadingSpaceRequired AddressKind.email.label index).message
      = "全角文字とメールアドレスの間にはスペースを入れる必要があります".toList := by
  have wording : "全角文字と".toList ++ AddressKind.email.label
      ++ "の間にはスペースを入れる必要があります".toList
      = "全角文字とメールアドレスの間にはスペースを入れる必要があります".toList := by
    decide +kernel
  exact wording

theorem trailingSpaceRequired_address (index : Int) (anchor : Anchor) :
    (trailingSpaceRequired AddressKind.email.label index anchor).message
      = "メールアドレスと全角文字の間にはスペースを入れる必要があります".toList := by
  have wording : AddressKind.email.label ++ "と全角文字の間にはスペースを入れる必要があります".toList
      = "メールアドレスと全角文字の間にはスペースを入れる必要があります".toList := by
    decide +kernel
  exact wording

/-- The link of an address is checked in the whole line. -/
theorem nodeViolations_address {front behind : Text} (address : EmailAddress) {parent : Node}
    {ancestors children : List Node}
    (whole : parent.span = ⟨0, (front ++ address.text ++ behind).length⟩) :
    nodeViolations (front ++ address.text ++ behind) {}
        ⟨.mk .link (InlineLeaf.spanAt front.length address.text) children, parent :: ancestors⟩
      = checkLink address.text front.length (front.length + address.text.length : Nat)
        (front ++ address.text ++ behind) := by
  have parentSource : parent.source (front ++ address.text ++ behind)
      = front ++ address.text ++ behind := by
    have slice := Text.slice_stretch [] (front ++ address.text ++ behind) []
    rw [List.nil_append, List.append_nil, List.length_nil, Nat.zero_add] at slice
    rw [Node.source, whole]
    exact slice
  have source : (Node.mk .link (InlineLeaf.spanAt front.length address.text) children).source
      (front ++ address.text ++ behind) = address.text := Text.slice_stretch _ _ _
  change checkLink (Node.source _ _) ((front.length : Int) - parent.span.start)
    ((front.length + address.text.length : Nat) - parent.span.start) (parent.source _) = _
  rw [source, parentSource, whole, Int.sub_zero, Int.sub_zero]

/-- The link of an address gives the messages of the address between its neighbours. -/
theorem nodeMessages_address {front behind : Text} (address : EmailAddress) {parent : Node}
    {ancestors children : List Node} (oneLine : '\n' ∉ front ++ address.text ++ behind)
    (whole : parent.span = ⟨0, (front ++ address.text ++ behind).length⟩) :
    nodeMessages (front ++ address.text ++ behind) {}
        ⟨.mk .link (InlineLeaf.spanAt front.length address.text) children, parent :: ancestors⟩
      = addressMessages front.getLast? behind.head? front.length
        (front.length + address.text.length) := by
  have atStart : parent.span.start = 0 := by rw [whole]
  have leading := @Violation.toMessage_oneLine _ oneLine
    (.mk .link (InlineLeaf.spanAt front.length address.text) children) parent ancestors atStart
    (leadingSpaceRequired AddressKind.email.label front.length) front.length rfl rfl rfl
  have trailing := @Violation.toMessage_oneLine _ oneLine
    (.mk .link (InlineLeaf.spanAt front.length address.text) children) parent ancestors atStart
    (trailingSpaceRequired AddressKind.email.label (front.length + address.text.length : Nat)
      .parent) (front.length + address.text.length) rfl rfl rfl
  rw [nodeMessages, nodeViolations_address address whole, checkLink_address, List.map_append,
    addressMessages]
  rw [leadingSpaceRequired_address] at leading
  rw [trailingSpaceRequired_address] at trailing
  congr 1
  · split
    · rw [List.map_singleton, leading, addressStartMessage]
    · rfl
  · split
    · rw [List.map_singleton, trailing, addressStopMessage]
    · rfl

/-! ## The nodes of a line -/

/-- The messages of neighbouring nodes and their descendants below some ancestors. -/
def messagesBelow (text : Text) (ancestors nodes : List Node) : List Message :=
  (Node.walkChildren ancestors nodes).flatMap (nodeMessages text {})

theorem messagesBelow_cons (text : Text) (ancestors : List Node) (node : Node)
    (rest : List Node) :
    messagesBelow text ancestors (node :: rest)
      = nodeMessages text {} ⟨node, ancestors⟩
        ++ messagesBelow text (node :: ancestors) node.children
        ++ messagesBelow text ancestors rest := by
  obtain ⟨type, span, children⟩ := node
  rw [messagesBelow, Node.walkChildren, List.flatMap_append, Node.walkBelow, List.flatMap_cons]
  rfl

/-- Running text beyond ASCII gives no messages. -/
theorem messagesBelow_textNode {text : Text} {ancestors rest : List Node} {started : Option Nat}
    {stop : Nat} (beyond : ∀ start ∈ started, BeyondAscii (text.slice start stop)) :
    messagesBelow text ancestors (InlineTree.textNode started stop ++ rest)
      = messagesBelow text ancestors rest := by
  cases started with
  | none => rfl
  | some start =>
    have quiet : checkText (text.slice start stop) = [] := checkText_beyond (beyond start rfl)
    have none : nodeMessages text {} ⟨.leaf .str ⟨start, stop⟩, ancestors⟩ = [] := by
      change (if _ then [] else checkText (text.slice start stop)).map _ = []
      rw [quiet, ite_self, List.map_nil]
    rw [InlineTree.textNode, List.singleton_append, messagesBelow_cons, none]
    rfl

/-- Text inside a link is skipped. -/
theorem messagesBelow_insideLink {text : Text} {ancestors children : List Node}
    {span inside : Span} :
    messagesBelow text (.mk .link span children :: ancestors) [.leaf .str inside] = [] := by
  rw [messagesBelow_cons]
  rfl

/-- Text in front of pieces starts their running text. -/
theorem nodes_ofPlain (text : Text) (rest : List TextPiece) (offset : Nat) :
    (pieceTree (TextPiece.ofPlain text ++ rest)).nodes none offset
      = (pieceTree rest).nodes (if text.isEmpty then none else some offset)
        (offset + text.length) := by
  cases text with
  | nil => rfl
  | cons first more => rfl

/-- The running text that a text beyond ASCII starts is beyond ASCII. -/
theorem BeyondAscii.started {stretch : Text} (beyond : BeyondAscii stretch)
    (front behind : Text) :
    ∀ start ∈ (if stretch.isEmpty then none else some front.length),
      BeyondAscii ((front ++ stretch ++ behind).slice (start : Nat) (front ++ stretch).length) := by
  intro start isStart
  split at isStart
  · cases isStart
  · cases isStart
    rwa [List.length_append, Text.slice_stretch]

/-- The nodes of a row of addresses give the messages of the row. -/
theorem messagesBelow_row {text front : Text} {row : List (EmailAddress × Text)}
    {started : Option Nat} {parent : Node} {ancestors : List Node} (isRow : AddressRow row)
    (shape : text = front ++ rowText row) (oneLine : '\n' ∉ text)
    (whole : parent.span = ⟨0, text.length⟩)
    (beyond : ∀ start ∈ started, BeyondAscii (text.slice start front.length)) :
    messagesBelow text (parent :: ancestors)
        ((pieceTree (rowPieces row)).nodes started front.length)
      = rowMessages front.getLast? front.length row := by
  induction row generalizing front started with
  | nil =>
    have noRest := @messagesBelow_textNode text (parent :: ancestors) [] started front.length beyond
    rwa [List.append_nil] at noRest
  | cons pair more inductionHypothesis =>
    obtain ⟨address, behind⟩ := pair
    have here : text = front ++ address.text ++ (behind ++ rowText more) := by
      rw [shape, rowText, List.flatMap_cons]
      simp only [List.append_assoc]
      rfl
    have further : text = (front ++ address.text ++ behind) ++ rowText more := by
      rw [here, List.append_assoc _ behind]
    have lengthFurther : (front ++ address.text ++ behind).length
        = front.length + address.text.length + behind.length := by
      simp only [List.length_append]
    have textBeyond : BeyondAscii behind := isRow.texts_beyond _ List.mem_cons_self
    have start : (front ++ address.text).length = front.length + address.text.length :=
      List.length_append
    have behindBeyond := textBeyond.started (front ++ address.text) (rowText more)
    rw [start, ← further] at behindBeyond
    have others := inductionHypothesis isRow.tail further behindBeyond
    have othersBehind : rowMessages (front ++ address.text ++ behind).getLast?
        (front.length + address.text.length + behind.length) more
        = rowMessages behind.getLast?
          (front.length + address.text.length + behind.length) more := by
      rcases isRow.text_or_last with someText | rfl
      · rw [List.getLast?_append_of_ne_nil _ someText]
      · rfl
    have link := @nodeMessages_address front (behind ++ rowText more) address parent ancestors
      [.leaf .str (InlineLeaf.spanAt front.length address.text)] (by rwa [← here])
      (by rwa [← here])
    rw [isRow.head?_behind, ← here] at link
    rw [lengthFurther, othersBehind] at others
    have pieces : rowPieces ((address, behind) :: more)
        = .email address.text :: (TextPiece.ofPlain behind ++ rowPieces more) := rfl
    rw [pieces, pieceTree, InlineTree.nodes, messagesBelow_textNode beyond, messagesBelow_cons,
      InlineLeaf.source, nodes_ofPlain, others, InlineLeaf.node, InlineLeaf.source, link,
      Node.children, messagesBelow_insideLink, List.append_nil, rowMessages]

/-! ## From the tokens to the messages -/

namespace EmailLine

variable (line : EmailLine)

theorem pieces_eq_nil (noText : line.text = []) : line.pieces = [] := by
  obtain ⟨noFront, noRow⟩ := List.append_eq_nil_iff.1 noText
  have emptyRow : line.row = [] := by
    cases row : line.row with
    | nil => rfl
    | cons pair more =>
      rw [row, rowText, List.flatMap_cons, List.append_assoc] at noRow
      exact absurd (List.append_eq_nil_iff.1 noRow).1 pair.1.text_nonempty
  rw [pieces, noFront, emptyRow]
  rfl

/-- The tokens of a line, its addresses linked, give a document of one paragraph with the nodes
of the line's pieces. -/
theorem buildTree_linkEmails : ∃ after : ReadState,
    (buildTree (SourceLines.ofText line.text)
      ((BlockToken.enclose .paragraph (some (0, 1)) [line.block]).map BlockToken.linkEmails)).Gives
      {}
      (.mk .document ⟨0, line.text.length⟩ [.mk .paragraph ⟨0, line.text.length⟩
        ((pieceTree line.pieces).nodes none 0)])
      after := by
  have linked : (BlockToken.enclose .paragraph (some (0, 1)) [line.block]).map BlockToken.linkEmails
      = BlockToken.enclose .paragraph (some (0, 1)) [line.block.linkEmails] := rfl
  suffices filled : ∃ after : ReadState,
      (fillContainer (SourceLines.ofText line.text) line.block.linkEmails
        ⟨.paragraph, ⟨0, line.text.length⟩, []⟩).Gives {}
        ⟨.paragraph, ⟨0, line.text.length⟩, (pieceTree line.pieces).nodes none 0⟩ after by
    obtain ⟨after, gives⟩ := filled
    rw [linked]
    exact ⟨after, @buildTree_paragraph line.block.linkEmails _ after rfl rfl line.noBreak gives⟩
  by_cases someText : line.text = []
  · -- the empty text is looked for nowhere, which leaves a note
    have noPieces : line.pieces = [] := line.pieces_eq_nil someText
    have block : line.block.linkEmails
        = { kind := .inline, lineRange := some (0, 1), children := some [.ofText [] 0] } := by
      rw [EmailLine.block, someText]
      rfl
    have walked : ∀ offsets : LineOffsets, offsets.IsIdentity →
        (walkTokens offsets [] { inner := ⟨.paragraph, ⟨0, 0⟩, []⟩ } [.ofText [] 0]).Gives {}
          { inner := ⟨.paragraph, ⟨0, 0⟩, []⟩ } { notes := [.tokenNotFound .text [] []] } :=
      fun _ _ => rfl
    rw [someText, noPieces, block]
    exact ⟨_, @fillContainer_own
      { kind := .inline, lineRange := some (0, 1), children := some [.ofText [] 0] }
      ⟨.paragraph, ⟨0, 0⟩, []⟩ _ _ 1 rfl walked⟩
  · have wellFormed : (pieceTree line.pieces).WellFormed [] :=
      wellFormed_pieceTree (fun piece member => line.piece_inside member) []
    refine ⟨{ floor := line.text.length }, ?_⟩
    have walked : ∀ offsets : LineOffsets, offsets.IsIdentity → _ := fun offsets identity =>
      walkTokens_shows identity ⟨.paragraph, ⟨0, line.text.length⟩, []⟩
        { floor := line.text.length } wellFormed (line.outlines_linkEmails someText)
    rw [source_pieces] at walked
    exact @fillContainer_own line.block.linkEmails ⟨.paragraph, ⟨0, line.text.length⟩, []⟩ _ _ 1 rfl
      walked

/-- On a line of addresses and text beyond ASCII, exactly the missing blanks beside addresses
are reported, in the order of their places. -/
theorem lint_linkEmails : ∃ (tree : Node) (after : ReadState),
    (buildTree (SourceLines.ofText line.text)
      ((BlockToken.enclose .paragraph (some (0, 1)) [line.block]).map BlockToken.linkEmails)).Gives
      {} tree after
    ∧ lintTree line.text {} tree = line.messages
    ∧ line.messages.Pairwise (·.index < ·.index) := by
  obtain ⟨after, built⟩ := line.buildTree_linkEmails
  refine ⟨_, after, built, ?_, (rowMessages_ascending line.isRow).2⟩
  have frontBeyond := line.front_beyond.started [] (rowText line.row)
  rw [List.length_nil, List.nil_append] at frontBeyond
  have row := @messagesBelow_row line.text line.front line.row _
    (.mk .paragraph ⟨0, line.text.length⟩ ((pieceTree line.pieces).nodes none 0))
    [.mk .document ⟨0, line.text.length⟩ [.mk .paragraph ⟨0, line.text.length⟩
      ((pieceTree line.pieces).nodes none 0)]] line.isRow rfl line.noBreak rfl frontBeyond
  have nodes : (pieceTree line.pieces).nodes none 0 = (pieceTree (rowPieces line.row)).nodes
      (if line.front.isEmpty then none else some 0) line.front.length := by
    rw [pieces, nodes_ofPlain, Nat.zero_add]
  rw [← nodes] at row
  rw [lintTree, Node.walk, Node.walkBelow, List.flatMap_cons, ← messagesBelow, messagesBelow_cons,
    Node.children, row]
  -- neither the document nor the paragraph says anything itself
  exact List.append_nil _

/-- An address between kana, and one that ends the line behind a comma. -/
def twoAddresses : EmailLine where
  front := "は".toList
  row := [
    ({ localPart := "a.b".toList
       labels := ["x-y".toList, "co".toList]
       topLevel := "jp".toList
       localPart_nonempty := by decide
       localPart_inside := List.all_eq_true.1 (by decide)
       labels_nonempty := by decide
       labels_inside := by simp [isLabelChar, isAsciiAlphanumeric_iff]
       topLevel_length := by decide
       topLevel_inside := List.all_eq_true.1 (by decide) }, "と、".toList),
    ({ localPart := "c".toList
       labels := ["z".toList]
       topLevel := "org".toList
       localPart_nonempty := by decide
       localPart_inside := List.all_eq_true.1 (by decide)
       labels_nonempty := by decide
       labels_inside := by simp [isLabelChar, isAsciiAlphanumeric_iff]
       topLevel_length := by decide
       topLevel_inside := List.all_eq_true.1 (by decide) }, [])]
  front_beyond := by simp [BeyondAscii]
  isRow := {
    texts_beyond := by simp [BeyondAscii]
    texts_between := by simp }

/-- Both sides of the first address are reported and none of the second. -/
theorem lint_linkEmails_two : ∃ (tree : Node) (after : ReadState),
    (buildTree (SourceLines.ofText "はa.b@x-y.co.jpと、c@z.org".toList)
      ((BlockToken.enclose .paragraph (some (0, 1)) [twoAddresses.block]).map
        BlockToken.linkEmails)).Gives {} tree after
    ∧ lintTree "はa.b@x-y.co.jpと、c@z.org".toList {} tree
      = [addressStartMessage 1, addressStopMessage 14] := by
  have text : twoAddresses.text = "はa.b@x-y.co.jpと、c@z.org".toList := by decide
  have messages : twoAddresses.messages = [addressStartMessage 1, addressStopMessage 14] := by
    decide +kernel
  obtain ⟨tree, after, built, linted, _⟩ := twoAddresses.lint_linkEmails
  rw [text] at built linted
  rw [messages] at linted
  exact ⟨tree, after, built, linted⟩

end EmailLine

end JapaneseSpacing
