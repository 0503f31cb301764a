import JapaneseSpacing.Proofs.Lint.Placement

/-!
# Messages behind another text

What is found in a node does not depend on where the document stands: text put in front of it
moves the messages and changes nothing else about them (`lintTree_behind`). A message on the
first line also moves along it, since that line goes on from the last line of the text in
front.
-/

namespace JapaneseSpacing

/-- The same message in a document that another text stands in front of. -/
def Message.behind (before : Text) (message : Message) : Message :=
  { message with
    index := before.length + message.index
    line := message.line + before.count '\n'
    column := if message.line = 1 then message.column + (Text.lastLine before).length
      else message.column
    fix := message.fix.map (·.shift before.length) }

/-- A tree of a document that another text stands in front of. -/
def Node.behind (before : Text) (root : Node) : Node :=
  root.relocate (before.length + ·)

/-- A node and its ancestors in a document that another text stands in front of. -/
def Located.behind (before : Text) (place : Located) : Located :=
  place.relocate (before.length + ·)

variable {before text : Text} {settings : Settings} {place : Located}

/-- A stretch of a text is found again behind another text. -/
theorem Text.slice_behind (before : Text) {text : Text} {start stop : Int} (first : 0 ≤ start)
    (ordered : start ≤ stop) (last : stop ≤ text.length) :
    Text.slice (before ++ text) (before.length + start) (before.length + stop)
      = text.slice start stop := by
  obtain ⟨front, middle, back, rfl, rfl, rfl⟩ := Fix.exists_middle first ordered last
  have whole : before ++ (front ++ middle ++ back) = (before ++ front) ++ middle ++ back := by
    simp only [List.append_assoc]
  have start : ((before.length : Int) + front.length) = (before ++ front).length := by
    rw [List.length_append]
    omega
  have stop : ((before.length : Int) + (front.length + middle.length : Nat))
      = ((before ++ front).length + middle.length : Nat) := by
    rw [List.length_append]
    omega
  rw [whole, start, stop, Text.slice_stretch, Text.slice_stretch]

theorem Node.span_behind (before : Text) (node : Node) :
    (node.behind before).span = node.span.shift before.length :=
  Node.span_relocate _ node

theorem Node.source_behind {node : Node} (inside : node.span.Inside text.length) :
    (node.behind before).source (before ++ text) = node.source text := by
  rw [Node.source, Node.span_behind]
  exact Text.slice_behind before inside.first inside.ordered inside.last

theorem Located.target_behind (place : Located) (anchor : Anchor) :
    (place.behind before).target anchor = (place.target anchor).behind before := by
  cases anchor with
  | node => rfl
  | parent =>
    rw [Located.target, Located.behind, Located.parent?_relocate, Located.target]
    cases place.parent? <;> rfl

/-- The check of a link sees the texts of the link and of its parent and the distance between
their starts. -/
theorem linkViolations_behind (inside : place.SpansInside text.length) :
    linkViolations (before ++ text) (place.behind before) = linkViolations text place := by
  have parents : (place.behind before).parent? = place.parent?.map (Node.behind before) :=
    Located.parent?_relocate _ _
  rw [linkViolations, linkViolations, parents]
  cases isParent : place.parent? with
  | none => rfl
  | some parent =>
    have parentInside := inside.ancestors parent (List.mem_of_mem_head? isParent)
    have isNode : (place.behind before).node = place.node.behind before := rfl
    simp only [Option.map_some, isNode, Node.source_behind inside.node,
      Node.source_behind parentInside, Node.span_behind, Span.shift, Int.add_sub_add_left]

/-- The checks of a node find the same violations wherever the document stands. -/
theorem nodeViolations_behind (inside : place.SpansInside text.length) :
    nodeViolations (before ++ text) settings (place.behind before)
      = nodeViolations text settings place := by
  have source : (place.behind before).node.source (before ++ text) = place.node.source text :=
    Node.source_behind inside.node
  have type : (place.behind before).node.type = place.node.type := Node.type_relocate _ _
  have below : (place.behind before).isBelow settings.skipNodes
      = place.isBelow settings.skipNodes := Located.isBelow_relocate _ _ _
  rw [nodeViolations, nodeViolations, type, linkViolations_behind inside, strViolations,
    strViolations, below, source]

/-- A violation in the moved node leads to the moved message. -/
theorem Violation.toMessage_behind {violation : Violation}
    (fits : (violation.toMessage text place).Fits text) :
    violation.toMessage (before ++ text) (place.behind before)
      = (violation.toMessage text place).behind before := by
  have first := fits.first
  have last := fits.last
  rw [Violation.toMessage_eq] at first last
  rw [Violation.toMessage_eq, Violation.toMessage_eq, Located.target_behind]
  generalize place.target violation.anchor = target at first last
  have origin : (target.behind before).span.start = before.length + target.span.start := by
    rw [Node.span_behind, Span.shift]
  have index : (target.behind before).span.start + violation.index
      = before.length + (target.span.start + violation.index) := by
    rw [origin, Int.add_assoc]
  have position : Position.ofOffset (Text.lineStarts (before ++ text))
        (before.length + (target.span.start + violation.index))
      = (Position.ofOffset (Text.lineStarts text)
        (target.span.start + violation.index)).behind before :=
    Position.ofOffset_behind before first last
  have fix : violation.fix.map (·.shift (target.behind before).span.start)
      = (violation.fix.map (·.shift target.span.start)).map (·.shift before.length) := by
    rw [Option.map_map, origin]
    congr 1
    funext fix
    rw [Function.comp_apply, Fix.shift_shift]
  dsimp only
  rw [index, position, fix]
  rfl

/-- Text in front of a document moves the messages of a tree whose nodes cover spans of the
document, and changes nothing else. -/
theorem lintTree_behind (before text : Text) (settings : Settings) (root : Node)
    (inside : root.SpansInside text.length) :
    lintTree (before ++ text) settings (root.behind before)
      = (lintTree text settings root).map (·.behind before) := by
  rw [lintTree, lintTree, Node.behind, Node.walk_relocate, List.flatMap_map, List.map_flatMap]
  refine List.flatMap_congr fun place member => ?_
  have located := inside.located member
  have violations : nodeViolations (before ++ text) settings (place.behind before)
      = nodeViolations text settings place := nodeViolations_behind located
  rw [nodeMessages, nodeMessages, ← Located.behind, violations, List.map_map]
  refine List.map_congr_left fun violation isViolation => ?_
  exact Violation.toMessage_behind
    ((nodeViolations_fixable isViolation).fits (located.target violation.anchor))

/-- A text that ends inside a line: it moves all messages down by one line, and those of the
first line also to the right. -/
theorem lintTree_behind_openLine :
    addressAndWordsTree.SpansInside addressAndWords.length
    ∧ (lintTree ("序文\n続き".toList ++ addressAndWords) {}
        (addressAndWordsTree.behind "序文\n続き".toList)).map (fun message =>
          (message.line, message.column, message.fix.map (·.span)))
      = [(2, 5, some ⟨7, 7⟩), (2, 17, some ⟨19, 19⟩), (3, 2, some ⟨22, 22⟩),
        (3, 5, some ⟨25, 25⟩), (3, 6, some ⟨26, 27⟩)]
    ∧ lintTree ("序文\n続き".toList ++ addressAndWords) {}
        (addressAndWordsTree.behind "序文\n続き".toList)
      = (lintTree addressAndWords {} addressAndWordsTree).map (·.behind "序文\n続き".toList) := by
  have inside : addressAndWordsTree.SpansInside addressAndWords.length := by decide +kernel
  exact ⟨inside, by decide +kernel,
    lintTree_behind "序文\n続き".toList addressAndWords {} addressAndWordsTree inside⟩

end JapaneseSpacing
