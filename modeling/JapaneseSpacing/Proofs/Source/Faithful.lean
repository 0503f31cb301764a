import JapaneseSpacing.Proofs.Source.Search
import JapaneseSpacing.Proofs.Source.TextNodes
import JapaneseSpacing.Proofs.Source.Unlocated
import JapaneseSpacing.Proofs.Text.OnLine
import JapaneseSpacing.Proofs.Text.Place

/-!
# Faithful offsets

Where every line of a content occurs on its own line of the document, behind the place where
the search for it starts, its offsets are faithful: they are sent to their own characters, keep
their distance on a line and their order between lines (`LinesOccur.faithful`). So what is read
of the document through a text node is what the content says there.
-/

namespace JapaneseSpacing

/-! ## The lines of a content in the document -/

/-- Each line of a content occurs on its own line of the document, at or behind the place where
the search for it starts. -/
structure LinesOccur (text : Text) (number : Nat) (floor : Int) (content : Text) : Prop where
  inside : number + (Text.lines content).length ≤ (Text.lines text).length
  occurs : ∀ (line : Nat) (part : Text), (Text.lines content)[line]? = some part →
    ∃ place, text.OccursBetween part
      (lineWindow text number floor (Text.lines content) line).1
      (lineWindow text number floor (Text.lines content) line).2 place

/-- A part stands between two others in a text, all of it on one line. -/
structure StandsOn (text part front behind : Text) (number : Nat) : Prop where
  shape : text = front ++ part ++ behind
  onLine : ∃ start line, (Text.lineStarts text)[number]? = some start
    ∧ (Text.lines text)[number]? = some line ∧ start ≤ front.length
    ∧ front.length + part.length ≤ start + line.length

/-- The end of a text is the end of the line that it lies on. -/
theorem Text.OnLine.length_eq {text part : Text} {line start : Nat}
    (atEnd : text.OnLine text.length line start part) : text.length = start + part.length := by
  obtain ⟨front, behind, shape, isFront⟩ := Text.exists_around_line atEnd.isLine
  have isStart := Option.some.inj (atEnd.isStart.symm.trans isFront)
  have length := congrArg List.length shape
  have before := atEnd.before
  simp only [List.length_append] at length
  omega

/-- What stands on a line ends in front of what stands on a later one. -/
theorem StandsOn.before {text part front behind other otherFront otherBehind : Text}
    {number later : Nat} (stands : StandsOn text part front behind number)
    (others : StandsOn text other otherFront otherBehind later) (order : number < later) :
    front.length + part.length < otherFront.length := by
  obtain ⟨start, line, isStart, isLine, _, inside⟩ := stands.onLine
  obtain ⟨otherStart, _, isOther, _, behindStart, _⟩ := others.onLine
  have apart := Text.end_lt_start isLine isStart isOther order
  omega

section Places

variable {text content part : Text} {number line : Nat} {floor : Int}

/-- A line of the content stands on its line of the document where it counts as being found. -/
theorem LinesOccur.exists_standsOn (occur : LinesOccur text number floor content)
    (isPart : (Text.lines content)[line]? = some part) :
    ∃ front behind, StandsOn text part front behind (number + line)
      ∧ placeIn text part (lineWindow text number floor (Text.lines content) line)
        = front.length := by
  obtain ⟨place, occurs⟩ := occur.occurs line part isPart
  have within := (List.getElem?_eq_some_iff.1 isPart).1
  have room := occur.inside
  have inside : number + line < (Text.lines text).length := by omega
  have startInside : number + line < (Text.lineStarts text).length := by
    rwa [length_lineStarts_eq]
  obtain ⟨whole, isLine⟩ : ∃ whole, (Text.lines text)[number + line]? = some whole :=
    ⟨_, List.getElem?_eq_getElem inside⟩
  obtain ⟨start, isStart⟩ : ∃ start, (Text.lineStarts text)[number + line]? = some start :=
    ⟨_, List.getElem?_eq_getElem startInside⟩
  rw [lineWindow] at occurs ⊢
  generalize floorBefore text number floor (Text.lines content) line = reached at occurs ⊢
  have window : searchWindow text (number + line) reached
      = (max reached start, (start : Int) + whole.length) := by
    rw [searchWindow, isStart, isLine]
  obtain ⟨_, stopInside, stopLast⟩ :=
    searchBounds?_inside (searchBounds?_natCast text (number + line) reached)
  have first : 0 ≤ (searchWindow text (number + line) reached).1 := by
    rw [window]
    exact Int.le_trans (Int.natCast_nonneg start) (Int.le_max_right _ _)
  obtain ⟨found, _⟩ := placeIn_first first stopInside stopLast occurs
  obtain ⟨place, isPlace⟩ := Int.eq_ofNat_of_zero_le (Int.le_trans first found.lower)
  have stands := found.stands
  have lower := found.lower
  have upper := found.upper
  rw [isPlace] at stands lower upper
  rw [window] at lower upper stopLast
  dsimp only at lower upper stopLast
  obtain ⟨behind, shape⟩ := stands
  have length : (text.take place).length = place := List.length_take_of_le (by omega)
  refine ⟨text.take place, behind, ⟨?_, start, whole, isStart, isLine, ?_, ?_⟩, ?_⟩
  · rw [List.append_assoc, shape, Int.toNat_natCast, List.take_append_drop]
  · omega
  · omega
  · rw [isPlace, length]

/-- The offsets of a content whose first line is looked for on line `number`. -/
def contentOffsets (text : Text) (number : Nat) (floor : Int) (content : Text) : LineOffsets :=
  ⟨(Text.startsFrom 0 (Text.lines content)).map Int.ofNat,
    linePlaces text number floor (Text.lines content)⟩

/-- The offsets on a line of the content keep their distance from the line's place. -/
theorem LinesOccur.exists_front (occur : LinesOccur text number floor content) {start : Nat}
    (isPart : (Text.lines content)[line]? = some part)
    (isStart : (Text.lineStarts content)[line]? = some start) :
    ∃ front behind, StandsOn text part front behind (number + line)
      ∧ ∀ offset : Nat, start ≤ offset → offset ≤ start + part.length →
        (contentOffsets text number floor content).locate offset
          = .ok (front.length + (offset - start) : Nat) := by
  obtain ⟨front, behind, stands, found⟩ := occur.exists_standsOn isPart
  refine ⟨front, behind, stands, fun offset after before => ?_⟩
  obtain ⟨distance, rfl⟩ := Nat.exists_eq_add_of_le after
  have inside : distance ≤ part.length := by omega
  have sent := @sendTo_contentPlace text content number floor (start + distance : Nat)
    (Int.natCast_nonneg _)
  rw [Int.natCast_add, contentPlace_line isPart isStart inside, found] at sent
  rw [contentOffsets, Int.natCast_add, sent]
  congr 1
  omega

end Places

/-- Offsets into a content that are sent to their own characters of the document, keep their
distance as long as there is no line feed between them, and their strict order otherwise. -/
structure LineOffsets.Faithful (offsets : LineOffsets) (text content : Text) : Prop where
  character : ∀ (offset : Nat) (char : Char), content[offset]? = some char → char ≠ '\n' →
    ∃ place : Nat, offsets.locate offset = .ok place ∧ text[place]? = some char
  distance : ∀ offset other : Nat, offset ≤ other → other ≤ content.length →
    '\n' ∉ content.slice offset other →
    ∃ place, offsets.locate offset = .ok place
      ∧ offsets.locate other = .ok (place + (other - offset))
  order : ∀ offset other : Nat, offset ≤ other → other ≤ content.length →
    '\n' ∈ content.slice offset other →
    ∃ place otherPlace, offsets.locate offset = .ok place
      ∧ offsets.locate other = .ok otherPlace ∧ place < otherPlace

section Offsets

variable {text content : Text} {number : Nat} {floor : Int}

/-- Lines that occur on their own lines of the document have faithful offsets. -/
theorem LinesOccur.faithful (occur : LinesOccur text number floor content) :
    (contentOffsets text number floor content).Faithful text content where
  character := by
    intro offset char isChar noBreak
    have inside := (List.getElem?_eq_some_iff.1 isChar).1
    obtain ⟨start, part, onLine, stops⟩ := Text.exists_onLine (Nat.le_of_lt inside)
    obtain ⟨front, behind, stands, located⟩ := occur.exists_front onLine.isLine onLine.isStart
    have before := stops char isChar noBreak
    have after := onLine.behind
    obtain ⟨contentFront, contentBehind, shape, isFront⟩ := Text.exists_around_line onLine.isLine
    obtain rfl : start = contentFront.length := Option.some.inj (onLine.isStart.symm.trans isFront)
    refine ⟨_, located offset onLine.behind onLine.before, ?_⟩
    rw [shape, Text.getElem?_stretch after before] at isChar
    rw [stands.shape, Text.getElem?_stretch (by omega) (by omega), Nat.add_sub_cancel_left, isChar]
  distance := by
    intro offset other order inside oneLine
    obtain ⟨line, start, part, onLine, otherLine⟩ := Text.exists_common_line order inside oneLine
    obtain ⟨front, behind, _, located⟩ := occur.exists_front onLine.isLine onLine.isStart
    refine ⟨_, located offset onLine.behind onLine.before, ?_⟩
    rw [located other otherLine.behind otherLine.before]
    have after := onLine.behind
    congr 1
    omega
  order := by
    intro offset other order inside someBreak
    have count := Text.count_take order inside
    have breaks := List.count_pos_iff.2 someBreak
    obtain ⟨start, part, onLine, _⟩ := Text.exists_onLine (Nat.le_trans order inside)
    obtain ⟨otherStart, otherPart, otherLine, _⟩ := Text.exists_onLine inside
    obtain ⟨front, behind, stands, located⟩ := occur.exists_front onLine.isLine onLine.isStart
    obtain ⟨otherFront, otherBehind, otherStands, otherLocated⟩ :=
      occur.exists_front otherLine.isLine otherLine.isStart
    refine ⟨_, _, located offset onLine.behind onLine.before,
      otherLocated other otherLine.behind otherLine.before, ?_⟩
    have apart := stands.before otherStands (by omega)
    have before := onLine.before
    have after := onLine.behind
    omega

/-- A slice of the content without line feeds is a slice of the document. -/
theorem LinesOccur.slice_eq (occur : LinesOccur text number floor content) {start stop : Nat}
    (order : start ≤ stop) (inside : stop ≤ content.length)
    (oneLine : '\n' ∉ content.slice start stop) {place otherPlace : Int}
    (isPlace : (contentOffsets text number floor content).locate start = .ok place)
    (isOther : (contentOffsets text number floor content).locate stop = .ok otherPlace) :
    text.slice place otherPlace = content.slice start stop := by
  obtain ⟨line, lineStart, part, onLine, otherLine⟩ := Text.exists_common_line order inside oneLine
  obtain ⟨front, behind, stands, located⟩ := occur.exists_front onLine.isLine onLine.isStart
  obtain ⟨contentFront, contentBehind, shape, isFront⟩ := Text.exists_around_line onLine.isLine
  obtain rfl : lineStart = contentFront.length :=
    Option.some.inj (onLine.isStart.symm.trans isFront)
  rw [located start onLine.behind onLine.before, Except.ok.injEq] at isPlace
  rw [located stop otherLine.behind otherLine.before, Except.ok.injEq] at isOther
  obtain ⟨distance, rfl⟩ := Nat.exists_eq_add_of_le onLine.behind
  obtain ⟨further, rfl⟩ := Nat.exists_eq_add_of_le otherLine.behind
  have reach := otherLine.before
  rw [← isPlace, ← isOther, Nat.add_sub_cancel_left, Nat.add_sub_cancel_left, stands.shape, shape,
    Text.slice_part (by omega) (by omega), Text.slice_part (by omega) (by omega)]

/-- What the content is sent to starts with its first line and ends with its last one. -/
theorem LinesOccur.first_last (occur : LinesOccur text number floor content) {place stop : Int}
    (isPlace : (contentOffsets text number floor content).locate 0 = .ok place)
    (isStop : (contentOffsets text number floor content).locate content.length = .ok stop)
    {first last : Text} (isFirst : (Text.lines content).head? = some first)
    (isLast : (Text.lines content).getLast? = some last) :
    first <+: text.slice place stop ∧ last <:+ text.slice place stop := by
  obtain ⟨lastStart, part, atEnd, _⟩ := Text.exists_onLine (Nat.le_refl content.length)
  rw [List.take_length] at atEnd
  have isFinal : (Text.lines content)[content.count '\n']? = some last := by
    rw [← isLast, List.getLast?_eq_getElem?, ← length_lineStarts_eq, Text.length_lineStarts,
      Nat.add_sub_cancel]
  obtain rfl : part = last := Option.some.inj (atEnd.isLine.symm.trans isFinal)
  have isHead : (Text.lines content)[0]? = some first := by rw [← isFirst, List.head?_eq_getElem?]
  obtain ⟨front, behind, stands, located⟩ := occur.exists_front isHead rfl
  obtain ⟨lastFront, lastBehind, lastStands, lastLocated⟩ :=
    occur.exists_front atEnd.isLine atEnd.isStart
  have atStart := located 0 (Nat.le_refl 0) (Nat.zero_le _)
  rw [Int.natCast_zero, isPlace, Except.ok.injEq, Nat.sub_self, Nat.add_zero] at atStart
  have atStop := lastLocated content.length atEnd.behind atEnd.before
  rw [isStop, Except.ok.injEq] at atStop
  have reach := atEnd.length_eq
  have order : front.length ≤ lastFront.length
      ∧ front.length + first.length ≤ lastFront.length + part.length := by
    rcases Nat.eq_zero_or_pos (content.count '\n') with oneLine | moreLines
    · obtain rfl : first = part := by
        rw [oneLine, isHead] at isFinal
        exact Option.some.inj isFinal
      obtain rfl : lastStart = 0 := by
        have isStart := atEnd.isStart
        rw [oneLine] at isStart
        exact (Option.some.inj isStart).symm
      have same := (located 0 (Nat.le_refl 0) (Nat.zero_le _)).symm.trans
        (lastLocated 0 (Nat.le_refl 0) (Nat.zero_le _))
      rw [Except.ok.injEq] at same
      omega
    · have apart := stands.before lastStands (by omega)
      omega
  have inside := congrArg List.length lastStands.shape
  simp only [List.length_append] at inside
  rw [reach, Nat.add_sub_cancel_left] at atStop
  subst atStart atStop
  constructor
  · rw [stands.shape]
    refine Text.prefix_slice order.2 ?_
    rw [← stands.shape]
    omega
  · rw [lastStands.shape]
    exact Text.suffix_slice order.1

end Offsets

/-- Where the lines of a content occur on their own lines of the document, behind the places
where the searches for them start, the offsets into the content are faithful. Every text node
of the content stands for the stretch of it from the first to the last token that is found of
some running text, and is exactly that stretch unless there is a line feed in it. The container's
source starts with the first line of the content and ends with the last one. -/
theorem fillContainer_faithful (text : Text) (state : ReadState) (token : BlockToken)
    (container : OpenNode) {number : Nat} {last : Int}
    (onLine : token.lineRange = some ((number : Int), last))
    (occur : LinesOccur text number state.floor token.content) :
    ∃ offsets located filled after nodes,
      (locateLines (.ofText text) (some number) 0 (Text.lines token.content)).Gives state offsets
        located
      ∧ offsets.Faithful text token.content
      ∧ (fillContainer (.ofText text) token container).Gives state filled after
      ∧ filled.children = container.children ++ nodes
      ∧ (∀ node : Node, node.Within nodes → node.type = .str →
        ∃ start stop : Nat, start < stop ∧ stop ≤ token.content.length
          ∧ IsTextStretch token.content (token.children.getD []) start stop
          ∧ offsets.locate start = .ok node.span.start ∧ offsets.locate stop = .ok node.span.stop
          ∧ ('\n' ∉ token.content.slice start stop →
            text.slice node.span.start node.span.stop = token.content.slice start stop))
      ∧ ∀ first final, (Text.lines token.content).head? = some first →
        (Text.lines token.content).getLast? = some final →
        first <+: text.slice filled.span.start filled.span.stop
          ∧ final <:+ text.slice filled.span.start filled.span.stop := by
  obtain ⟨nodes, _, elsewhere⟩ := exists_nodes token .document
  obtain ⟨located, lines⟩ := locateLines_gives text number 0 (Text.lines token.content) state
  obtain ⟨after, filled⟩ := elsewhere text state container number last onLine
  obtain ⟨afterEmpty, filledEmpty⟩ :=
    elsewhere text state ⟨.document, ⟨0, 0⟩, []⟩ number last onLine
  have sendTo := @sendTo_contentPlace text token.content number state.floor
  refine ⟨contentOffsets text number state.floor token.content, located, _, after, _, lines,
    occur.faithful, filled, rfl, ?_, ?_⟩
  · intro node within isText
    have numbered := lines
    rw [show some (number : Int) = token.lineRange.map (·.1) by rw [onLine]; rfl] at numbered
    obtain ⟨start, stop, stretch, isStart, isStop⟩ :=
      fillContainer_texts numbered (by decide) filledEmpty node within isText
    obtain ⟨order, inside⟩ := stretch.inside
    exact ⟨start, stop, order, inside, stretch, isStart, isStop, fun oneLine =>
      occur.slice_eq (Nat.le_of_lt order) inside oneLine isStart isStop⟩
  · intro first final isFirst isFinal
    exact occur.first_last (sendTo 0 (Int.le_refl 0)) (sendTo _ (Int.natCast_nonneg _)) isFirst
      isFinal

/-- A quotation of two lines with code in the second one. -/
def quotation : Text :=
  "> ab\n> cd\x60e\x60f\n".toList

/-- The token of the paragraph in the quotation, without the marks. -/
def quotedParagraph : BlockToken where
  kind := .inline
  content := "ab\ncd\x60e\x60f".toList
  lineRange := some (0, 2)
  children := some [.ofText "ab".toList 0, { kind := .softBreak }, .ofText "cd".toList 0,
    { kind := .codeSpan, markup := "\x60".toList, content := "e".toList },
    .ofText "f".toList 0]

theorem lines_quotedParagraph :
    Text.lines quotedParagraph.content = ["ab".toList, "cd\x60e\x60f".toList] := by
  decide +kernel

theorem linesOccur_quotation : LinesOccur quotation 0 0 quotedParagraph.content := by
  refine ⟨by decide +kernel, fun line part isPart => ?_⟩
  rw [lines_quotedParagraph] at isPart ⊢
  match line with
  | 0 =>
    obtain rfl : "ab".toList = part := Option.some.inj isPart
    have window : lineWindow quotation 0 0 ["ab".toList, "cd\x60e\x60f".toList] 0 = (0, 4) := by
      decide +kernel
    rw [window]
    exact ⟨2, by decide, by decide, by decide +kernel⟩
  | 1 =>
    obtain rfl : "cd\x60e\x60f".toList = part := Option.some.inj isPart
    have window : lineWindow quotation 0 0 ["ab".toList, "cd\x60e\x60f".toList] 1 = (5, 13) := by
      decide +kernel
    rw [window]
    exact ⟨7, by decide, by decide, by decide +kernel⟩
  | line + 2 => cases isPart

/-- The paragraph has a text node that goes on over the end of a line, and one behind the code. -/
theorem fillContainer_quotation :
    ∃ filled after, (fillContainer (.ofText quotation) quotedParagraph
        ⟨.paragraph, ⟨0, 0⟩, []⟩).Gives {} filled after
      ∧ filled.places = (⟨2, 13⟩, [(.str, ⟨2, 9⟩), (.code, ⟨9, 12⟩), (.str, ⟨12, 13⟩)]) :=
  Reading.exists_gives (by decide +kernel)

/-- The text nodes of the quoted paragraph stand for its running text, and its source starts with
its first line and ends with its last one. -/
theorem fillContainer_faithful_quotation :
    ∃ (offsets : LineOffsets) (filled : OpenNode) (after : ReadState),
      offsets.Faithful quotation quotedParagraph.content
      ∧ (fillContainer (.ofText quotation) quotedParagraph ⟨.paragraph, ⟨0, 0⟩, []⟩).Gives {}
        filled after
      ∧ filled.places = (⟨2, 13⟩, [(.str, ⟨2, 9⟩), (.code, ⟨9, 12⟩), (.str, ⟨12, 13⟩)])
      ∧ (∃ start stop : Nat,
        IsTextStretch quotedParagraph.content (quotedParagraph.children.getD []) start stop
        ∧ offsets.locate start = .ok 2 ∧ offsets.locate stop = .ok 9)
      ∧ (∃ start stop : Nat,
        IsTextStretch quotedParagraph.content (quotedParagraph.children.getD []) start stop
        ∧ offsets.locate start = .ok 12 ∧ offsets.locate stop = .ok 13
        ∧ ('\n' ∉ quotedParagraph.content.slice start stop →
          quotation.slice 12 13 = quotedParagraph.content.slice start stop))
      ∧ "ab".toList <+: quotation.slice 2 13 ∧ "cd\x60e\x60f".toList <:+ quotation.slice 2 13 := by
  obtain ⟨offsets, _, filled, after, nodes, _, faithful, gives, children, texts, ends⟩ :=
    fillContainer_faithful quotation {} quotedParagraph ⟨.paragraph, ⟨0, 0⟩, []⟩ rfl
      linesOccur_quotation
  obtain ⟨same, sameAfter, givesSame, isPlaces⟩ := fillContainer_quotation
  obtain ⟨rfl, rfl⟩ := gives.unique givesSame
  obtain ⟨isSpan, areNodes⟩ := Prod.mk.inj isPlaces
  rw [List.nil_append] at children
  rw [children] at areNodes
  rw [lines_quotedParagraph, isSpan] at ends
  have isText : ∀ span, (.str, span) ∈ nodes.map (fun node => (node.type, node.span)) →
      ∃ node : Node, node.Within nodes ∧ node.type = .str ∧ node.span = span := by
    intro span member
    obtain ⟨node, isNode, isShown⟩ := List.mem_map.1 member
    obtain ⟨isStr, isPlace⟩ := Prod.mk.inj isShown
    exact ⟨node, .here isNode, isStr, isPlace⟩
  rw [areNodes] at isText
  obtain ⟨first, inFirst, firstText, isFirst⟩ := isText ⟨2, 9⟩ (by simp)
  obtain ⟨second, inSecond, secondText, isSecond⟩ := isText ⟨12, 13⟩ (by simp)
  obtain ⟨start, stop, _, _, stretch, isStart, isStop, _⟩ := texts first inFirst firstText
  obtain ⟨later, last, _, _, laterStretch, isLater, isLast, shown⟩ :=
    texts second inSecond secondText
  rw [isFirst] at isStart isStop
  rw [isSecond] at isLater isLast shown
  exact ⟨offsets, filled, after, faithful, gives, isPlaces, ⟨start, stop, stretch, isStart, isStop⟩,
    ⟨later, last, laterStretch, isLater, isLast, shown⟩, ends _ _ rfl rfl⟩

end JapaneseSpacing
