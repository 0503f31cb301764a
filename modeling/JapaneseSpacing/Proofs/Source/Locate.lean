import JapaneseSpacing.Proofs.Source.Reading
import JapaneseSpacing.Proofs.Text.Lines
import JapaneseSpacing.Proofs.Text.Occurrence

/-!
# Locating lines in the document

What the search for one line of a content gives (`locatePart_gives`), and how the places of
all lines carry over to offsets (`LineOffsets.Covers.exists_line`). In a document that is the
content itself every line is found where it stands (`locateLines_own`).
-/

namespace JapaneseSpacing

theorem item?_natCast {α : Type} (items : List α) (index : Nat) :
    item? items index = items[index]? := by
  rw [item?, if_pos (Int.natCast_nonneg _), Int.toNat_natCast]

/-! ## One line -/

/-- Where a line of the document starts and stops, as far as it lies behind the floor.
There are no bounds but the floor and the document's end where no such line exists. -/
def searchWindow (text : Text) (number : Nat) (floor : Int) : Int × Int :=
  match (Text.lineStarts text)[number]?, (Text.lines text)[number]? with
  | some start, some line => (max floor start, start + line.length)
  | _, _ => (floor, text.length)

/-- Where a part occurs first in a window. An empty part occurs where the window starts. -/
def occurrenceIn? (text part : Text) (window : Int × Int) : Option Int :=
  if part.isEmpty then some window.1 else (text.find? part window.1 window.2).map Int.ofNat

/-- Where a part counts as being found: at its first occurrence, or else where the window
starts. -/
def placeIn (text part : Text) (window : Int × Int) : Int :=
  (occurrenceIn? text part window).getD window.1

/-- Between which offsets a part is looked for on a line that need not exist: a line number
below zero counts from the last line and must not reach beyond the first one, and without a
line, or on one behind the last, everything behind the floor is searched. -/
def searchBounds? (text : Text) (line : Option Int) (floor : Int) : Option (Int × Int) :=
  match line with
  | none => some (floor, text.length)
  | some line =>
    if line < (Text.lines text).length then
      match item? (Text.lineStarts text) line, item? (Text.lines text) line with
      | some start, some characters => some (max floor start, start + characters.length)
      | _, _ => none
    else some (floor, text.length)

theorem length_lineStarts_eq (text : Text) :
    (Text.lineStarts text).length = (Text.lines text).length := by
  rw [Text.lineStarts_eq, Text.length_startsFrom]

/-- A number that counts lines from the front or from the back stands for one place in lists
of one length. -/
theorem exists_of_item? {α β : Type} {items : List α} {others : List β}
    (sameLength : items.length = others.length) {offset : Int} {item : α} {other : β}
    (isItem : item? items offset = some item) (isOther : item? others offset = some other) :
    ∃ index : Nat, items[index]? = some item ∧ others[index]? = some other := by
  rw [item?] at isItem isOther
  rw [← sameLength] at isOther
  split at isItem
  · next front =>
    rw [if_pos front] at isOther
    exact ⟨_, isItem, isOther⟩
  · next back =>
    rw [if_neg back] at isOther
    split at isItem
    · next inside =>
      rw [if_pos inside] at isOther
      exact ⟨_, isItem, isOther⟩
    · cases isItem

/-- A search starts at or behind the floor and ends inside the text. -/
theorem searchBounds?_inside {text : Text} {line : Option Int} {floor : Int}
    {window : Int × Int} (bounds : searchBounds? text line floor = some window) :
    floor ≤ window.1 ∧ 0 ≤ window.2 ∧ window.2 ≤ text.length := by
  have whole : floor ≤ floor ∧ 0 ≤ (text.length : Int) ∧ (text.length : Int) ≤ text.length :=
    ⟨Int.le_refl _, Int.natCast_nonneg _, Int.le_refl _⟩
  cases line with
  | none =>
    obtain rfl := Option.some.inj bounds
    exact whole
  | some line =>
    rw [searchBounds?] at bounds
    split at bounds
    · split at bounds
      · next start characters isStart isLine =>
        obtain rfl := Option.some.inj bounds
        obtain ⟨number, startThere, lineThere⟩ :=
          exists_of_item? (length_lineStarts_eq text) isStart isLine
        obtain ⟨front, behind, shape, frontStart⟩ := Text.exists_around_line lineThere
        have start_eq : start = front.length := Option.some.inj (startThere.symm.trans frontStart)
        have length := congrArg List.length shape
        rw [List.length_append, List.length_append] at length
        exact ⟨Int.le_max_left _ _, by omega, by omega⟩
      · cases bounds
    · obtain rfl := Option.some.inj bounds
      exact whole

/-- The bounds of a line with a number from zero on. -/
theorem searchBounds?_natCast (text : Text) (number : Nat) (floor : Int) :
    searchBounds? text (some number) floor = some (searchWindow text number floor) := by
  have sameLength := length_lineStarts_eq text
  rw [searchBounds?, searchWindow, item?_natCast, item?_natCast]
  by_cases inside : number < (Text.lines text).length
  · rw [if_pos (Int.ofNat_lt.2 inside), List.getElem?_eq_getElem inside,
      List.getElem?_eq_getElem (show number < (Text.lineStarts text).length by omega)]
  · rw [if_neg (fun less => inside (Int.ofNat_lt.1 less)),
      List.getElem?_eq_none (show (Text.lineStarts text).length ≤ number by omega)]

/-- Once the bounds are known, a part is found or given up in one way. -/
theorem locate_between_gives (text part : Text) (line : Option Int) (window : Int × Int)
    (state : ReadState) : Reading.Gives
      (do
        if (occurrenceIn? text part window).isNone then Reading.note (.lineNotFound part line)
        let position := (occurrenceIn? text part window).getD window.1
        Reading.setFloor (position + part.length)
        return position) state (placeIn text part window)
      { floor := placeIn text part window + part.length
        notes := if (occurrenceIn? text part window).isNone then
            state.notes ++ [.lineNotFound part line]
          else state.notes } := by
  rw [placeIn]
  cases occurrenceIn? text part window with
  | none => exact .bind (.note _ _) (.bind (.setFloor _ _) (.pure _ _))
  | some place => exact .bind (.setFloor _ _) (.pure _ _)

/-- A part is looked for between its bounds, and the floor moves behind the place where it
counts as being found. -/
theorem locatePart_between {text part : Text} {line : Option Int} {window : Int × Int}
    {state : ReadState} (bounds : searchBounds? text line state.floor = some window) :
    (locatePart (SourceLines.ofText text) part line).Gives state (placeIn text part window)
      { floor := placeIn text part window + part.length
        notes := if (occurrenceIn? text part window).isNone then
            state.notes ++ [.lineNotFound part line]
          else state.notes } := by
  refine .bind (.get state) ?_
  have finish := locate_between_gives text part line window state
  cases line with
  | none =>
    obtain rfl := Option.some.inj bounds
    exact .bind (.pure _ _) finish
  | some line =>
    rw [searchBounds?] at bounds
    dsimp only
    split at bounds
    · next inside =>
      have inside : line < (SourceLines.ofText text).lines.length := inside
      rw [if_pos inside, SourceLines.lineStart, SourceLines.lineStop, SourceLines.ofText]
      split at bounds
      · next start characters isStart isLine =>
        obtain rfl := Option.some.inj bounds
        dsimp only
        rw [isStart, isLine]
        exact .bind (.ofOffset _ _) (.bind (.ofOffset _ _) (.bind (.pure _ _) finish))
      · cases bounds
    · next outside =>
      have outside : ¬ line < (SourceLines.ofText text).lines.length := outside
      obtain rfl := Option.some.inj bounds
      rw [if_neg outside]
      exact .bind (.pure _ _) finish

/-- Without bounds there is no search. -/
theorem locatePart_refused {text part : Text} {line : Option Int} {state : ReadState}
    (noBounds : searchBounds? text line state.floor = none) :
    (locatePart (SourceLines.ofText text) part line).Fails state .outOfRange state := by
  refine .later (.get state) ?_
  cases line with
  | none => cases noBounds
  | some line =>
    rw [searchBounds?] at noBounds
    dsimp only
    split at noBounds
    · next inside =>
      have inside : line < (SourceLines.ofText text).lines.length := inside
      rw [if_pos inside, SourceLines.lineStart, SourceLines.lineStop, SourceLines.ofText]
      cases isStart : item? (Text.lineStarts text) line with
      | none => exact .first (.ofOffset state)
      | some start =>
        cases isLine : item? (Text.lines text) line with
        | none => exact .later (.ofOffset _ state) (.first (.ofOffset state))
        | some characters =>
          rw [isStart, isLine] at noBounds
          cases noBounds
    · cases noBounds

/-- A part is looked for on its line, at or behind the floor, and the floor moves behind
the place where it counts as being found. -/
theorem locatePart_gives (text part : Text) (number : Nat) (state : ReadState) :
    (locatePart (SourceLines.ofText text) part (some number)).Gives state
      (placeIn text part (searchWindow text number state.floor))
      { floor := placeIn text part (searchWindow text number state.floor) + part.length
        notes := if (occurrenceIn? text part (searchWindow text number state.floor)).isNone then
            state.notes ++ [.lineNotFound part (some number)]
          else state.notes } :=
  locatePart_between (searchBounds?_natCast text number state.floor)

/-! ## All lines of a content -/

/-- Where the lines of a content count as being found, the first one on line `number`. -/
def linePlaces (text : Text) (number : Nat) (floor : Int) : List Text → List Int
  | [] => []
  | part :: rest =>
    let place := placeIn text part (searchWindow text number floor)
    place :: linePlaces text (number + 1) (place + part.length) rest

theorem locateLines_gives (text : Text) (number offset : Nat) (parts : List Text)
    (state : ReadState) :
    ∃ after, (locateLines (SourceLines.ofText text) (some number) offset parts).Gives state
      ⟨(Text.startsFrom offset parts).map Int.ofNat, linePlaces text number state.floor parts⟩
      after := by
  induction parts generalizing number offset state with
  | nil => exact ⟨state, .pure _ _⟩
  | cons part rest inductionHypothesis =>
    have found := locatePart_gives text part number state
    obtain ⟨after, others⟩ := inductionHypothesis (number + 1) (offset + part.length + 1) _
    exact ⟨after, .bind found (.bind others (.pure _ _))⟩

/-- In a document that is the content itself a line is found where it stands. -/
theorem placeIn_own {text part : Text} {number start : Nat} {floor : Int}
    (isLine : (Text.lines text)[number]? = some part)
    (isStart : (Text.lineStarts text)[number]? = some start) (ahead : floor ≤ start) :
    occurrenceIn? text part (searchWindow text number floor) = some (start : Int) := by
  obtain ⟨front, behind, shape, frontStart⟩ := Text.exists_around_line isLine
  have length_front : front.length = start := by
    rw [isStart, Option.some.injEq] at frontStart
    exact frontStart.symm
  have window : searchWindow text number floor
      = ((start : Int), ((start + part.length : Nat) : Int)) := by
    rw [searchWindow, isStart, isLine]
    simp only [Int.max_eq_right ahead, Int.natCast_add]
  rw [occurrenceIn?, window]
  split
  · rfl
  · have within : front.length + part.length ≤ (front ++ part ++ behind).length := by
      simp only [List.length_append]
      omega
    rw [shape, ← length_front, Text.find?_here (Nat.le_refl _) within]
    rfl

/-- In a document that is the content itself all lines are found where they stand. -/
theorem locateLines_own {text : Text} {number offset : Nat} {parts : List Text}
    {state : ReadState} (areLines : (Text.lines text).drop number = parts)
    (areStarts : (Text.lineStarts text).drop number = Text.startsFrom offset parts)
    (ahead : state.floor ≤ offset) :
    (locateLines (SourceLines.ofText text) (some number) offset parts).Gives state
      ⟨(Text.startsFrom offset parts).map Int.ofNat, (Text.startsFrom offset parts).map Int.ofNat⟩
      { state with
        floor := if parts.isEmpty then state.floor
          else ((offset + (Text.join ['\n'] parts).length : Nat) : Int) } := by
  induction parts generalizing number offset state with
  | nil => exact .pure _ _
  | cons part rest inductionHypothesis =>
    have isLine : (Text.lines text)[number]? = some part := by
      rw [← List.head?_drop, areLines, List.head?_cons]
    have isStart : (Text.lineStarts text)[number]? = some offset := by
      rw [← List.head?_drop, areStarts]
      rfl
    have found := locatePart_gives text part number state
    have occurrence := placeIn_own isLine isStart ahead
    rw [placeIn, occurrence] at found
    have restLines : (Text.lines text).drop (number + 1) = rest := by
      rw [← List.drop_drop, areLines, List.drop_one, List.tail_cons]
    have restStarts : (Text.lineStarts text).drop (number + 1)
        = Text.startsFrom (offset + part.length + 1) rest := by
      rw [← List.drop_drop, areStarts, List.drop_one]
      rfl
    have others := @inductionHypothesis (number + 1) (offset + part.length + 1)
      { state with floor := (offset : Int) + part.length } restLines restStarts
      (by dsimp only; omega)
    have floor : (if rest.isEmpty then (offset : Int) + part.length
        else ((offset + part.length + 1 + (Text.join ['\n'] rest).length : Nat) : Int))
        = ((offset + (Text.join ['\n'] (part :: rest)).length : Nat) : Int) := by
      cases rest with
      | nil => rfl
      | cons next more =>
        simp only [List.isEmpty_cons, Bool.false_eq_true, if_false, Text.join_cons_cons,
          List.length_append, List.length_singleton]
        omega
    dsimp only at others
    rw [floor] at others
    exact .bind found (.bind others (.pure _ _))

/-! ## Offsets -/

/-- Offsets for at least one line, the first of which starts the content. -/
structure LineOffsets.Covers (offsets : LineOffsets) : Prop where
  sameLength : offsets.document.length = offsets.content.length
  first : offsets.content[0]? = some 0

/-- Halving does not end below its lower bound. -/
theorem countUpTo_search_least (entries : List Int) (value : Int) (low high : Nat) :
    low ≤ countUpTo.search entries value low high := by
  fun_induction countUpTo.search entries value low high with
  | case1 low high less middle above inductionHypothesis => exact inductionHypothesis
  | case2 low high less middle below inductionHypothesis => omega
  | case3 low high done => exact Nat.le_refl _

/-- Halving ends between its bounds, in front of its upper bound only at an entry that is
greater than the value, and above its lower bound only behind an entry that is not. -/
theorem countUpTo_search {entries : List Int} {value : Int} {low high : Nat}
    (ordered : low ≤ high) :
    countUpTo.search entries value low high ≤ high
      ∧ (countUpTo.search entries value low high < high →
        value < entries.getD (countUpTo.search entries value low high) 0)
      ∧ (low < countUpTo.search entries value low high →
        entries.getD (countUpTo.search entries value low high - 1) 0 ≤ value) := by
  fun_induction countUpTo.search entries value low high with
  | case1 low high less middle above inductionHypothesis =>
    obtain ⟨bound, greater, others⟩ := inductionHypothesis (by omega)
    refine ⟨by omega, fun inside => ?_, others⟩
    by_cases atMiddle : countUpTo.search entries value low middle < middle
    · exact greater atMiddle
    · have same : countUpTo.search entries value low middle = middle := by omega
      rwa [same]
  | case2 low high less middle below inductionHypothesis =>
    obtain ⟨bound, greater, others⟩ := inductionHypothesis (by omega)
    refine ⟨bound, greater, fun _ => ?_⟩
    by_cases behindMiddle : middle + 1 < countUpTo.search entries value (middle + 1) high
    · exact others behindMiddle
    · have same : countUpTo.search entries value (middle + 1) high = middle + 1 := by
        have least := countUpTo_search_least entries value (middle + 1) high
        omega
      rw [same, Nat.add_sub_cancel]
      omega
  | case3 low high done =>
    exact ⟨ordered, fun inside => absurd inside done, fun above => absurd above (Nat.lt_irrefl _)⟩

theorem le_of_ascending {entries : List Int} (ascending : entries.Pairwise (· < ·))
    {index later : Nat} {entry other : Int} (isEntry : entries[index]? = some entry)
    (isOther : entries[later]? = some other) (order : index ≤ later) : entry ≤ other := by
  obtain ⟨inside, rfl⟩ := List.getElem?_eq_some_iff.1 isEntry
  obtain ⟨laterInside, rfl⟩ := List.getElem?_eq_some_iff.1 isOther
  rcases Nat.eq_or_lt_of_le order with rfl | before
  · exact Int.le_refl _
  · exact Int.le_of_lt (List.pairwise_iff_getElem.1 ascending index later inside laterInside before)

/-- In an ascending list the entries up to a value end where the next one is greater. -/
theorem countUpTo_between {entries : List Int} {value start : Int} {line : Nat}
    (ascending : entries.Pairwise (· < ·)) (isStart : entries[line]? = some start)
    (atLeast : start ≤ value) (nextGreater : ∀ next ∈ entries[line + 1]?, value < next) :
    countUpTo entries value = line + 1 := by
  obtain ⟨bound, greater, others⟩ := @countUpTo_search entries value 0 entries.length
    (Nat.zero_le _)
  rw [← countUpTo] at bound greater others
  have inside : line < entries.length := (List.getElem?_eq_some_iff.1 isStart).1
  rcases Nat.lt_trichotomy (countUpTo entries value) (line + 1) with below | same | above
  · have isEntry : entries[countUpTo entries value]?
        = some (entries.getD (countUpTo entries value) 0) := by
      rw [List.getD_eq_getElem?_getD, List.getElem?_eq_getElem (by omega), Option.getD_some]
    have smaller := le_of_ascending ascending isEntry isStart (by omega)
    have larger := greater (by omega)
    omega
  · exact same
  · have next : line + 1 < entries.length := by omega
    have isNext : entries[line + 1]? = some entries[line + 1] := List.getElem?_eq_getElem next
    have isEntry : entries[countUpTo entries value - 1]?
        = some (entries.getD (countUpTo entries value - 1) 0) := by
      rw [List.getD_eq_getElem?_getD, List.getElem?_eq_getElem (by omega), Option.getD_some]
    have smaller := le_of_ascending ascending isNext isEntry (by omega)
    have notLarger := others (by omega)
    have larger := nextGreater _ isNext
    omega

/-- An offset belongs to the last line that starts at or before it and keeps its distance from
the start of that line. -/
theorem LineOffsets.Covers.exists_line {offsets : LineOffsets} (covers : offsets.Covers)
    {offset : Int} (inside : 0 ≤ offset) :
    ∃ (line : Nat) (found start : Int), offsets.document[line]? = some found
      ∧ offsets.content[line]? = some start
      ∧ start ≤ offset ∧ (∀ next ∈ offsets.content[line + 1]?, offset < next)
      ∧ offsets.locate offset = .ok (found + (offset - start)) := by
  obtain ⟨within, first⟩ := List.getElem?_eq_some_iff.1 covers.first
  obtain ⟨bound, greater, others⟩ := @countUpTo_search offsets.content offset 0
    offsets.content.length (Nat.zero_le _)
  have positive : countUpTo offsets.content offset ≠ 0 := by
    intro none
    have below := greater (by rw [← countUpTo, none]; exact within)
    rw [← countUpTo, none, List.getD_eq_getElem?_getD, covers.first, Option.getD_some] at below
    omega
  rw [← countUpTo] at bound greater others
  obtain ⟨line, isLine⟩ := Nat.exists_eq_succ_of_ne_zero positive
  rw [isLine] at bound greater others
  have documentLine : line < offsets.document.length := by
    rw [covers.sameLength]
    exact bound
  refine ⟨line, _, _, List.getElem?_eq_getElem documentLine, List.getElem?_eq_getElem bound,
    ?_, ?_, ?_⟩
  · have notLater := others (Nat.succ_pos line)
    rwa [Nat.succ_sub_one, List.getD_eq_getElem?_getD, List.getElem?_eq_getElem bound,
      Option.getD_some] at notLater
  · intro next isNext
    obtain ⟨nextInside, rfl⟩ := List.getElem?_eq_some_iff.1 isNext
    have later := greater nextInside
    rwa [List.getD_eq_getElem?_getD, isNext, Option.getD_some] at later
  · have index : (countUpTo offsets.content offset : Int) - 1 = (line : Nat) := by omega
    rw [LineOffsets.locate]
    simp only [index, item?_natCast, List.getElem?_eq_getElem documentLine,
      List.getElem?_eq_getElem bound]

/-- Where every line is found where it stands, every offset is. -/
theorem LineOffsets.Covers.locate_own {starts : List Int}
    (covers : (LineOffsets.mk starts starts).Covers) {offset : Int} (inside : 0 ≤ offset) :
    (LineOffsets.mk starts starts).locate offset = .ok offset := by
  obtain ⟨line, found, start, isFound, isStart, _, _, located⟩ := covers.exists_line inside
  dsimp only at isFound isStart
  rw [isFound, Option.some.injEq] at isStart
  rw [located, isStart]
  congr 1
  omega

theorem covers_startsFrom {text : Text} {places : List Int}
    (sameLength : places.length = (Text.lines text).length) :
    (LineOffsets.mk ((Text.startsFrom 0 (Text.lines text)).map Int.ofNat) places).Covers where
  sameLength := by rw [sameLength, List.length_map, Text.length_startsFrom]
  first := by
    obtain ⟨first, more, split⟩ := Text.exists_lines_cons text
    rw [split]
    rfl

end JapaneseSpacing
