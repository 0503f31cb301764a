import JapaneseSpacing.Proofs.Source.Search

/-!
# The map from a content to the document

Each line of a content counts as being found behind the one before it, so the map that takes
offsets into the content to the document never decreases: neither inside a line, where distances
are kept, nor at its end, where the next line starts behind it (`locateLines_nonDecreasing`).
-/

namespace JapaneseSpacing

/-- Where the searches for the lines of a content all end, they are the searches for its lines,
and the starts of the lines are paired with the places where they were found. -/
theorem locateLines_findings {source : SourceLines} {line : Option Int} {offset : Nat}
    {parts : List Text} {state after : ReadState} {offsets : LineOffsets}
    (gives : (locateLines source line offset parts).Gives state offsets after) :
    offsets.content = (Text.startsFrom offset parts).map Int.ofNat
      ∧ offsets.document = (lineFindings source state line parts).map (·.position)
      ∧ parts = (lineFindings source state line parts).map (·.part) := by
  induction parts generalizing line offset state offsets after with
  | nil =>
    obtain ⟨rfl, _⟩ := gives.unique (.pure _ _)
    exact ⟨rfl, rfl, rfl⟩
  | cons part rest inductionHypothesis =>
    obtain ⟨position, between, found, more⟩ := gives.exists_between
    obtain ⟨others, last, located, done⟩ := more.exists_between
    obtain ⟨rfl, _⟩ := done.unique (.pure _ _)
    have next : (offset : Int) + part.length + 1 = (offset + part.length + 1 : Nat) := by omega
    rw [next] at located
    obtain ⟨starts, places, same⟩ := inductionHypothesis located
    rw [lineFindings_gives found]
    exact ⟨congrArg (List.cons _) starts, congrArg (List.cons _) places,
      congrArg (List.cons _) same⟩

/-- There is a place for each line of a content that has been located. -/
theorem locateLines_covers {source : SourceLines} {line : Option Int} {content : Text}
    {state after : ReadState} {offsets : LineOffsets}
    (gives : (locateLines source line 0 (Text.lines content)).Gives state offsets after) :
    offsets.Covers := by
  obtain ⟨starts, places⟩ := offsets
  obtain ⟨areStarts, arePlaces, areParts⟩ := @locateLines_findings _ _ 0 _ _ _ _ gives
  dsimp only at areStarts arePlaces
  subst areStarts arePlaces
  exact covers_startsFrom (by rw [List.length_map, congrArg List.length areParts, List.length_map])

/-- A later line counts as being found behind the end of a line. -/
theorem Forward.end_le {text : Text} {first last : Int}
    {findings : List (Finding (SourceLines.ofText text))} (forward : Forward first last findings)
    {number later : Nat} (order : number < later) {part : Text} {place other : Int}
    (isPart : (findings.map (·.part))[number]? = some part)
    (isPlace : (findings.map (·.position))[number]? = some place)
    (isOther : (findings.map (·.position))[later]? = some other) :
    place + part.length ≤ other := by
  rw [List.getElem?_map] at isPart isPlace isOther
  obtain ⟨finding, isFinding, rfl⟩ := Option.map_eq_some_iff.1 isPart
  obtain ⟨laterFinding, isLater, rfl⟩ := Option.map_eq_some_iff.1 isOther
  rw [isFinding, Option.map_some, Option.some.injEq] at isPlace
  obtain ⟨within, rfl⟩ := List.getElem?_eq_some_iff.1 isFinding
  obtain ⟨laterWithin, rfl⟩ := List.getElem?_eq_some_iff.1 isLater
  rw [← isPlace]
  exact (List.pairwise_iff_getElem.1 forward.pairwise number later within laterWithin order).apart

/-- The next line starts behind a line and its line feed, also where starts are counted as
offsets. -/
theorem next_start_eq {parts : List Text} {number : Nat} {start next : Int}
    (isStart : ((Text.startsFrom 0 parts).map Int.ofNat)[number]? = some start)
    (isNext : ((Text.startsFrom 0 parts).map Int.ofNat)[number + 1]? = some next) :
    ∃ part, parts[number]? = some part ∧ next = start + part.length + 1 := by
  rw [List.getElem?_map] at isStart isNext
  obtain ⟨startNat, isStartNat, rfl⟩ := Option.map_eq_some_iff.1 isStart
  obtain ⟨nextNat, isNextNat, rfl⟩ := Option.map_eq_some_iff.1 isNext
  have within : number < parts.length := by
    rw [← Text.length_startsFrom 0]
    exact (List.getElem?_eq_some_iff.1 isStartNat).1
  have isPart : parts[number]? = some parts[number] := List.getElem?_eq_getElem within
  refine ⟨parts[number], isPart, ?_⟩
  rw [Text.startsFrom_next isPart isStartNat isNextNat]
  rfl

/-- Offsets that follow each other from zero on are sent to offsets that follow each other. -/
def LineOffsets.NonDecreasing (offsets : LineOffsets) : Prop :=
  ∀ offset other : Int, 0 ≤ offset → offset ≤ other →
    ∃ place otherPlace, offsets.locate offset = .ok place
      ∧ offsets.locate other = .ok otherPlace ∧ place ≤ otherPlace

/-- The map of a content whose lines were all found or given up never decreases. -/
theorem locateLines_nonDecreasing {text content : Text} {line : Option Int}
    {state after : ReadState} {offsets : LineOffsets}
    (gives : (locateLines (SourceLines.ofText text) line 0 (Text.lines content)).Gives state
      offsets after) : offsets.NonDecreasing := by
  have covers := locateLines_covers gives
  obtain ⟨starts, places⟩ := offsets
  obtain ⟨areStarts, arePlaces, areParts⟩ := @locateLines_findings _ _ 0 _ _ _ _ gives
  have forward := lineFindings_forward text state line 0 (Text.lines content)
  dsimp only at areStarts arePlaces
  subst areStarts arePlaces
  have ascending : ((Text.startsFrom 0 (Text.lines content)).map Int.ofNat).Pairwise (· < ·) :=
    (Text.startsFrom_ascending 0 _).map _ fun _ _ order => Int.ofNat_lt.2 order
  intro offset other inside order
  obtain ⟨number, place, start, isPlace, isStart, behind, before, located⟩ :=
    covers.exists_line inside
  obtain ⟨otherNumber, otherPlace, otherStart, isOtherPlace, isOtherStart, otherBehind,
    otherBefore, otherLocated⟩ := covers.exists_line (Int.le_trans inside order)
  dsimp only at isPlace isStart before isOtherPlace isOtherStart otherBefore
  refine ⟨_, _, located, otherLocated, ?_⟩
  rcases Nat.lt_trichotomy number otherNumber with earlier | rfl | later
  · -- The first offset lies at most at the end of its line, and the other line behind that.
    have within := (List.getElem?_eq_some_iff.1 isOtherStart).1
    have isNext := List.getElem?_eq_getElem (Nat.lt_of_le_of_lt earlier within)
    have shorter := before _ isNext
    obtain ⟨part, isPart, next⟩ := next_start_eq isStart isNext
    rw [areParts] at isPart
    have endBefore := forward.end_le earlier isPart isPlace isOtherPlace
    omega
  · rw [isPlace, Option.some.injEq] at isOtherPlace
    rw [isStart, Option.some.injEq] at isOtherStart
    omega
  · -- The second offset would lie in front of the first.
    have within := (List.getElem?_eq_some_iff.1 isStart).1
    have isNext := List.getElem?_eq_getElem (Nat.lt_of_le_of_lt later within)
    have shorter := otherBefore _ isNext
    have notLater := le_of_ascending ascending isNext isStart later
    omega

end JapaneseSpacing
