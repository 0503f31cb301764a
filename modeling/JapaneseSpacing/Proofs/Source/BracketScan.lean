import JapaneseSpacing.Proofs.Source.LinkEnd
import JapaneseSpacing.Proofs.Text.OnLine
import JapaneseSpacing.Proofs.Text.Stretch

/-!
# Where counting brackets stops

A bracket counts if it is not escaped, that is if an even number of backslashes stands right in
front of it. Counting from any offset stops behind the first closing bracket that makes up for
all the brackets opened since, or else at the end of the source (`skipBalanced_stops`), so it finds
the end of every link with balanced parts, whatever stands around the link (`bracketScan_exact`).
-/

namespace JapaneseSpacing

namespace Text

/-! ## Escaped characters -/

/-- Whether a text ends with a backslash that no other backslash takes out of the count. -/
def endsEscaping (text : Text) : Bool :=
  (text.reverse.takeWhile (· == '\\')).length % 2 == 1

/-- Whether a character stands at a place and is not escaped there. -/
def hasUnescaped (text : Text) (char : Char) (place : Nat) : Bool :=
  text[place]? == some char && !endsEscaping (text.take place)

/-- How often a character stands in a text without being escaped. -/
def unescapedCount (text : Text) (char : Char) : Nat :=
  (List.range text.length).countP (text.hasUnescaped char)

variable {text front : Text} {char : Char}

theorem endsEscaping_backslash (text : Text) :
    (text ++ ['\\']).endsEscaping = !text.endsEscaping := by
  rw [endsEscaping, List.reverse_append, List.reverse_singleton, List.singleton_append,
    List.takeWhile_cons, if_pos (by rfl), List.length_cons, endsEscaping]
  rcases Nat.mod_two_eq_zero_or_one (text.reverse.takeWhile (· == '\\')).length with even | odd
  · rw [Nat.add_mod, even]
    rfl
  · rw [Nat.add_mod, odd]
    rfl

theorem endsEscaping_char (text : Text) (notBackslash : char ≠ '\\') :
    (text ++ [char]).endsEscaping = false := by
  have isFalse : ¬ (char == '\\') = true := by simpa using notBackslash
  rw [endsEscaping, List.reverse_append, List.reverse_singleton, List.singleton_append,
    List.takeWhile_cons, if_neg isFalse]
  rfl

/-- A character behind an escaping backslash escapes nothing itself. -/
theorem endsEscaping_escaped (escapes : text.endsEscaping = true) (char : Char) :
    (text ++ [char]).endsEscaping = false := by
  by_cases isBackslash : char = '\\'
  · rw [isBackslash, endsEscaping_backslash, escapes]
    rfl
  · exact endsEscaping_char text isBackslash

/-- Behind another character than a backslash it does not matter what stands in front. -/
theorem endsEscaping_append (front : Text) (member : char ∈ text) (notBackslash : char ≠ '\\') :
    (front ++ text).endsEscaping = text.endsEscaping := by
  have stops : ¬ ∀ other ∈ text.reverse, (other == '\\') = true := fun all =>
    notBackslash (beq_iff_eq.1 (all char (List.mem_reverse.2 member)))
  rw [endsEscaping, endsEscaping, List.reverse_append, List.takeWhile_append, if_neg]
  intro whole
  refine stops fun other isOther => ?_
  rw [← (List.takeWhile_prefix (· == '\\')).eq_of_length whole] at isOther
  exact List.mem_takeWhile_imp (p := (· == '\\')) isOther

theorem hasUnescaped_append (behind : Text) {place : Nat} (inside : place < text.length) :
    (text ++ behind).hasUnescaped char place = text.hasUnescaped char place := by
  rw [hasUnescaped, hasUnescaped, List.getElem?_append_left inside,
    List.take_append_of_le_length (Nat.le_of_lt inside)]

theorem hasUnescaped_last (text : Text) (last : Char) :
    (text ++ [last]).hasUnescaped char text.length = (last == char && !text.endsEscaping) := by
  rw [hasUnescaped, List.getElem?_concat_length, List.take_left, Option.some_beq_some]

/-- One character more counts if it is the one that is counted and is not escaped. -/
theorem unescapedCount_concat (text : Text) (last : Char) :
    (text ++ [last]).unescapedCount char
      = text.unescapedCount char + if last = char ∧ text.endsEscaping = false then 1 else 0 := by
  have same : (List.range text.length).countP ((text ++ [last]).hasUnescaped char)
      = text.unescapedCount char :=
    List.countP_congr fun place member => by
      rw [hasUnescaped_append _ (List.mem_range.1 member)]
  rw [unescapedCount, List.length_append, List.length_singleton, List.range_succ,
    List.countP_append, same, List.countP_singleton, hasUnescaped_last]
  simp

theorem mem_of_unescapedCount_pos (some : 0 < text.unescapedCount char) : char ∈ text := by
  obtain ⟨place, _, has⟩ := List.countP_pos_iff.1 some
  rw [hasUnescaped, Bool.and_eq_true, beq_iff_eq] at has
  exact List.mem_of_getElem? has.1

end Text

/-! ## The first bracket that makes up for the others -/

/-- A text ends with a bracket that is not escaped and closes as many as were opened. -/
structure BracketPair.EvensOut (pair : BracketPair) (text : Text) : Prop where
  closes : text.hasUnescaped pair.closing (text.length - 1) = true
  sameCount : text.unescapedCount pair.opening = text.unescapedCount pair.closing

/-- Behind `front` a text is read as far as it takes to even out what was read, or to its end. -/
structure BracketPair.StopsBehind (pair : BracketPair) (front text : Text) (length : Nat) :
    Prop where
  inside : length ≤ text.length
  evensOut : length < text.length → pair.EvensOut (front ++ text.take length)
  first : ∀ shorter, 0 < shorter → shorter ≤ text.length →
    pair.EvensOut (front ++ text.take shorter) → length ≤ shorter

namespace BracketPair

variable {pair : BracketPair} {front text : Text} {char : Char} {length : Nat} {depth : Int}

/-- How many brackets of a text are opened and not closed. -/
def depthBehind (pair : BracketPair) (front : Text) : Int :=
  front.unescapedCount pair.opening - front.unescapedCount pair.closing

theorem depthBehind_opening (unescaped : front.endsEscaping = false) :
    pair.depthBehind (front ++ [pair.opening]) = pair.depthBehind front + 1 := by
  rw [depthBehind, depthBehind, Text.unescapedCount_concat, Text.unescapedCount_concat,
    if_pos ⟨rfl, unescaped⟩, if_neg fun isClosing => pair.distinct isClosing.1]
  omega

theorem depthBehind_closing (unescaped : front.endsEscaping = false) :
    pair.depthBehind (front ++ [pair.closing]) = pair.depthBehind front - 1 := by
  rw [depthBehind, depthBehind, Text.unescapedCount_concat, Text.unescapedCount_concat,
    if_neg fun isOpening => pair.distinct isOpening.1.symm, if_pos ⟨rfl, unescaped⟩]
  omega

/-- Only brackets that are not escaped change the depth. -/
theorem depthBehind_passed
    (passed : char ≠ pair.opening ∧ char ≠ pair.closing ∨ front.endsEscaping = true) :
    pair.depthBehind (front ++ [char]) = pair.depthBehind front := by
  have passes : ∀ bracket, bracket = pair.opening ∨ bracket = pair.closing →
      ¬ (char = bracket ∧ front.endsEscaping = false) := by
    rintro bracket isBracket ⟨rfl, unescaped⟩
    rcases passed with ⟨notOpening, notClosing⟩ | escaped
    · exact isBracket.elim notOpening notClosing
    · rw [unescaped] at escaped
      cases escaped
  rw [depthBehind, depthBehind, Text.unescapedCount_concat, Text.unescapedCount_concat,
    if_neg (passes _ (.inl rfl)), if_neg (passes _ (.inr rfl)), Nat.add_zero, Nat.add_zero]

/-- A character evens out a text if it closes the one bracket that is still open. -/
theorem evensOut_concat_iff :
    pair.EvensOut (text ++ [char])
      ↔ char = pair.closing ∧ text.endsEscaping = false ∧ pair.depthBehind text = 1 := by
  have last : (text ++ [char]).length - 1 = text.length := by simp
  have closes : (text ++ [char]).hasUnescaped pair.closing text.length = true
      ↔ char = pair.closing ∧ text.endsEscaping = false := by
    rw [Text.hasUnescaped_last, Bool.and_eq_true, beq_iff_eq, Bool.not_eq_true']
  constructor
  · rintro ⟨isLast, sameCount⟩
    obtain ⟨rfl, unescaped⟩ := closes.1 (last ▸ isLast)
    have depth := pair.depthBehind_closing unescaped
    rw [depthBehind, sameCount] at depth
    exact ⟨rfl, unescaped, by omega⟩
  · rintro ⟨rfl, unescaped, depth⟩
    refine ⟨last.symm ▸ closes.2 ⟨rfl, unescaped⟩, ?_⟩
    have closed := pair.depthBehind_closing unescaped
    rw [depth, depthBehind] at closed
    omega

/-- A character that does not even out what was read is read over. -/
theorem StopsBehind.cons (stops : pair.StopsBehind (front ++ [char]) text length)
    (notEven : ¬ pair.EvensOut (front ++ [char])) :
    pair.StopsBehind front (char :: text) (length + 1) := by
  have shape : ∀ number, front ++ (char :: text).take (number + 1)
      = front ++ [char] ++ text.take number := by
    intro number
    rw [List.take_succ_cons, List.append_assoc, List.singleton_append]
  refine ⟨Nat.succ_le_succ stops.inside, fun further => ?_, fun shorter some within evensOut => ?_⟩
  · rw [shape]
    exact stops.evensOut (Nat.lt_of_succ_lt_succ further)
  · obtain ⟨number, rfl⟩ := Nat.exists_eq_add_one_of_ne_zero (Nat.ne_of_gt some)
    rw [shape] at evensOut
    rcases Nat.eq_zero_or_pos number with rfl | more
    · rw [List.take_zero, List.append_nil] at evensOut
      exact absurd evensOut notEven
    · exact Nat.succ_le_succ (stops.first number more (Nat.le_of_succ_le_succ within) evensOut)

/-- A backslash and the character behind it are read over. -/
theorem StopsBehind.escaped
    (stops : pair.StopsBehind (front ++ ['\\'] ++ [char]) text length)
    (escapes : (front ++ ['\\']).endsEscaping = true) :
    pair.StopsBehind front ('\\' :: char :: text) (length + 2) := by
  refine (stops.cons fun evensOut => ?_).cons fun evensOut => ?_
  · rw [(evensOut_concat_iff.1 evensOut).2.1] at escapes
    cases escapes
  · exact pair.closing_ne_backslash (evensOut_concat_iff.1 evensOut).1.symm

/-- Counting brackets stops behind the first one that makes up for the others. The induction is on
what is left to read; the depth tells what was read. -/
theorem lengthToClose_stopsBehind (pair : BracketPair) (front text : Text)
    (unescaped : front.endsEscaping = false) :
    pair.StopsBehind front text (pair.lengthToClose (pair.depthBehind front) text) := by
  match text with
  | [] =>
    exact ⟨Nat.le_refl 0, nofun, fun shorter some within _ =>
      absurd within (Nat.not_le_of_gt some)⟩
  | first :: rest =>
    by_cases isBackslash : first = '\\'
    · subst isBackslash
      match rest with
      | [] => exact ⟨Nat.le_refl 1, fun further => absurd further (Nat.lt_irrefl 1),
          fun shorter some _ _ => some⟩
      | char :: rest =>
        have escapes : (front ++ ['\\']).endsEscaping = true := by
          rw [Text.endsEscaping_backslash, unescaped]
          rfl
        have stops := lengthToClose_stopsBehind pair (front ++ ['\\'] ++ [char]) rest
          (Text.endsEscaping_escaped escapes char)
        rw [depthBehind_passed (.inr escapes), depthBehind_passed
          (.inl ⟨pair.opening_ne_backslash.symm, pair.closing_ne_backslash.symm⟩)] at stops
        rw [lengthToClose_escaped]
        exact stops.escaped escapes
    have stops := lengthToClose_stopsBehind pair (front ++ [first]) rest
      (Text.endsEscaping_char front isBackslash)
    have notEven : first ≠ pair.closing → ¬ pair.EvensOut (front ++ [first]) :=
      fun notClosing evensOut => notClosing (evensOut_concat_iff.1 evensOut).1
    by_cases isOpening : first = pair.opening
    · subst isOpening
      rw [depthBehind_opening unescaped] at stops
      rw [lengthToClose_opening]
      exact stops.cons (notEven pair.distinct)
    by_cases isClosing : first = pair.closing
    · subst isClosing
      rw [depthBehind_closing unescaped] at stops
      rw [lengthToClose_closing]
      split
      · next isOne =>
        exact ⟨Nat.succ_le_succ (Nat.zero_le _),
          fun _ => evensOut_concat_iff.2 ⟨rfl, unescaped, isOne⟩, fun shorter some _ _ => some⟩
      · next notOne =>
        exact stops.cons fun evensOut => notOne (evensOut_concat_iff.1 evensOut).2.2
    · rw [depthBehind_passed (.inl ⟨isOpening, isClosing⟩)] at stops
      rw [lengthToClose_plain isOpening isClosing isBackslash]
      exact stops.cons (notEven isClosing)
termination_by text.length

/-- The bracket that evens out a part of a source is not escaped in the source either, because an
opening bracket stands between it and whatever stands in front of the part. -/
theorem EvensOut.hasUnescaped (evensOut : pair.EvensOut text) (before behind : Text) :
    (before ++ text ++ behind).hasUnescaped pair.closing (before.length + text.length - 1)
      = true := by
  rcases List.eq_nil_or_concat text with rfl | ⟨init, last, rfl⟩
  · cases evensOut.closes
  · rw [List.concat_eq_append] at evensOut ⊢
    obtain ⟨rfl, unescaped, depth⟩ := evensOut_concat_iff.1 evensOut
    rw [depthBehind] at depth
    have opened : pair.opening ∈ init := Text.mem_of_unescapedCount_pos (by omega)
    have place : before.length + (init ++ [pair.closing]).length - 1 = (before ++ init).length := by
      simp only [List.length_append, List.length_singleton]
      omega
    rw [place, ← List.append_assoc, Text.hasUnescaped_append _ (by simp), Text.hasUnescaped_last,
      Text.endsEscaping_append before opened pair.opening_ne_backslash, unescaped, beq_self_eq_true]
    rfl

end BracketPair

theorem skipBalanced_front (before text : Text) (pair : BracketPair) :
    skipBalanced (before ++ text) before.length pair.opening pair.closing
      = .ok ((before.length + pair.lengthToClose 0 text : Nat) : Int) := by
  cases text with
  | nil =>
    rw [List.append_nil, skipBalanced, if_pos (Int.le_refl _)]
    rfl
  | cons first rest => exact skipBalanced_middle before _ (List.cons_ne_nil first rest)

/-- Skipping from any offset of a source stops inside the source. It stops in front of the end
only behind a closing bracket that is not escaped, when as many brackets have been closed as were
opened, and then behind the first such bracket. -/
theorem skipBalanced_stops (pair : BracketPair) {source : Text} {position : Nat}
    (inside : position ≤ source.length) :
    ∃ stop : Nat, skipBalanced source position pair.opening pair.closing = .ok stop
      ∧ position ≤ stop ∧ stop ≤ source.length
      ∧ (stop < source.length → source.hasUnescaped pair.closing (stop - 1) = true
        ∧ pair.EvensOut (source.slice position stop))
      ∧ ∀ other : Nat, position < other → other ≤ source.length →
        pair.EvensOut (source.slice position other) → stop ≤ other := by
  obtain ⟨before, text, rfl, rfl⟩ : ∃ before text, source = before ++ text
      ∧ position = before.length :=
    ⟨source.take position, source.drop position, (List.take_append_drop _ source).symm,
      (List.length_take_of_le inside).symm⟩
  have slice : ∀ number ≤ text.length,
      (before ++ text).slice before.length (before.length + number : Nat) = text.take number := by
    intro number within
    rw [Text.slice_natCast (Nat.le_add_right _ _) (by rw [List.length_append]; omega),
      List.take_length_add_append, List.drop_left]
  have stops : pair.StopsBehind [] text (pair.lengthToClose 0 text) :=
    pair.lengthToClose_stopsBehind [] text rfl
  obtain ⟨within, evensOut, first⟩ := stops
  rw [List.length_append]
  refine ⟨_, skipBalanced_front before text pair, Nat.le_add_right _ _,
    Nat.add_le_add_left within _, fun further => ?_, fun other behind isInside evens => ?_⟩
  · have even := evensOut (Nat.lt_of_add_lt_add_left further)
    have closes := even.hasUnescaped before (text.drop (pair.lengthToClose 0 text))
    rw [List.append_assoc, List.nil_append, List.take_append_drop,
      List.length_take_of_le within] at closes
    rw [slice _ within]
    exact ⟨closes, even⟩
  · obtain ⟨number, rfl⟩ := Nat.exists_eq_add_of_le (Nat.le_of_lt behind)
    have numberInside : number ≤ text.length := Nat.le_of_add_le_add_left isInside
    rw [slice number numberInside] at evens
    exact Nat.add_le_add_left (first number (by omega) numberInside evens) _

/-! ## Links with balanced parts -/

section Links

variable {front label reference rest : Text}

/-- Behind a balanced label the target is read. -/
theorem linkSourceEnd_label (balanced : Balanced .square label) :
    linkSourceEnd (front ++ BracketPair.square.enclose label ++ rest) front.length
      = targetEnd (front ++ BracketPair.square.enclose label ++ rest)
        (front ++ BracketPair.square.enclose label).length := by
  refine linkSourceEnd_of_label ?_
  rw [List.append_assoc, List.length_append]
  exact skipBalanced_enclose balanced

/-- The end of a link with a second label is found wherever the link stands. -/
theorem linkSourceEnd_reference (balanced : Balanced .square label)
    (balancedReference : Balanced .square reference) :
    linkSourceEnd (front ++ (BracketPair.square.enclose label
        ++ BracketPair.square.enclose reference) ++ rest) front.length
      = .ok ((front ++ (BracketPair.square.enclose label
        ++ BracketPair.square.enclose reference)).length : Int) := by
  have skipped := @skipBalanced_enclose .square
    (front ++ BracketPair.square.enclose label) reference rest balancedReference
  rw [← List.append_assoc front, List.append_assoc _ _ rest, linkSourceEnd_label balanced]
  refine (targetEnd_next _ '[' _).trans (skipped.trans ?_)
  rw [← List.length_append]

/-- A label that no target follows is a link alone. -/
theorem linkSourceEnd_labelAlone (balanced : Balanced .square label)
    (alone : ∀ char ∈ rest.head?, char ≠ '(' ∧ char ≠ '[') :
    linkSourceEnd (front ++ BracketPair.square.enclose label ++ rest) front.length
      = .ok ((front ++ BracketPair.square.enclose label).length : Int) := by
  rw [linkSourceEnd_label balanced]
  cases rest with
  | nil => rw [List.append_nil, targetEnd_length]
  | cons next behind =>
    obtain ⟨notRound, notSquare⟩ := alone next rfl
    rw [targetEnd_next]
    split
    · exact absurd rfl notRound
    · exact absurd rfl notSquare
    · rfl

end Links

/-- Counting brackets finds the end of every link with balanced parts, whatever stands around it:
of a label with a target in parentheses, of one with a second label, and of a label that neither
follows. From any offset of any source it comes to an end, inside the source. It ends in front of
the source's end only behind a closing bracket that is not escaped, when as many brackets have been
closed as were opened, and then behind the first such bracket. -/
theorem bracketScan_exact :
    (∀ front label target rest : Text, Balanced .square label → Balanced .round target →
      linkSourceEnd (front ++ (BracketPair.square.enclose label
          ++ BracketPair.round.enclose target) ++ rest) front.length
        = .ok ((front ++ (BracketPair.square.enclose label
          ++ BracketPair.round.enclose target)).length : Int))
    ∧ (∀ front label reference rest : Text,
      Balanced .square label → Balanced .square reference →
      linkSourceEnd (front ++ (BracketPair.square.enclose label
          ++ BracketPair.square.enclose reference) ++ rest) front.length
        = .ok ((front ++ (BracketPair.square.enclose label
          ++ BracketPair.square.enclose reference)).length : Int))
    ∧ (∀ front label rest : Text, Balanced .square label →
      (∀ char ∈ rest.head?, char ≠ '(' ∧ char ≠ '[') →
      linkSourceEnd (front ++ BracketPair.square.enclose label ++ rest) front.length
        = .ok ((front ++ BracketPair.square.enclose label).length : Int))
    ∧ ∀ (pair : BracketPair) (source : Text) (position : Nat), position ≤ source.length →
      ∃ stop : Nat, skipBalanced source position pair.opening pair.closing = .ok stop
        ∧ position ≤ stop ∧ stop ≤ source.length
        ∧ (stop < source.length → source.hasUnescaped pair.closing (stop - 1) = true
          ∧ pair.EvensOut (source.slice position stop))
        ∧ ∀ other : Nat, position < other → other ≤ source.length →
          pair.EvensOut (source.slice position other) → stop ≤ other := by
  refine ⟨?_, ?_, ?_, ?_⟩
  · intro front label target rest balancedLabel balancedTarget
    exact linkSourceEnd_linkSource balancedLabel balancedTarget
  · intro front label reference rest balancedLabel balancedReference
    exact linkSourceEnd_reference balancedLabel balancedReference
  · intro front label rest balanced alone
    exact linkSourceEnd_labelAlone balanced alone
  · intro pair source position inside
    exact skipBalanced_stops pair inside

/-- A label with brackets inside and an escaped one, with a target, with a second label and alone,
and a bracket that is skipped from the middle of a source. -/
theorem bracketScan_exact_escaped :
    let label : Text := "a[b]\\]".toList
    Balanced .square label ∧ Balanced .round "u(v)".toList ∧ Balanced .square ['r']
    ∧ linkSourceEnd "x[a[b]\\]](u(v))後".toList 1 = .ok 15
    ∧ linkSourceEnd "x[a[b]\\]][r](c)".toList 1 = .ok 12
    ∧ linkSourceEnd "x[a[b]\\]] (c)".toList 1 = .ok 9
    ∧ BracketPair.square.EvensOut (Text.slice "x[a[b]\\]] (c)".toList 3 6) := by
  intro label
  have plain : Balanced .square ['a'] := .of_plain (by simp [BracketPair.square])
  have inside : Balanced .square ['b'] := .of_plain (by simp [BracketPair.square])
  have balanced : Balanced .square label := plain.append (.enclosed inside (.escaped .nil))
  have reference : Balanced .square ['r'] := .of_plain (by simp [BracketPair.square])
  have target : Balanced .round "u(v)".toList := by
    have front : Balanced .round ['u'] := .of_plain (by simp [BracketPair.round])
    have inside : Balanced .round ['v'] := .of_plain (by simp [BracketPair.round])
    exact front.append (.enclosed inside .nil)
  obtain ⟨inline, second, alone, scan⟩ := bracketScan_exact
  refine ⟨balanced, target, reference, inline ['x'] label "u(v)".toList ['後'] balanced target,
    second ['x'] label ['r'] "(c)".toList balanced reference,
    alone ['x'] label " (c)".toList balanced (by simp), ?_⟩
  obtain ⟨stop, isStop, _, _, evensOut, _⟩ :=
    scan .square "x[a[b]\\]] (c)".toList 3 (by decide)
  have found : skipBalanced "x[a[b]\\]] (c)".toList 3 '[' ']' = .ok 6 := rfl
  obtain rfl : stop = 6 := Int.ofNat_inj.1 (Except.ok.inj (isStop.symm.trans found))
  exact (evensOut (by decide)).2

end JapaneseSpacing
