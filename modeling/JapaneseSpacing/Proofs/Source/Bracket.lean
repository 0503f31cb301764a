import JapaneseSpacing.Source.Bracket

/-!
# Balanced brackets

A balanced text closes every bracket that it opens, backslash pairs left aside. Counting
brackets passes over a balanced text whatever is open around it, so an opening bracket,
a balanced text and a closing bracket are read as one: `skipBalanced_enclose`. A text
that nowhere closes the bracket in front of it is read to its end: `closes_or_staysOpen`.
-/

namespace JapaneseSpacing

/-- A kind of brackets. -/
structure BracketPair where
  opening : Char
  closing : Char
  distinct : opening ≠ closing := by decide
  opening_ne_backslash : opening ≠ '\\' := by decide
  closing_ne_backslash : closing ≠ '\\' := by decide

namespace BracketPair

/-- The brackets around a label. -/
def square : BracketPair where
  opening := '['
  closing := ']'

/-- The brackets around a link's target. -/
def round : BracketPair where
  opening := '('
  closing := ')'

/-- A text between brackets. -/
def enclose (pair : BracketPair) (inside : Text) : Text :=
  pair.opening :: inside ++ [pair.closing]

@[simp]
theorem length_enclose (pair : BracketPair) (inside : Text) :
    (pair.enclose inside).length = inside.length + 2 := by
  simp [enclose]

/-- What ends with a bracketed text ends with its closing bracket. -/
theorem getLast?_enclose {pair : BracketPair} {front inside : Text} :
    (front ++ pair.enclose inside).getLast? = some pair.closing := by
  rw [enclose, ← List.append_assoc, List.getLast?_append]
  rfl

end BracketPair

/-- A text whose brackets are closed in the order in which they were opened. -/
inductive Balanced (pair : BracketPair) : Text → Prop
  | nil : Balanced pair []
  | plain {char : Char} {rest : Text} (notOpening : char ≠ pair.opening)
      (notClosing : char ≠ pair.closing) (notBackslash : char ≠ '\\')
      (balanced : Balanced pair rest) : Balanced pair (char :: rest)
  | escaped {char : Char} {rest : Text} (balanced : Balanced pair rest) :
      Balanced pair ('\\' :: char :: rest)
  | enclosed {inside rest : Text} (balancedInside : Balanced pair inside)
      (balanced : Balanced pair rest) : Balanced pair (pair.enclose inside ++ rest)

variable {pair : BracketPair}

/-- A text without brackets and backslashes is balanced. -/
theorem Balanced.of_plain {text : Text}
    (plain : ∀ char ∈ text, char ≠ pair.opening ∧ char ≠ pair.closing ∧ char ≠ '\\') :
    Balanced pair text := by
  induction text with
  | nil => exact .nil
  | cons first rest inductionHypothesis =>
    obtain ⟨notOpening, notClosing, notBackslash⟩ := plain first List.mem_cons_self
    refine .plain notOpening notClosing notBackslash (inductionHypothesis ?_)
    intro char member
    exact plain char (List.mem_cons_of_mem first member)

/-- Balanced texts one after another are balanced. -/
theorem Balanced.append {text more : Text} (balanced : Balanced pair text)
    (balancedMore : Balanced pair more) : Balanced pair (text ++ more) := by
  induction balanced with
  | nil => exact balancedMore
  | plain notOpening notClosing notBackslash _ inductionHypothesis =>
    exact .plain notOpening notClosing notBackslash inductionHypothesis
  | escaped _ inductionHypothesis => exact .escaped inductionHypothesis
  | enclosed balancedInside _ _ inductionHypothesis =>
    rw [List.append_assoc]
    exact .enclosed balancedInside inductionHypothesis

/-! ## Counting brackets -/

/-- How much of a text it takes to close `depth` brackets of a kind. -/
abbrev BracketPair.lengthToClose (pair : BracketPair) (depth : Int) (text : Text) : Nat :=
  balancedLength pair.opening pair.closing depth text

theorem lengthToClose_plain {char : Char} {rest : Text} {depth : Int}
    (notOpening : char ≠ pair.opening) (notClosing : char ≠ pair.closing)
    (notBackslash : char ≠ '\\') :
    pair.lengthToClose depth (char :: rest) = pair.lengthToClose depth rest + 1 := by
  rw [BracketPair.lengthToClose, balancedLength]
  · rw [if_neg notOpening, if_neg notClosing]
  · exact fun isBackslash _ => notBackslash isBackslash
  · exact fun _ _ isBackslash _ => notBackslash isBackslash

theorem lengthToClose_escaped {char : Char} {rest : Text} {depth : Int} :
    pair.lengthToClose depth ('\\' :: char :: rest) = pair.lengthToClose depth rest + 2 := by
  rw [BracketPair.lengthToClose, balancedLength]

theorem lengthToClose_opening {rest : Text} {depth : Int} :
    pair.lengthToClose depth (pair.opening :: rest) = pair.lengthToClose (depth + 1) rest + 1 := by
  rw [BracketPair.lengthToClose, balancedLength]
  · rw [if_pos rfl]
  · exact fun isBackslash _ => pair.opening_ne_backslash isBackslash
  · exact fun _ _ isBackslash _ => pair.opening_ne_backslash isBackslash

theorem lengthToClose_closing {rest : Text} {depth : Int} :
    pair.lengthToClose depth (pair.closing :: rest)
      = if depth = 1 then 1 else pair.lengthToClose (depth - 1) rest + 1 := by
  rw [BracketPair.lengthToClose, balancedLength]
  · rw [if_neg pair.distinct.symm, if_pos rfl]
  · exact fun isBackslash _ => pair.closing_ne_backslash isBackslash
  · exact fun _ _ isBackslash _ => pair.closing_ne_backslash isBackslash

/-- Inside a bracket a balanced text is passed over. -/
theorem Balanced.lengthToClose_append {text rest : Text} {depth : Int}
    (balanced : Balanced pair text) (inside : 1 ≤ depth) :
    pair.lengthToClose depth (text ++ rest) = text.length + pair.lengthToClose depth rest := by
  induction balanced generalizing depth rest with
  | nil => simp
  | plain notOpening notClosing notBackslash _ inductionHypothesis =>
    rw [List.cons_append, lengthToClose_plain notOpening notClosing notBackslash,
      inductionHypothesis inside, List.length_cons]
    omega
  | escaped _ inductionHypothesis =>
    rw [List.cons_append, List.cons_append, lengthToClose_escaped, inductionHypothesis inside,
      List.length_cons, List.length_cons]
    omega
  | @enclosed enclosedText behind _ _ enclosedHypothesis inductionHypothesis =>
    have deeper : ¬ depth + 1 = 1 := by omega
    have shape : pair.enclose enclosedText ++ behind ++ rest
        = pair.opening :: (enclosedText ++ pair.closing :: (behind ++ rest)) := by
      simp [BracketPair.enclose]
    rw [shape, lengthToClose_opening, enclosedHypothesis (by omega), lengthToClose_closing,
      if_neg deeper, Int.add_sub_cancel, inductionHypothesis inside, List.length_append,
      BracketPair.length_enclose]
    omega

/-- A bracket with a balanced text behind it is closed by the next closing bracket. -/
theorem Balanced.lengthToClose_enclose {inside rest : Text} (balanced : Balanced pair inside) :
    pair.lengthToClose 0 (pair.enclose inside ++ rest) = inside.length + 2 := by
  have shape : pair.enclose inside ++ rest
      = pair.opening :: (inside ++ pair.closing :: rest) := by
    simp [BracketPair.enclose]
  rw [shape, lengthToClose_opening, Int.zero_add, balanced.lengthToClose_append (by omega),
    lengthToClose_closing, if_pos rfl]

/-! ## Brackets that stay open -/

/-- A text that closes the bracket in front of it. -/
def BracketPair.Closes (pair : BracketPair) (text : Text) : Prop :=
  ∃ inside rest, text = inside ++ pair.closing :: rest ∧ Balanced pair inside

/-- A text that is read to its end for the closing of brackets in front of it. -/
def BracketPair.StaysOpen (pair : BracketPair) (text : Text) : Prop :=
  ∀ depth : Int, 1 ≤ depth → pair.lengthToClose depth text = text.length

theorem BracketPair.Closes.behind {text : Text} (closes : pair.Closes text) (front : Text)
    (prolongs : ∀ inside, Balanced pair inside → Balanced pair (front ++ inside)) :
    pair.Closes (front ++ text) := by
  obtain ⟨inside, rest, rfl, balanced⟩ := closes
  exact ⟨front ++ inside, rest, by simp, prolongs inside balanced⟩

theorem BracketPair.StaysOpen.behind {text : Text} (staysOpen : pair.StaysOpen text) (front : Text)
    (passes : ∀ depth : Int, 1 ≤ depth → pair.lengthToClose depth (front ++ text)
      = front.length + pair.lengthToClose depth text) :
    pair.StaysOpen (front ++ text) := by
  intro depth inside
  rw [passes depth inside, staysOpen depth inside, List.length_append]

/-- Behind a bracket either a balanced text and the closing bracket follow, or the
bracket stays open to the end of the text. -/
theorem closes_or_staysOpen (pair : BracketPair) (text : Text) :
    pair.Closes text ∨ pair.StaysOpen text := by
  match text with
  | [] => exact .inr fun _ _ => rfl
  | first :: rest =>
    by_cases isBackslash : first = '\\'
    · subst isBackslash
      match rest with
      | [] => exact .inr fun _ _ => rfl
      | char :: rest =>
        rcases closes_or_staysOpen pair rest with closes | staysOpen
        · exact .inl (closes.behind ['\\', char] fun _ => .escaped)
        · refine .inr (staysOpen.behind ['\\', char] fun depth _ => ?_)
          rw [List.cons_append, List.singleton_append, lengthToClose_escaped, Nat.add_comm]
          rfl
    by_cases isClosing : first = pair.closing
    · exact .inl ⟨[], rest, by rw [isClosing, List.nil_append], .nil⟩
    by_cases isOpening : first = pair.opening
    · subst isOpening
      rcases closes_or_staysOpen pair rest with ⟨inside, behind, rfl, balanced⟩ | staysOpen
      · -- the bracket is closed, so what follows behind it decides
        have shape : pair.opening :: (inside ++ pair.closing :: behind)
            = pair.enclose inside ++ behind := by
          simp [BracketPair.enclose]
        rw [shape]
        rcases closes_or_staysOpen pair behind with closes | staysOpen
        · exact .inl (closes.behind _ fun _ => .enclosed balanced)
        · refine .inr (staysOpen.behind _ fun depth isInside => ?_)
          have alone : Balanced pair (pair.enclose inside) := by
            simpa using Balanced.enclosed balanced .nil
          exact alone.lengthToClose_append isInside
      · refine .inr fun depth isInside => ?_
        rw [lengthToClose_opening, staysOpen (depth + 1) (by omega), List.length_cons]
    · rcases closes_or_staysOpen pair rest with closes | staysOpen
      · exact .inl (closes.behind [first] fun _ => .plain isOpening isClosing isBackslash)
      · refine .inr (staysOpen.behind [first] fun depth _ => ?_)
        rw [List.singleton_append, lengthToClose_plain isOpening isClosing isBackslash,
          Nat.add_comm]
        rfl
termination_by text.length

/-! ## Skipping a bracketed text -/

theorem skipBalanced_middle (before text : Text) (nonempty : text ≠ []) :
    skipBalanced (before ++ text) before.length pair.opening pair.closing
      = .ok ((before.length + pair.lengthToClose 0 text : Nat) : Int) := by
  have more : 0 < text.length := List.length_pos_iff.2 nonempty
  have inside : ¬ ((before ++ text).length : Int) ≤ before.length := by
    rw [List.length_append]
    omega
  rw [skipBalanced, if_neg inside, if_pos (Int.natCast_nonneg _), Int.toNat_natCast,
    List.drop_left, Int.natCast_add]

/-- Skipping leads from an opening bracket just past the bracket that closes it. -/
theorem skipBalanced_enclose {before inside behind : Text} (balanced : Balanced pair inside) :
    skipBalanced (before ++ (pair.enclose inside ++ behind)) before.length pair.opening pair.closing
      = .ok ((before.length + (pair.enclose inside).length : Nat) : Int) := by
  rw [skipBalanced_middle _ _ (by simp [BracketPair.enclose]), balanced.lengthToClose_enclose,
    BracketPair.length_enclose]

/-- Skipping a bracket that is not closed leads to the end of the text. -/
theorem skipBalanced_staysOpen {before text : Text} (staysOpen : pair.StaysOpen text) :
    skipBalanced (before ++ pair.opening :: text) before.length pair.opening pair.closing
      = .ok ((before ++ pair.opening :: text).length : Int) := by
  rw [skipBalanced_middle _ _ (by simp), lengthToClose_opening, staysOpen _ (by omega),
    List.length_append, List.length_cons]

/-- Reading a text behind a front ends behind a beginning of a certain form, or else at
the end of the text. -/
def ReadsOrEnds (form : Text → Prop) (front text : Text) (stop : Except OffsetError Int) : Prop :=
  (∃ read rest, text = read ++ rest ∧ form read ∧ stop = .ok ((front ++ read).length : Int))
    ∨ stop = .ok ((front ++ text).length : Int)

/-- A balanced text between brackets. -/
def BracketPair.Encloses (pair : BracketPair) (text : Text) : Prop :=
  ∃ inside, text = pair.enclose inside ∧ Balanced pair inside

/-- From an opening bracket on, a balanced text between brackets is skipped or everything. -/
theorem skipBalanced_opening (pair : BracketPair) (front text : Text) :
    ReadsOrEnds pair.Encloses front (pair.opening :: text)
      (skipBalanced (front ++ pair.opening :: text) front.length pair.opening pair.closing) := by
  rcases closes_or_staysOpen pair text with ⟨inside, rest, rfl, balanced⟩ | staysOpen
  · have shape : pair.opening :: (inside ++ pair.closing :: rest)
        = pair.enclose inside ++ rest := by
      simp [BracketPair.enclose]
    rw [shape, skipBalanced_enclose balanced, ← List.length_append]
    exact .inl ⟨_, rest, rfl, ⟨inside, rfl, balanced⟩, rfl⟩
  · exact .inr (skipBalanced_staysOpen staysOpen)

end JapaneseSpacing
