import JapaneseSpacing.Proofs.Source.Bracket
import JapaneseSpacing.Text.Blank

/-!
# Where links end

A link is a label in brackets and a target in parentheses. Its end is found by counting
brackets, which knows nothing of the code in the label and of the quotes around a title.
That is good enough exactly for the links whose parts are balanced.
-/

namespace JapaneseSpacing

/-- The source of a link: a label in brackets and a target in parentheses. -/
def linkSource (label target : Text) : Text :=
  BracketPair.square.enclose label ++ BracketPair.round.enclose target

/-- The character behind a front. -/
theorem item?_middle {α : Type} (before : List α) (item : α) (behind : List α) :
    item? (before ++ item :: behind) before.length = some item := by
  rw [item?, if_pos (Int.natCast_nonneg _), Int.toNat_natCast, List.getElem?_append_right
    (Nat.le_refl _), Nat.sub_self, List.getElem?_cons_zero]

/-- How reading a link goes on behind its label. -/
def targetEnd (source : Text) (stop : Int) : Except OffsetError Int :=
  match if stop < source.length then item? source stop else none with
  | some '(' => skipBalanced source stop '(' ')'
  | some '[' => skipBalanced source stop '[' ']'
  | _ => return stop

theorem linkSourceEnd_of_label {source : Text} {position stop : Int}
    (label : skipBalanced source position '[' ']' = .ok stop) :
    linkSourceEnd source position = targetEnd source stop := by
  rw [linkSourceEnd, label]
  rfl

theorem targetEnd_length (source : Text) :
    targetEnd source source.length = .ok (source.length : Int) := by
  rw [targetEnd, if_neg (Int.lt_irrefl _)]
  rfl

theorem targetEnd_next (front : Text) (next : Char) (rest : Text) :
    targetEnd (front ++ next :: rest) front.length
      = match next with
        | '(' => skipBalanced (front ++ next :: rest) front.length '(' ')'
        | '[' => skipBalanced (front ++ next :: rest) front.length '[' ']'
        | _ => .ok front.length := by
  have inside : (front.length : Int) < (front ++ next :: rest).length := by
    rw [List.length_append, List.length_cons]
    omega
  rw [targetEnd, if_pos inside, item?_middle]
  split
  · next isRound =>
    cases isRound
    rfl
  · next isSquare =>
    cases isSquare
    rfl
  · next notRound notSquare =>
    split
    · exact absurd rfl notRound
    · exact absurd rfl notSquare
    · rfl

/-- The end of a link with balanced parts is found wherever the link stands. -/
theorem linkSourceEnd_linkSource {front label target rest : Text}
    (balancedLabel : Balanced .square label) (balancedTarget : Balanced .round target) :
    linkSourceEnd (front ++ linkSource label target ++ rest) front.length
      = .ok ((front ++ linkSource label target).length : Int) := by
  have labelShape : front ++ linkSource label target ++ rest
      = front ++ (BracketPair.square.enclose label
        ++ (BracketPair.round.enclose target ++ rest)) := by
    simp [linkSource]
  have targetShape : front ++ linkSource label target ++ rest
      = (front ++ BracketPair.square.enclose label)
        ++ (BracketPair.round.enclose target ++ rest) := by
    simp [linkSource]
  have labelSkipped : skipBalanced (front ++ linkSource label target ++ rest)
      front.length '[' ']'
      = .ok ((front ++ BracketPair.square.enclose label).length : Int) := by
    rw [labelShape, List.length_append]
    exact skipBalanced_enclose balancedLabel
  have targetSkipped := @skipBalanced_enclose .round
    (front ++ BracketPair.square.enclose label) target rest balancedTarget
  rw [linkSourceEnd_of_label labelSkipped, targetShape]
  refine (targetEnd_next _ '(' _).trans (targetSkipped.trans ?_)
  rw [← List.length_append, linkSource, List.append_assoc]

/-! ## What is read as a link -/

/-- What is read behind a label: a target, a second label, or nothing. -/
inductive TargetForm : Text → Prop
  | missing : TargetForm []
  | inline {text : Text} (encloses : BracketPair.round.Encloses text) : TargetForm text
  | reference {text : Text} (encloses : BracketPair.square.Encloses text) : TargetForm text

/-- What is read as a link. -/
def LinkForm (text : Text) : Prop :=
  ∃ label target, text = label ++ target ∧ BracketPair.square.Encloses label ∧ TargetForm target

theorem ReadsOrEnds.mono {form wider : Text → Prop} {front text : Text}
    {stop : Except OffsetError Int} (reads : ReadsOrEnds form front text stop)
    (implies : ∀ read, form read → wider read) : ReadsOrEnds wider front text stop := by
  rcases reads with ⟨read, rest, shape, isForm, found⟩ | ended
  · exact .inl ⟨read, rest, shape, implies read isForm, found⟩
  · exact .inr ended

theorem targetEnd_reads (front text : Text) :
    ReadsOrEnds TargetForm front text (targetEnd (front ++ text) front.length) := by
  cases text with
  | nil =>
    rw [List.append_nil, targetEnd_length]
    exact .inl ⟨[], [], rfl, .missing, by rw [List.append_nil]⟩
  | cons next rest =>
    rw [targetEnd_next]
    split
    · exact (skipBalanced_opening .round front rest).mono fun _ => .inline
    · exact (skipBalanced_opening .square front rest).mono fun _ => .reference
    · exact .inl ⟨[], next :: rest, rfl, .missing, by rw [List.append_nil]⟩

/-- From an opening bracket on a link is read, or everything. -/
theorem linkSourceEnd_reads (front text : Text) :
    ReadsOrEnds LinkForm front ('[' :: text)
      (linkSourceEnd (front ++ '[' :: text) front.length) := by
  rcases skipBalanced_opening .square front text with ⟨label, rest, shape, encloses, found⟩ | ended
  · have labelRead := linkSourceEnd_of_label found
    change '[' :: text = label ++ rest at shape
    change linkSourceEnd (front ++ '[' :: text) _ = targetEnd (front ++ '[' :: text) _ at labelRead
    rw [labelRead, shape, ← List.append_assoc]
    rcases targetEnd_reads (front ++ label) rest with ⟨target, behind, rfl, form, stop⟩ | stop
    · refine .inl ⟨label ++ target, behind, by simp, ⟨label, target, rfl, encloses, form⟩, ?_⟩
      rw [stop, List.append_assoc]
    · refine .inr ?_
      rw [stop, List.append_assoc]
  · exact .inr ((linkSourceEnd_of_label ended).trans (targetEnd_length _))

/-! ## Links as they are written -/

/-- A stretch of a link's label: code between backticks, or text without brackets. -/
inductive LabelPiece where
  | code (body : Text) (nonempty : body ≠ [])
      (inside : ∀ char ∈ body, char ≠ '\x60' ∧ char ≠ '\n')
  | plain (text : Text)
      (inside : ∀ char ∈ text, char ≠ '[' ∧ char ≠ ']' ∧ char ≠ '\\' ∧ char ≠ '\x60')

/-- The source of a stretch of a label. -/
def LabelPiece.text : LabelPiece → Text
  | code body _ _ => '\x60' :: body ++ ['\x60']
  | plain text _ => text

/-- A link with a target in parentheses and perhaps a title in double quotes. -/
structure WrittenLink where
  label : List LabelPiece
  destination : Text
  title : Option Text
  destination_nonempty : destination ≠ []
  destination_inside : ∀ char ∈ destination, isBlank char = false ∧ char ≠ '(' ∧ char ≠ ')'
    ∧ char ≠ '<' ∧ char ≠ '>' ∧ char ≠ '\\'
  title_inside : ∀ text ∈ title, ∀ char ∈ text, char ≠ '"' ∧ char ≠ '\\' ∧ char ≠ '\n'

namespace WrittenLink

/-- The source of the label. -/
def labelText (link : WrittenLink) : Text :=
  link.label.flatMap LabelPiece.text

/-- A title in its quotes, with the space in front of it. -/
def quotedTitle : Option Text → Text
  | none => []
  | some text => ' ' :: '"' :: text ++ ['"']

/-- The source of the link. -/
def text (link : WrittenLink) : Text :=
  linkSource link.labelText (link.destination ++ quotedTitle link.title)

/-- The end of the link is found wherever it stands. -/
def EndFound (link : WrittenLink) : Prop :=
  ∀ front rest : Text, linkSourceEnd (front ++ link.text ++ rest) front.length
    = .ok ((front ++ link.text).length : Int)

theorem balanced_target {link : WrittenLink}
    (balancedTitle : ∀ title ∈ link.title, Balanced .round title) :
    Balanced .round (link.destination ++ quotedTitle link.title) := by
  have destination : Balanced .round link.destination := by
    refine .of_plain fun char member => ?_
    obtain ⟨_, notOpening, notClosing, _, _, notBackslash⟩ := link.destination_inside char member
    exact ⟨notOpening, notClosing, notBackslash⟩
  refine destination.append ?_
  cases title : link.title with
  | none => exact .nil
  | some text =>
    have quote : Balanced .round ['"'] := .plain (by decide) (by decide) (by decide) .nil
    have behind : Balanced .round (text ++ ['"']) := (balancedTitle text title).append quote
    exact .plain (by decide) (by decide) (by decide)
      (.plain (by decide) (by decide) (by decide) behind)

/-- If the end of a link is found, the link is read as a whole and as a link. -/
theorem linkForm_of_endFound {link : WrittenLink} (found : link.EndFound) : LinkForm link.text := by
  have starts : link.text ++ ['x'] = '[' :: (link.text ++ ['x']).tail := rfl
  have stop := found [] ['x']
  rw [List.nil_append, List.length_nil] at stop
  have reads := linkSourceEnd_reads [] (link.text ++ ['x']).tail
  rw [← starts, List.nil_append, List.length_nil] at reads
  rcases reads with ⟨read, rest, shape, isForm, readStop⟩ | ended
  · have sameLength : link.text.length = read.length := by
      have same := Except.ok.inj (stop.symm.trans readStop)
      rw [List.nil_append] at same
      exact Int.ofNat_inj.1 same
    rw [(List.append_inj shape sameLength).1]
    exact isForm
  · have same := Except.ok.inj (stop.symm.trans ended)
    simp only [List.nil_append, List.length_append, List.length_singleton] at same
    omega

/-- A link that is read as a whole has a balanced label and a balanced target, because it
ends with a closing parenthesis. -/
theorem exists_linkSource_of_linkForm {link : WrittenLink} (isForm : LinkForm link.text) :
    ∃ label target, link.text = linkSource label target
      ∧ Balanced .square label ∧ Balanced .round target := by
  have last : link.text.getLast? = some ')' := BracketPair.getLast?_enclose
  obtain ⟨_, target, shape, ⟨label, rfl, balancedLabel⟩, form⟩ := isForm
  rw [shape] at last
  cases form with
  | missing =>
    have bracket := @BracketPair.getLast?_enclose .square [] label
    rw [List.append_nil] at last
    rw [List.nil_append, last] at bracket
    cases bracket
  | inline encloses =>
    obtain ⟨inside, rfl, balancedTarget⟩ := encloses
    exact ⟨label, inside, shape, balancedLabel, balancedTarget⟩
  | reference encloses =>
    obtain ⟨reference, rfl, _⟩ := encloses
    rw [BracketPair.getLast?_enclose] at last
    cases last

/-- The end of a link is found wherever the link stands exactly if the link can be read as
a balanced label and a balanced target. This it can if the brackets in the label's code
and the parentheses in the title are balanced. -/
theorem endFound_iff (link : WrittenLink) :
    (link.EndFound ↔ ∃ label target, link.text = linkSource label target
      ∧ Balanced .square label ∧ Balanced .round target)
    ∧ (Balanced .square link.labelText → (∀ title ∈ link.title, Balanced .round title) →
      link.EndFound) := by
  have found_of_balanced : ∀ label target, link.text = linkSource label target →
      Balanced .square label → Balanced .round target → link.EndFound := by
    intro label target shape balancedLabel balancedTarget front rest
    rw [shape]
    exact linkSourceEnd_linkSource balancedLabel balancedTarget
  constructor
  · constructor
    · intro found
      exact exists_linkSource_of_linkForm (linkForm_of_endFound found)
    · rintro ⟨label, target, shape, balancedLabel, balancedTarget⟩
      exact found_of_balanced label target shape balancedLabel balancedTarget
  · intro balancedLabel balancedTitle
    exact found_of_balanced _ _ rfl balancedLabel (balanced_target balancedTitle)

/-- A link with balanced brackets in its label's code and balanced parentheses in its title. -/
def showingIndex : WrittenLink where
  label := [.plain ['x'] (by simp), .code "a[0]".toList (by simp) (by simp)]
  destination := ['b']
  title := some "c(d)".toList
  destination_nonempty := by decide
  destination_inside := by simp [isBlank]
  title_inside := by simp

/-- The end of a link with balanced brackets and parentheses is found. -/
theorem endFound_iff_index : showingIndex.text = "[x\x60a[0]\x60](b \"c(d)\")".toList
    ∧ showingIndex.EndFound := by
  have label : Balanced .square "x\x60a[0]\x60".toList := by
    have front : Balanced .square "x\x60a".toList := .of_plain (by simp [BracketPair.square])
    have inside : Balanced .square "0".toList := .of_plain (by simp [BracketPair.square])
    have behind : Balanced .square "\x60".toList := .of_plain (by simp [BracketPair.square])
    exact front.append (.enclosed inside behind)
  have title : Balanced .round "c(d)".toList := by
    have front : Balanced .round "c".toList := .of_plain (by simp [BracketPair.round])
    have inside : Balanced .round "d".toList := .of_plain (by simp [BracketPair.round])
    exact front.append (.enclosed inside .nil)
  refine ⟨by decide, (endFound_iff showingIndex).2 label ?_⟩
  rintro _ ⟨⟩
  exact title

/-- A link that shows an opening bracket as code. -/
def showingBracket : WrittenLink where
  label := [.code ['['] (by simp) (by simp)]
  destination := ['b']
  title := none
  destination_nonempty := by decide
  destination_inside := by simp [isBlank]
  title_inside := by simp

/-- The end of a link that shows an opening bracket is not found: everything behind the link
is taken for a part of it. -/
theorem endFound_misses_code : ¬ ∀ link : WrittenLink, link.EndFound := by
  intro everywhere
  have found := everywhere showingBracket [] "です".toList
  have swallowed : linkSourceEnd "[\x60[\x60](b)です".toList 0 = .ok 10 := rfl
  exact absurd (Except.ok.inj (found.symm.trans swallowed)) (by decide)

end WrittenLink

end JapaneseSpacing
