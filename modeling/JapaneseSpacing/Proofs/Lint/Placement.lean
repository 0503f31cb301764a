import JapaneseSpacing.Lint.Rule
import JapaneseSpacing.Proofs.Document.Walk
import JapaneseSpacing.Proofs.Spacing.Fixable
import JapaneseSpacing.Proofs.Text.Position

/-!
# Messages and their places

The offsets of a violation count from the start of a node or of its parent. Where all nodes of
a tree cover spans of the text, whatever their order and nesting, every message points into the
text: it has the line and the column of its index, and its fix starts there and puts or takes
away blanks of the text where it should (`lintTree_fits`).
-/

namespace JapaneseSpacing

/-- A span of a text of the given length. -/
structure Span.Inside (span : Span) (length : Nat) : Prop where
  first : 0 ≤ span.start
  ordered : span.start ≤ span.stop
  last : span.stop ≤ length

instance (span : Span) (length : Nat) : Decidable (span.Inside length) :=
  decidable_of_iff (0 ≤ span.start ∧ span.start ≤ span.stop ∧ span.stop ≤ length)
    ⟨fun ⟨first, ordered, last⟩ => ⟨first, ordered, last⟩,
      fun inside => ⟨inside.first, inside.ordered, inside.last⟩⟩

/-- All nodes of a tree cover spans of a text of the given length. Nothing is asked of how the
spans lie to each other. -/
def Node.SpansInside (root : Node) (length : Nat) : Prop :=
  ∀ place ∈ root.walk, place.node.span.Inside length

instance (root : Node) (length : Nat) : Decidable (root.SpansInside length) :=
  inferInstanceAs (Decidable (∀ place ∈ root.walk, place.node.span.Inside length))

namespace Located

/-- A node and its ancestors cover spans of a text of the given length. -/
structure SpansInside (place : Located) (length : Nat) : Prop where
  node : place.node.span.Inside length
  ancestors : ∀ ancestor ∈ place.ancestors, ancestor.span.Inside length

/-- The node that the offsets of a violation with the given anchor count from. -/
def target (place : Located) : Anchor → Node
  | .node => place.node
  | .parent => place.parent?.getD place.node

theorem target_parent {place : Located} {parent : Node} (isParent : place.parent? = some parent) :
    place.target .parent = parent := by
  rw [target, isParent, Option.getD_some]

theorem SpansInside.target {place : Located} {length : Nat} (inside : place.SpansInside length)
    (anchor : Anchor) : (place.target anchor).span.Inside length := by
  cases anchor with
  | node => exact inside.node
  | parent =>
    cases isParent : place.parent? with
    | none =>
      rw [Located.target, isParent, Option.getD_none]
      exact inside.node
    | some parent =>
      rw [Located.target_parent isParent]
      exact inside.ancestors parent (List.mem_of_mem_head? isParent)

end Located

theorem Node.SpansInside.located {root : Node} {length : Nat} {place : Located}
    (inside : root.SpansInside length) (member : place ∈ root.walk) :
    place.SpansInside length where
  node := inside place member
  ancestors := by
    intro ancestor above
    obtain ⟨other, isOther, rfl⟩ := Node.mem_walk_of_mem_ancestors member above
    exact inside other isOther

/-! ## One violation -/

/-- The start of the target is where all offsets of a message count from. -/
theorem Violation.toMessage_eq (violation : Violation) (text : Text) (place : Located) :
    violation.toMessage text place =
      let origin := (place.target violation.anchor).span.start
      let position := Position.ofOffset (Text.lineStarts text) (origin + violation.index)
      { message := violation.message
        index := origin + violation.index
        line := position.line
        column := position.column
        fix := violation.fix.map (·.shift origin) } := by
  obtain ⟨message, index, anchor, fix⟩ := violation
  cases anchor with
  | node => rfl
  | parent =>
    rw [toMessage, Located.target]
    cases place.parent? <;> rfl

/-- The violations of a node can be fixed in the text of the node that their offsets count
from. -/
theorem nodeViolations_fixable {text : Text} {settings : Settings} {place : Located}
    {violation : Violation} (member : violation ∈ nodeViolations text settings place) :
    violation.Fixable ((place.target violation.anchor).source text) := by
  rw [nodeViolations] at member
  split at member
  · rw [strViolations] at member
    split at member
    · cases member
    · obtain ⟨anchored, fixable⟩ := checkText_fixable member
      rwa [anchored]
  · split at member
    · rw [linkViolations] at member
      split at member
      · cases member
      · next parent isParent =>
        rcases checkLink_fixable member with ⟨anchored, fixable⟩ | ⟨anchored, fixable⟩
        · rwa [anchored, Located.target_parent isParent]
        · rwa [anchored]
    · cases member
  · cases member

/-! ## Messages -/

/-- A message has a place in a text: the line feeds in front of its index tell its line, the
characters since the last of them its column, and at its index starts a fix of a span of the
text, which puts a space beside a character that must be set apart or takes blanks away
between such a character and a letter or digit. -/
structure Message.Fits (message : Message) (text : Text) : Prop where
  first : 0 ≤ message.index
  last : message.index ≤ text.length
  located : Position.ofOffset (Text.lineStarts text) message.index
    = ⟨message.line, message.column⟩
  line_eq : message.line = (text.take message.index.toNat).count '\n' + 1
  column_eq : message.column = (Text.lastLine (text.take message.index.toNat)).length + 1
  fixable : ∃ fix, message.fix = some fix ∧ fix.span.start = message.index
    ∧ fix.span.Inside text.length ∧ (fix.Separates text ∨ fix.Joins text)

/-- The offsets in the text of a target, moved by its start, are offsets in the whole text. -/
theorem Violation.Fixable.fits {violation : Violation} {text : Text} {place : Located}
    (inside : (place.target violation.anchor).span.Inside text.length)
    (fixable : violation.Fixable ((place.target violation.anchor).source text)) :
    (violation.toMessage text place).Fits text := by
  obtain ⟨fix, isFix, atIndex, fixes⟩ := fixable
  rw [Violation.toMessage_eq]
  generalize place.target violation.anchor = target at inside fixes
  obtain ⟨first, ordered, last⟩ := inside
  have moved : (fix.shift target.span.start).Separates text
      ∨ (fix.shift target.span.start).Joins text :=
    fixes.imp (·.of_slice first ordered last) (·.of_slice first ordered last)
  have bounds := Fix.bounds_of_fixes moved
  have start : (fix.shift target.span.start).span.start
      = target.span.start + violation.index := by
    rw [Fix.shift_start, atIndex]
  have lower : 0 ≤ target.span.start + violation.index := by omega
  have upper : target.span.start + violation.index ≤ text.length := by omega
  have position := Position.ofOffset_take lower upper
  exact
    { first := lower
      last := upper
      located := rfl
      line_eq := congrArg Position.line position
      column_eq := congrArg Position.column position
      fixable := ⟨_, by rw [isFix]; rfl, start, ⟨bounds.1, bounds.2.1, bounds.2.2⟩, moved⟩ }

/-- Every message of a tree whose nodes cover spans of the text has its place in the text. -/
theorem lintTree_fits (text : Text) (settings : Settings) (root : Node)
    (inside : root.SpansInside text.length) :
    ∀ message ∈ lintTree text settings root, message.Fits text := by
  intro message member
  obtain ⟨place, isPlace, ofPlace⟩ := List.mem_flatMap.1 member
  obtain ⟨violation, isViolation, rfl⟩ := List.mem_map.1 ofPlace
  exact (nodeViolations_fixable isViolation).fits
    ((inside.located isPlace).target violation.anchor)

/-- A text with an address on its first line and words on its second one. -/
def addressAndWords : Text :=
  "見よhttps://a.jpを\nはa bと cで".toList

/-- A tree of this text whose words lie outside the paragraph that they belong to. -/
def addressAndWordsTree : Node :=
  .mk .document ⟨0, 24⟩ [.mk .paragraph ⟨1, 15⟩ [.leaf .link ⟨2, 15⟩, .leaf .str ⟨16, 24⟩]]

/-- Two messages at the ends of the address, the first anchored to the paragraph and the second
to the link, and three about the words. -/
theorem lintTree_fits_addressAndWords :
    addressAndWordsTree.SpansInside addressAndWords.length
    ∧ (lintTree addressAndWords {} addressAndWordsTree).map (fun message =>
        (message.line, message.column, message.fix.map (·.span)))
      = [(1, 3, some ⟨2, 2⟩), (1, 15, some ⟨14, 14⟩), (2, 2, some ⟨17, 17⟩),
        (2, 5, some ⟨20, 20⟩), (2, 6, some ⟨21, 22⟩)]
    ∧ ∀ message ∈ lintTree addressAndWords {} addressAndWordsTree,
        message.Fits addressAndWords := by
  have inside : addressAndWordsTree.SpansInside addressAndWords.length := by decide +kernel
  exact ⟨inside, by decide +kernel, lintTree_fits addressAndWords {} addressAndWordsTree inside⟩

end JapaneseSpacing
