import JapaneseSpacing.Text.Basic

/-!
# Violations of the spacing convention

A violation is found in the text of one node. Its index and its fix are relative to
that node or to the node's parent, as the anchor says.
-/

namespace JapaneseSpacing

/-- The node that the offsets of a violation are relative to. -/
inductive Anchor where
  | node
  | parent
deriving Repr, DecidableEq

/-- The word for an anchor. -/
def Anchor.name : Anchor → String
  | .node => "node"
  | .parent => "parent"

/-- The anchor of a given word. -/
def Anchor.ofName? : String → Option Anchor
  | "node" => some .node
  | "parent" => some .parent
  | _ => none

/-- A stretch of a text from `start` up to but not including `stop`. -/
structure Span where
  start : Int
  stop : Int
deriving Repr, DecidableEq

/-- The span moved to the right. -/
def Span.shift (span : Span) (distance : Int) : Span :=
  ⟨distance + span.start, distance + span.stop⟩

/-- A suggested replacement of a span. -/
structure Fix where
  span : Span
  text : Text
deriving Repr, DecidableEq

/-- The fix for the same text placed further to the right. -/
def Fix.shift (fix : Fix) (distance : Int) : Fix :=
  { fix with span := fix.span.shift distance }

/-- One place where the spacing convention is broken. -/
structure Violation where
  message : Text
  index : Int
  anchor : Anchor := .node
  fix : Option Fix := none
deriving Repr, DecidableEq

/-- The fix that puts one space at an offset. -/
def Fix.insertSpace (index : Int) : Fix :=
  ⟨⟨index, index⟩, [' ']⟩

/-- The fix that removes a span. -/
def Fix.remove (span : Span) : Fix :=
  ⟨span, []⟩

end JapaneseSpacing
