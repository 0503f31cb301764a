import JapaneseSpacing.Proofs.Source.Relocation

/-!
# Walks over a tree

A walk meets the nodes that are reached from the root child by child, each below those on the
way (`Node.mem_walk_iff`). The ancestors that it gives to a node are nodes of the same tree, so
that a condition on all nodes of a tree is one on their ancestors too
(`Node.mem_walk_of_mem_ancestors`). A walk does not look at spans: relocated nodes are met in the
same order, below their relocated ancestors (`Node.walk_relocate`).
-/

namespace JapaneseSpacing

/-! ## Ways through a tree -/

/-- From a node the nodes below it are reached child by child, and all nodes on the way are
ancestors, the parent first. -/
inductive Located.Reaches : Located → Located → Prop where
  | refl (place : Located) : Reaches place place
  | child {top place : Located} {child : Node} (isChild : child ∈ top.node.children)
      (further : Reaches ⟨child, top.node :: top.ancestors⟩ place) : Reaches top place

theorem Node.mem_walkChildren_iff {ancestors nodes : List Node} {place : Located} :
    place ∈ Node.walkChildren ancestors nodes ↔ ∃ node ∈ nodes, place ∈ node.walkBelow ancestors := by
  induction nodes with
  | nil => simp [Node.walkChildren]
  | cons node rest inductionHypothesis =>
    rw [Node.walkChildren, List.mem_append, inductionHypothesis]
    simp only [List.mem_cons, exists_eq_or_imp]

mutual

theorem Node.reaches_of_mem_walkBelow : ∀ (node : Node) (ancestors : List Node) (place : Located),
    place ∈ node.walkBelow ancestors → Located.Reaches ⟨node, ancestors⟩ place
  | .mk type span children, ancestors, place, member => by
    rw [Node.walkBelow] at member
    rcases List.mem_cons.1 member with rfl | below
    · exact .refl _
    · obtain ⟨child, isChild, reached⟩ := Node.reaches_of_mem_walkChildren children _ place below
      exact .child isChild reached

theorem Node.reaches_of_mem_walkChildren : ∀ (nodes ancestors : List Node) (place : Located),
    place ∈ Node.walkChildren ancestors nodes →
    ∃ node ∈ nodes, Located.Reaches ⟨node, ancestors⟩ place
  | [], _, _, member => (List.not_mem_nil member).elim
  | node :: rest, ancestors, place, member => by
    rw [Node.walkChildren] at member
    rcases List.mem_append.1 member with inNode | inRest
    · exact ⟨node, List.mem_cons_self, Node.reaches_of_mem_walkBelow node ancestors place inNode⟩
    · obtain ⟨other, isOther, reached⟩ :=
        Node.reaches_of_mem_walkChildren rest ancestors place inRest
      exact ⟨other, List.mem_cons_of_mem _ isOther, reached⟩

end

theorem Located.Reaches.mem_walkBelow {top place : Located} (reaches : top.Reaches place) :
    place ∈ top.node.walkBelow top.ancestors := by
  induction reaches with
  | refl place =>
    obtain ⟨⟨type, span, children⟩, ancestors⟩ := place
    exact List.mem_cons_self
  | @child top place child isChild further inductionHypothesis =>
    obtain ⟨⟨type, span, children⟩, ancestors⟩ := top
    exact List.mem_cons_of_mem _ (Node.mem_walkChildren_iff.2 ⟨child, isChild, inductionHypothesis⟩)

/-- A walk meets the nodes that are reached from the root, below those on the way. -/
theorem Node.mem_walk_iff {root : Node} {place : Located} :
    place ∈ root.walk ↔ Located.Reaches ⟨root, []⟩ place :=
  ⟨Node.reaches_of_mem_walkBelow root [] place, Located.Reaches.mem_walkBelow⟩

/-! ## Ancestors -/

mutual

/-- Above a node of a walk stand the given ancestors and nodes of the walk. -/
theorem Node.mem_ancestors_walkBelow : ∀ (node : Node) (ancestors : List Node) (place : Located)
    (ancestor : Node), place ∈ node.walkBelow ancestors → ancestor ∈ place.ancestors →
    ancestor ∈ ancestors ∨ ∃ other ∈ node.walkBelow ancestors, other.node = ancestor
  | .mk type span children, ancestors, place, ancestor, member, above => by
    rw [Node.walkBelow] at member ⊢
    rcases List.mem_cons.1 member with rfl | below
    · exact .inl above
    · rcases Node.mem_ancestors_walkChildren children _ place ancestor below above with
        isAncestor | ⟨other, isOther, same⟩
      · rcases List.mem_cons.1 isAncestor with rfl | further
        · exact .inr ⟨_, List.mem_cons_self, rfl⟩
        · exact .inl further
      · exact .inr ⟨other, List.mem_cons_of_mem _ isOther, same⟩

theorem Node.mem_ancestors_walkChildren : ∀ (nodes ancestors : List Node) (place : Located)
    (ancestor : Node), place ∈ Node.walkChildren ancestors nodes → ancestor ∈ place.ancestors →
    ancestor ∈ ancestors ∨ ∃ other ∈ Node.walkChildren ancestors nodes, other.node = ancestor
  | [], _, _, _, member, _ => (List.not_mem_nil member).elim
  | node :: rest, ancestors, place, ancestor, member, above => by
    rw [Node.walkChildren] at member ⊢
    rcases List.mem_append.1 member with inNode | inRest
    · refine (Node.mem_ancestors_walkBelow node ancestors place ancestor inNode above).imp_right ?_
      rintro ⟨other, isOther, same⟩
      exact ⟨other, List.mem_append_left _ isOther, same⟩
    · refine (Node.mem_ancestors_walkChildren rest ancestors place ancestor inRest above).imp_right ?_
      rintro ⟨other, isOther, same⟩
      exact ⟨other, List.mem_append_right _ isOther, same⟩

end

/-- The ancestors of a tree's nodes are nodes of the tree. -/
theorem Node.mem_walk_of_mem_ancestors {root ancestor : Node} {place : Located}
    (member : place ∈ root.walk) (above : ancestor ∈ place.ancestors) :
    ∃ other ∈ root.walk, other.node = ancestor := by
  rcases root.mem_ancestors_walkBelow [] place ancestor member above with nothing | found
  · cases nothing
  · exact found

/-! ## Relocated trees -/

/-- A node of a tree and its ancestors, sent to their places. -/
def Located.relocate (place : Int → Int) (located : Located) : Located where
  node := located.node.relocate place
  ancestors := located.ancestors.map (Node.relocate place)

mutual

theorem Node.walkBelow_relocate (place : Int → Int) : ∀ (node : Node) (ancestors : List Node),
    (node.relocate place).walkBelow (ancestors.map (Node.relocate place))
      = (node.walkBelow ancestors).map (Located.relocate place)
  | .mk type span children, ancestors => by
    rw [Node.relocate, Node.walkBelow, Node.walkBelow, List.map_cons,
      ← Node.walkChildren_relocate place children]
    rfl

theorem Node.walkChildren_relocate (place : Int → Int) : ∀ (nodes ancestors : List Node),
    Node.walkChildren (ancestors.map (Node.relocate place)) (Node.relocateAll place nodes)
      = (Node.walkChildren ancestors nodes).map (Located.relocate place)
  | [], _ => rfl
  | node :: rest, ancestors => by
    rw [Node.relocateAll, Node.walkChildren, Node.walkChildren, List.map_append,
      Node.walkBelow_relocate place node, Node.walkChildren_relocate place rest]

end

/-- A relocated tree is walked like the tree. -/
theorem Node.walk_relocate (place : Int → Int) (root : Node) :
    (root.relocate place).walk = root.walk.map (Located.relocate place) :=
  Node.walkBelow_relocate place root []

theorem Node.type_relocate (place : Int → Int) (node : Node) :
    (node.relocate place).type = node.type := by
  cases node
  rfl

theorem Node.span_relocate (place : Int → Int) (node : Node) :
    (node.relocate place).span = node.span.relocate place := by
  cases node
  rfl

/-- Relocation changes no types, and so not what a node stands below. -/
theorem Located.isBelow_relocate (place : Int → Int) (located : Located) (types : List NodeType) :
    (located.relocate place).isBelow types = located.isBelow types := by
  rw [isBelow, isBelow, relocate, List.any_map]
  congr 1
  funext ancestor
  rw [Function.comp_apply, Node.type_relocate]

theorem Located.parent?_relocate (place : Int → Int) (located : Located) :
    (located.relocate place).parent? = located.parent?.map (Node.relocate place) :=
  List.head?_map

end JapaneseSpacing
