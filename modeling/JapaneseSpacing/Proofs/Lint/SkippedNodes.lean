import JapaneseSpacing.Lint.Rule
import JapaneseSpacing.Proofs.Document.Walk
import Mathlib.Data.List.Flatten
import Mathlib.Data.List.Perm.Basic

/-!
# Leaving more alone

Settings can leave text below nodes of some types alone, and links. Settings that leave more
alone give the messages of the others without those of the nodes that only they leave alone
(`lintTree_leavesMore`).
-/

namespace JapaneseSpacing

/-- Settings leave alone whatever some others leave alone. -/
structure Settings.LeavesMore (wide narrow : Settings) : Prop where
  skipNodes : ∀ type ∈ narrow.skipNodes, type ∈ wide.skipNodes
  checkLinks : wide.checkLinks = true → narrow.checkLinks = true

namespace Located

/-- Some proper ancestor has one of the given types. -/
def StandsBelow (place : Located) (types : List NodeType) : Prop :=
  ∃ ancestor ∈ place.ancestors, ancestor.type ∈ types

/-- Only the first settings leave a node alone: a link that the others check, or a text below a
node of a type that the others do not name. -/
def LeftAloneBy (place : Located) (wide narrow : Settings) : Prop :=
  (place.node.type = .link ∧ narrow.checkLinks = true ∧ wide.checkLinks = false)
  ∨ (place.node.type = .str ∧ place.StandsBelow wide.skipNodes
    ∧ ¬ place.StandsBelow narrow.skipNodes)

instance (place : Located) (types : List NodeType) : Decidable (place.StandsBelow types) :=
  inferInstanceAs (Decidable (∃ ancestor ∈ place.ancestors, ancestor.type ∈ types))

instance (place : Located) (wide narrow : Settings) : Decidable (place.LeftAloneBy wide narrow) :=
  inferInstanceAs (Decidable (_ ∨ _))

variable {place : Located} {types fewer : List NodeType}

theorem isBelow_iff : place.isBelow types = true ↔ place.StandsBelow types := by
  simp only [isBelow, List.any_eq_true, List.contains_iff_mem, StandsBelow]

theorem StandsBelow.mono (below : place.StandsBelow fewer) (more : ∀ type ∈ fewer, type ∈ types) :
    place.StandsBelow types := by
  obtain ⟨ancestor, above, isOne⟩ := below
  exact ⟨ancestor, above, more _ isOne⟩

end Located

/-! ## One node -/

section Nodes

variable {text : Text} {place : Located} {wide narrow settings : Settings}

/-- Text below a skipped node has no violations. -/
theorem nodeViolations_str (isStr : place.node.type = .str) :
    nodeViolations text settings place
      = if place.StandsBelow settings.skipNodes then [] else checkText (place.node.source text) := by
  simp only [nodeViolations, isStr, strViolations, Located.isBelow_iff]

/-- What is skipped has no bearing on links. -/
theorem nodeViolations_link (isLink : place.node.type = .link) :
    nodeViolations text settings place
      = if settings.checkLinks then linkViolations text place else [] := by
  simp only [nodeViolations, isLink]

theorem nodeViolations_other (noStr : place.node.type ≠ .str) (noLink : place.node.type ≠ .link) :
    nodeViolations text settings place = [] := by
  rw [nodeViolations]
  split <;> trivial

/-- Settings that leave more alone find at a node what the others find, unless only they leave it
alone, and then nothing. -/
theorem nodeViolations_leavesMore (leavesMore : wide.LeavesMore narrow) :
    nodeViolations text wide place
      = if place.LeftAloneBy wide narrow then [] else nodeViolations text narrow place := by
  by_cases leftAlone : place.LeftAloneBy wide narrow
  · rw [if_pos leftAlone]
    rcases leftAlone with ⟨isLink, _, unchecked⟩ | ⟨isStr, below, _⟩
    · rw [nodeViolations_link isLink, unchecked]
      rfl
    · rw [nodeViolations_str isStr, if_pos below]
  -- A node that is not left alone is the same to both settings, a text or a link or neither.
  · rw [if_neg leftAlone]
    by_cases isStr : place.node.type = .str
    · have same : place.StandsBelow wide.skipNodes ↔ place.StandsBelow narrow.skipNodes :=
        ⟨fun below => Decidable.byContradiction fun free => leftAlone (.inr ⟨isStr, below, free⟩),
          fun below => below.mono leavesMore.skipNodes⟩
      simp only [nodeViolations_str isStr, same]
    · by_cases isLink : place.node.type = .link
      · have same : wide.checkLinks = narrow.checkLinks := by
          cases unchecked : wide.checkLinks with
          | true => exact (leavesMore.checkLinks unchecked).symm
          | false =>
            refine (Bool.eq_false_iff.2 fun checked => leftAlone (.inl ?_)).symm
            exact ⟨isLink, checked, unchecked⟩
        rw [nodeViolations_link isLink, nodeViolations_link isLink, same]
      · rw [nodeViolations_other isStr isLink, nodeViolations_other isStr isLink]

theorem nodeMessages_leavesMore (leavesMore : wide.LeavesMore narrow) :
    nodeMessages text wide place
      = if place.LeftAloneBy wide narrow then [] else nodeMessages text narrow place := by
  rw [nodeMessages, nodeViolations_leavesMore leavesMore, nodeMessages]
  split <;> rfl

theorem Located.not_leftAloneBy (sameTypes : ∀ type, type ∈ wide.skipNodes ↔ type ∈ narrow.skipNodes)
    (sameLinks : wide.checkLinks = narrow.checkLinks) : ¬ place.LeftAloneBy wide narrow := by
  rintro (⟨_, checked, unchecked⟩ | ⟨_, below, free⟩)
  · rw [sameLinks, checked] at unchecked
    cases unchecked
  · exact free (below.mono fun type => (sameTypes type).1)

end Nodes

/-! ## All nodes -/

theorem flatMap_of_silent {α β : Type} (items : List α) (found : α → List β) (silent : α → Prop)
    [DecidablePred silent] :
    items.flatMap (fun item => if silent item then [] else found item)
      = (items.filter fun item => ¬ silent item).flatMap found := by
  induction items with
  | nil => rfl
  | cons item rest inductionHypothesis =>
    rw [List.flatMap_cons, inductionHypothesis]
    by_cases isSilent : silent item <;> simp [isSilent]

/-- Leaving more alone drops messages and changes none. The nodes of a tree are those reached from
its root, and their ancestors those on the way. Under settings that leave more alone than others
the messages are those of the others, in their order, without the ones of the nodes that only the
first settings leave alone; these are all that is missing. So neither order nor repetitions of the
skipped types matter, and none of them matters to links. -/
theorem lintTree_leavesMore (text : Text) (root : Node) (wide narrow : Settings)
    (leavesMore : wide.LeavesMore narrow) :
    (∀ place, place ∈ root.walk ↔ Located.Reaches ⟨root, []⟩ place)
    ∧ (lintTree text wide root).Sublist (lintTree text narrow root)
    ∧ lintTree text wide root
      = (root.walk.filter fun place => ¬ place.LeftAloneBy wide narrow).flatMap
        (nodeMessages text narrow)
    ∧ (lintTree text narrow root).Perm (lintTree text wide root
      ++ (root.walk.filter fun place => place.LeftAloneBy wide narrow).flatMap
        (nodeMessages text narrow))
    ∧ (∀ other : Settings, (∀ type, type ∈ other.skipNodes ↔ type ∈ narrow.skipNodes) →
      other.checkLinks = narrow.checkLinks → lintTree text other root = lintTree text narrow root)
    ∧ (∀ other : Settings, other.checkLinks = narrow.checkLinks → ∀ place,
      place.node.type = .link → nodeMessages text other place = nodeMessages text narrow place) := by
  have kept : lintTree text wide root
      = (root.walk.filter fun place => ¬ place.LeftAloneBy wide narrow).flatMap
        (nodeMessages text narrow) := by
    have atNode : nodeMessages text wide = fun place =>
        if place.LeftAloneBy wide narrow then [] else nodeMessages text narrow place :=
      funext fun place => nodeMessages_leavesMore leavesMore
    rw [lintTree, atNode, flatMap_of_silent]
  refine ⟨fun place => Node.mem_walk_iff, ?_, kept, ?_, fun other sameTypes sameLinks => ?_,
    fun other sameLinks place isLink => ?_⟩
  · rw [kept]
    exact List.filter_sublist.flatMap _
  · have parts := List.filter_append_perm (fun place => ¬ place.LeftAloneBy wide narrow) root.walk
    simp only [decide_not, Bool.not_not] at parts
    rw [kept, ← List.flatMap_append]
    simp only [decide_not]
    exact (parts.flatMap_right _).symm
  · have leavesSame : other.LeavesMore narrow :=
      ⟨fun type => (sameTypes type).2, fun checked => sameLinks ▸ checked⟩
    have atNode : nodeMessages text other = nodeMessages text narrow := funext fun place => by
      rw [nodeMessages_leavesMore leavesSame, if_neg (Located.not_leftAloneBy sameTypes sameLinks)]
    rw [lintTree, atNode, lintTree]
  · rw [nodeMessages, nodeMessages, nodeViolations_link isLink, nodeViolations_link isLink,
      sameLinks]

/-- A paragraph, a quotation, an address and a header. -/
def fourBlocks : Text :=
  "あ a\nい b\nうhttp://c\nえ d".toList

/-- The tree of this text. -/
def fourBlocksTree : Node :=
  .mk .document ⟨0, 21⟩ [.mk .paragraph ⟨0, 3⟩ [.leaf .str ⟨0, 3⟩],
    .mk .blockQuote ⟨4, 7⟩ [.mk .paragraph ⟨4, 7⟩ [.leaf .str ⟨4, 7⟩]],
    .mk .paragraph ⟨8, 17⟩ [.leaf .str ⟨8, 9⟩, .leaf .link ⟨9, 17⟩],
    .mk .header ⟨18, 21⟩ [.leaf .str ⟨18, 21⟩]]

/-- Settings that name a type twice, and settings that name another one too and check no links. -/
theorem lintTree_leavesMore_quotation :
    let narrow : Settings := { skipNodes := [.header, .header] }
    let wide : Settings := { skipNodes := [.blockQuote, .header], checkLinks := false }
    wide.LeavesMore narrow
    ∧ (lintTree fourBlocks narrow fourBlocksTree).map (·.index) = [1, 5, 9]
    ∧ (lintTree fourBlocks wide fourBlocksTree).map (·.index) = [1]
    ∧ (lintTree fourBlocks wide fourBlocksTree).Sublist
      (lintTree fourBlocks narrow fourBlocksTree) := by
  intro narrow wide
  have leavesMore : wide.LeavesMore narrow := ⟨by decide, by decide⟩
  refine ⟨leavesMore, by decide +kernel, by decide +kernel, ?_⟩
  exact (lintTree_leavesMore fourBlocks fourBlocksTree wide narrow leavesMore).2.1

end JapaneseSpacing
