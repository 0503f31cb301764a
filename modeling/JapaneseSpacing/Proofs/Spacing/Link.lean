import JapaneseSpacing.Proofs.HalfWidth.Address
import JapaneseSpacing.Proofs.Spacing.Context
import JapaneseSpacing.Spacing.Link

/-!
# Links that absorb the text behind them

A parser may end an automatic link at its address or take in the Japanese text that
follows. The check then reads the neighbour of the address at different places and
anchors the violation differently, but it says the same: `checkLink_absorbed`.
-/

namespace JapaneseSpacing

/-- A violation with its offsets in the text of the parent, where its node starts at
`origin`. -/
def Violation.inParent (origin : Int) (violation : Violation) : Violation :=
  match violation.anchor with
  | .parent => violation
  | .node => { violation.shift origin with anchor := .parent }

@[simp]
theorem leadingSpaceRequired_inParent (label : Text) (origin index : Int) :
    (leadingSpaceRequired label index).inParent origin = leadingSpaceRequired label index := rfl

@[simp]
theorem trailingSpaceRequired_inParent (label : Text) (origin index : Int) :
    (trailingSpaceRequired label index .parent).inParent origin
      = trailingSpaceRequired label index .parent := rfl

@[simp]
theorem trailingSpaceRequired_node_inParent (label : Text) (origin index : Int) :
    (trailingSpaceRequired label index .node).inParent origin
      = trailingSpaceRequired label (origin + index) .parent := rfl

theorem isAutoLink_append {source more : Text} (nonempty : source ≠ []) :
    isAutoLink (source ++ more) = isAutoLink source := by
  cases source with
  | nil => exact absurd rfl nonempty
  | cons first behind => rfl

theorem LeadingAddress.ofText_nil : (LeadingAddress.ofText []).kind = .unknown := by
  decide

/-- What stands in front of a link decides about its start. -/
theorem leadingLinkViolation?_front (label front rest : Text) :
    leadingLinkViolation? label front.length (front ++ rest)
      = if front.getLast?.any isSpacingTarget then some (leadingSpaceRequired label front.length)
        else none := by
  rcases List.eq_nil_or_concat front with rfl | ⟨init, last, rfl⟩
  · rfl
  · have place : (((init ++ [last]).length : Int) - 1).toNat = init.length := by
      simp only [List.length_append, List.length_singleton]
      omega
    have found : (init ++ [last] ++ rest)[init.length]? = some last := by simp
    have positive : (0 : Int) < (init ++ [last]).length := by simp
    have within : ((init ++ [last]).length : Int) ≤ (init ++ [last] ++ rest).length := by
      simp only [List.length_append]
      omega
    rw [List.concat_eq_append]
    simp only [leadingLinkViolation?, place, found, positive, within, true_and,
      List.getLast?_concat]

/-- What stands behind an address decides about the end of its link. -/
theorem trailingLinkViolation?_behind (front address behind : Text) (kind : AddressKind) :
    trailingLinkViolation? ⟨address, [], kind⟩ (front.length + address.length : Nat)
        (front ++ address ++ behind)
      = if behind.head?.any isSpacingTarget then
          some (trailingSpaceRequired kind.label (front.length + address.length : Nat) .parent)
        else none := by
  have found : (front ++ address ++ behind)[front.length + address.length]? = behind.head? := by
    rw [← List.length_append, List.getElem?_append_right (Nat.le_refl _), Nat.sub_self,
      List.head?_eq_getElem?]
  have within : (0 : Int) ≤ (front.length + address.length : Nat) := by omega
  simp only [trailingLinkViolation?, Int.toNat_natCast, found, within, true_and]

/-- The character behind a link that stops at its address. -/
theorem trailingLinkViolation?_stopped {address front behind : Text} {next : Char}
    {kind : AddressKind} :
    trailingLinkViolation? ⟨address, [], kind⟩ (front.length + address.length)
        (front ++ address ++ next :: behind)
      = if isSpacingTarget next then
          some (trailingSpaceRequired kind.label (front.length + address.length) .parent)
        else none := by
  have found := trailingLinkViolation?_behind front address (next :: behind) kind
  rwa [List.head?_cons, Option.any_some, Int.natCast_add] at found

/-- A link says the same about its boundaries whether it stops at its address or takes in
text that goes on beyond ASCII. -/
theorem checkLink_absorbed {address front more behind : Text} {next : Char} {kind : AddressKind}
    (whole : LeadingAddress.ofText address = ⟨address, [], kind⟩) (known : kind ≠ .unknown)
    (beyond : 128 ≤ next.toNat) :
    (checkLink address front.length (front.length + address.length)
        (front ++ address ++ next :: more ++ behind)).map (·.inParent front.length)
      = (checkLink (address ++ next :: more) front.length
          (front.length + address.length + (next :: more).length)
          (front ++ address ++ next :: more ++ behind)).map (·.inParent front.length) := by
  have nonempty : address ≠ [] := by
    rintro rfl
    have unknown := LeadingAddress.ofText_nil
    rw [whole] at unknown
    exact known unknown
  have absorbed : LeadingAddress.ofText (address ++ next :: more)
      = ⟨address, next :: more, kind⟩ := by
    rw [LeadingAddress.ofText_append (by simpa [BeginsBeyondAscii] using beyond)
      (by rw [whole]; exact known), whole]
    rfl
  rw [checkLink, checkLink, isAutoLink_append nonempty]
  split
  · have behindAddress : front ++ address ++ next :: more ++ behind
        = front ++ address ++ next :: (more ++ behind) := by simp
    simp only [whole, absorbed]
    rw [behindAddress, trailingLinkViolation?_stopped, trailingLinkViolation?]
    rw [List.map_append, List.map_append]
    congr 1
    cases target : isSpacingTarget next <;> simp [target]
  · rfl

/-- An email address between full-width characters, first alone and then with the text
behind it. -/
theorem checkLink_absorbed_email :
    (checkLink "me@a.jp".toList 1 8 "はme@a.jpをご覧".toList).length = 2
    ∧ (checkLink "me@a.jp".toList 1 8 "はme@a.jpをご覧".toList).map (·.inParent 1)
      = (checkLink "me@a.jpをご".toList 1 10 "はme@a.jpをご覧".toList).map (·.inParent 1) :=
  ⟨by decide +kernel, @checkLink_absorbed "me@a.jp".toList "は".toList "ご".toList "覧".toList 'を'
    .email (by decide +kernel) (by decide) (by decide)⟩

end JapaneseSpacing
