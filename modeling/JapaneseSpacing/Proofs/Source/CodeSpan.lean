import JapaneseSpacing.Proofs.Source.InlineTree

/-!
# The end of code

Code ends at the first run of as many backticks as it starts with. Where its body has no
such run and does not touch the backticks around it, that is behind its source:
`codeSpanStop_source`.
-/

namespace JapaneseSpacing

variable {count : Nat} {body behind : Text}

theorem length_backticks (count : Nat) : (backticks count).length = count :=
  List.length_replicate

theorem eq_backtick_of_mem {char : Char} (member : char ∈ backticks count) : char = '\x60' :=
  List.eq_of_mem_replicate member

theorem getLast?_backticks (positive : 1 ≤ count) : (backticks count).getLast? = some '\x60' := by
  have some_run : backticks count ≠ [] := by
    rw [← List.length_pos_iff, length_backticks]
    exact positive
  rw [List.getLast?_eq_some_getLast some_run, eq_backtick_of_mem (List.getLast_mem some_run)]

/-- A body without backticks has no run of them. -/
theorem InlineLeaf.LacksRun.of_not_mem (positive : 1 ≤ count) (missing : '\x60' ∉ body) :
    InlineLeaf.LacksRun count body := by
  rintro front rest rfl
  have member : '\x60' ∈ backticks count := List.mem_of_getLast? (getLast?_backticks positive)
  simp [member] at missing

/-- No run of so many backticks starts inside the body. -/
theorem no_run_inside {front rest : Text} (ends : body.getLast? ≠ some '\x60')
    (lacksRun : InlineLeaf.LacksRun count body) (split : body = front ++ rest) (more : rest ≠ [])
    (starts : front.getLast? ≠ some '\x60')
    (run : backticks count <+: rest ++ (backticks count ++ behind)) :
    ((rest ++ (backticks count ++ behind)).drop count).head? = some '\x60' := by
  have restFirst : rest <+: rest ++ (backticks count ++ behind) := List.prefix_append _ _
  rcases List.prefix_or_prefix_of_prefix run restFirst with ⟨back, shape⟩ | short
  · -- the run lies in the body, which goes on with another backtick
    have bodyShape : body = front ++ backticks count ++ back := by
      rw [split, ← shape, List.append_assoc]
    have next : back.head? = some '\x60' := by
      rcases lacksRun front back bodyShape with before | next
      · exact absurd before starts
      · exact next
    have dropped : (rest ++ (backticks count ++ behind)).drop count
        = back ++ (backticks count ++ behind) := by
      rw [← shape, List.append_assoc, List.drop_left' (length_backticks count)]
    rw [dropped, List.head?_append, next]
    rfl
  · -- the run reaches beyond the body, which then ends with a backtick
    have last : rest.getLast? = some '\x60' := by
      rw [List.getLast?_eq_some_getLast more]
      exact congrArg some (eq_backtick_of_mem (short.subset (List.getLast_mem more)))
    rw [split, List.getLast?_append, last] at ends
    exact absurd rfl ends

/-- A run of backticks that no other backtick touches ends the code. -/
theorem codeStop_run {previous : Option Char} {offset : Nat} (positive : 1 ≤ count)
    (starts : previous ≠ some '\x60') (stops : behind.head? ≠ some '\x60') :
    codeStop (backticks count) previous offset (backticks count ++ behind)
      = some (offset + count) := by
  have shape : backticks count = '\x60' :: backticks (count - 1) := by
    rw [backticks, backticks, ← List.replicate_succ, Nat.sub_add_cancel positive]
  have run : (backticks count).isPrefixOf (backticks count ++ behind) = true :=
    List.isPrefixOf_iff_prefix.2 (List.prefix_append _ _)
  have dropped : (backticks count ++ behind).drop (backticks count).length = behind :=
    List.drop_left
  have whole : backticks count ++ behind = '\x60' :: (backticks (count - 1) ++ behind) := by
    rw [shape]
    rfl
  rw [whole, codeStop, ← whole, run, dropped, length_backticks, if_pos]
  simp [starts, stops]

/-- From inside the body on, code ends behind the closing backticks. -/
theorem codeStop_inside {front rest : Text} {offset : Nat} (positive : 1 ≤ count)
    (someBody : body ≠ []) (ends : body.getLast? ≠ some '\x60')
    (lacksRun : InlineLeaf.LacksRun count body) (stops : behind.head? ≠ some '\x60')
    (split : body = front ++ rest) :
    codeStop (backticks count) (front.getLast?.or (some '\x60')) offset
        (rest ++ (backticks count ++ behind))
      = some (offset + rest.length + count) := by
  induction rest generalizing front offset with
  | nil =>
    rw [List.append_nil] at split
    subst split
    have previous : body.getLast?.or (some '\x60') ≠ some '\x60' := by
      rwa [List.getLast?_eq_some_getLast someBody, Option.some_or,
        ← List.getLast?_eq_some_getLast someBody]
    exact codeStop_run positive previous stops
  | cons first more inductionHypothesis =>
    have noRun : (front.getLast?.or (some '\x60') != some '\x60'
        && (backticks count).isPrefixOf (first :: more ++ (backticks count ++ behind))
        && ((first :: more ++ (backticks count ++ behind)).drop
          (backticks count).length).head? != some '\x60') = false := by
      rw [length_backticks, Bool.and_eq_false_iff, Bool.and_eq_false_iff]
      by_cases starts : front.getLast?.or (some '\x60') = some '\x60'
      · exact .inl (.inl (by simp [starts]))
      by_cases run : backticks count <+: first :: more ++ (backticks count ++ behind)
      · have before : front.getLast? ≠ some '\x60' := by
          intro last
          rw [last] at starts
          exact starts rfl
        have goesOn := no_run_inside ends lacksRun split (List.cons_ne_nil _ _) before run
        exact .inr (by rw [goesOn]; rfl)
      · exact .inl (.inr (by rwa [Bool.eq_false_iff, ne_eq, List.isPrefixOf_iff_prefix]))
    have previous : some first = (front ++ [first]).getLast?.or (some '\x60') := by simp
    rw [List.cons_append, codeStop, ← List.cons_append, noRun, if_neg Bool.false_ne_true, previous,
      inductionHypothesis (by rw [split, List.append_assoc]; rfl), List.length_cons]
    congr 1
    omega

/-- Code ends behind its source. -/
theorem codeSpanStop_source {front : Text}
    (wellFormed : (InlineLeaf.code count body).WellFormed behind) :
    codeSpanStop (front ++ (InlineLeaf.code count body).source ++ behind) (backticks count)
        front.length
      = ((front ++ (InlineLeaf.code count body).source).length : Nat) := by
  obtain ⟨positive, someBody, _, ends, lacksRun, stops⟩ := wellFormed
  have shape : front ++ (InlineLeaf.code count body).source ++ behind
      = (front ++ backticks count) ++ (body ++ (backticks count ++ behind)) := by
    simp [InlineLeaf.source]
  have inside : min (front.length + (backticks count).length)
      (front ++ (InlineLeaf.code count body).source ++ behind).length
      = (front ++ backticks count).length := by
    rw [shape, List.length_append, List.length_append]
    omega
  have previous : (front ++ backticks count ++ (body ++ (backticks count ++ behind)))[
      (front ++ backticks count).length - 1]? = some '\x60' := by
    have last := getLast?_backticks positive
    rw [List.getElem?_append_left (by rw [List.length_append, length_backticks]; omega),
      ← List.getLast?_eq_getElem?, List.getLast?_append, last]
    rfl
  have someFront : (front ++ backticks count).length ≠ 0 := by
    rw [List.length_append, length_backticks]
    omega
  have stop := @codeStop_inside count body behind [] body (front ++ backticks count).length
    positive someBody ends lacksRun stops rfl
  rw [codeSpanStop, Int.toNat_natCast, inside, shape, List.drop_left]
  rw [if_neg someFront, previous]
  rw [List.getLast?_nil, Option.none_or] at stop
  simp only [stop]
  simp [InlineLeaf.source, length_backticks, Nat.add_assoc]

end JapaneseSpacing
