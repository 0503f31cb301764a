import JapaneseSpacing.Source.Tree

/-!
# Runs of a reading step

`Gives` says what a step returns and in which state it leaves the document, so that a
step made of others is described by the descriptions of its parts. `Leaves` says so of the
steps that do the same wherever the document stands and only leave notes. `KeepsFloor` says
only that the floor stays, and says it of steps that fail as well. `Yields` says only of what
kind the values are that a step returns.
-/

namespace JapaneseSpacing.Reading

variable {α β : Type}

/-- A step that starts in the state `before` succeeds with a value in the state `after`. -/
def Gives (step : Reading α) (before : ReadState) (value : α) (after : ReadState) : Prop :=
  step.run.run before = (.ok value, after)

namespace Gives

variable {step : Reading α} {next : α → Reading β} {before between after : ReadState}
  {value other : α} {result : β}

theorem pure (value : α) (state : ReadState) :
    Gives (Pure.pure value) state value state := rfl

/-- Behind a step that succeeds the next step decides. -/
theorem bind_iff (first : step.Gives before value between) :
    (step >>= next).Gives before result after ↔ (next value).Gives between result after := by
  rw [Gives] at first
  rw [Gives, ExceptT.run_bind, StateT.run_bind, first]
  rfl

theorem bind (first : step.Gives before value between)
    (second : (next value).Gives between result after) :
    Gives (step >>= next) before result after :=
  (bind_iff first).2 second

/-- A step has one outcome. -/
theorem unique {afterOther : ReadState} (first : step.Gives before value after)
    (second : step.Gives before other afterOther) : value = other ∧ after = afterOther := by
  have same := first.symm.trans second
  rw [Prod.mk.injEq, Except.ok.injEq] at same
  exact same

theorem get (state : ReadState) : Gives MonadState.get state state state := rfl

theorem ofOffset (value : α) (state : ReadState) :
    (Reading.ofOffset (.ok value)).Gives state value state := rfl

theorem note (item : TreeNote) (state : ReadState) :
    (Reading.note item).Gives state () { state with notes := state.notes ++ [item] } := rfl

theorem setFloor (floor : Int) (state : ReadState) :
    (Reading.setFloor floor).Gives state () { state with floor } := rfl

end Gives

/-- A step that starts in the state `before` fails, and what it has read by then is kept. -/
def Fails (step : Reading α) (before : ReadState) (problem : TreeError) (after : ReadState) :
    Prop :=
  step.run.run before = (.error problem, after)

namespace Fails

variable {step : Reading α} {next : α → Reading β} {before between after : ReadState}
  {value : α} {problem : TreeError}

theorem ofOffset (state : ReadState) :
    Fails (Reading.ofOffset (.error .outOfRange) : Reading α) state .outOfRange state := rfl

/-- Nothing happens behind a step that fails. -/
theorem first (fails : step.Fails before problem after) :
    Fails (step >>= next) before problem after := by
  rw [Fails] at fails
  rw [Fails, ExceptT.run_bind, StateT.run_bind, fails]
  rfl

theorem later (gives : step.Gives before value between)
    (fails : (next value).Fails between problem after) :
    Fails (step >>= next) before problem after := by
  rw [Gives] at gives
  rw [Fails, ExceptT.run_bind, StateT.run_bind, gives]
  exact fails

end Fails

/-- A step that succeeds does not fail. -/
theorem Gives.not_fails {step : Reading α} {before after afterOther : ReadState} {value : α}
    {problem : TreeError} (gives : step.Gives before value after)
    (fails : step.Fails before problem afterOther) : False := by
  have both := gives.symm.trans fails
  cases both

/-- A step succeeds or fails. -/
theorem gives_or_fails (step : Reading α) (before : ReadState) :
    (∃ value after, step.Gives before value after)
      ∨ ∃ problem after, step.Fails before problem after := by
  rcases outcome : step.run.run before with ⟨_ | _, after⟩
  · exact .inr ⟨_, after, outcome⟩
  · exact .inl ⟨_, after, outcome⟩

/-- A step succeeds if something is read off its value. -/
theorem exists_gives {step : Reading α} {before : ReadState} {read : α → β} {result : β}
    (isResult : (step.run.run before).1.toOption.map read = some result) :
    ∃ value after, step.Gives before value after ∧ read value = result := by
  rcases step.gives_or_fails before with ⟨value, after, gives⟩ | ⟨problem, after, fails⟩
  · rw [gives] at isResult
    exact ⟨value, after, gives, Option.some.inj isResult⟩
  · rw [fails] at isResult
    cases isResult

/-- The state that a step leaves, whether it succeeds or fails. -/
def after (step : Reading α) (before : ReadState) : ReadState :=
  (step.run.run before).2

/-- A step made of two that succeeds is made of two that succeed. -/
theorem Gives.exists_between {step : Reading α} {next : α → Reading β}
    {before after : ReadState} {result : β} (gives : Gives (step >>= next) before result after) :
    ∃ value between, step.Gives before value between
      ∧ (next value).Gives between result after := by
  rcases step.gives_or_fails before with ⟨value, between, first⟩ | ⟨problem, between, fails⟩
  · exact ⟨value, between, first, (bind_iff first).1 gives⟩
  · exact (gives.not_fails fails.first).elim

section After

variable {step : Reading α} {next : α → Reading β} {before between : ReadState} {value : α}
  {problem : TreeError}

theorem Gives.after_eq (gives : step.Gives before value between) :
    step.after before = between := by
  rw [Reading.after, gives]

theorem Fails.after_eq (fails : step.Fails before problem between) :
    step.after before = between := by
  rw [Reading.after, fails]

/-- Behind a step that succeeds the state is up to the next step. -/
theorem Gives.after_bind (gives : step.Gives before value between) :
    Reading.after (step >>= next) before = (next value).after between := by
  rw [Reading.after, ExceptT.run_bind, StateT.run_bind, gives]
  rfl

theorem Fails.after_bind (fails : step.Fails before problem between) :
    Reading.after (step >>= next) before = between :=
  fails.first.after_eq

end After

/-- A step leaves the floor where it is, whether it succeeds or fails. -/
def KeepsFloor (step : Reading α) : Prop :=
  ∀ before : ReadState, (step.after before).floor = before.floor

namespace KeepsFloor

variable {step : Reading α} {next : α → Reading β}

theorem pure (value : α) : KeepsFloor (Pure.pure value) := fun _ => rfl

theorem throw (problem : TreeError) : KeepsFloor (MonadExcept.throw problem : Reading α) :=
  fun _ => rfl

theorem get : KeepsFloor MonadState.get := fun _ => rfl

theorem note (item : TreeNote) : (Reading.note item).KeepsFloor := fun _ => rfl

theorem ofOffset (result : Except OffsetError α) : (Reading.ofOffset result).KeepsFloor := by
  rcases result with ⟨⟨⟩⟩ | _ <;> exact fun _ => rfl

/-- What follows a step and keeps the floor leaves it where the step does. -/
theorem after_bind (keeps : ∀ value, (next value).KeepsFloor) (before : ReadState) :
    (Reading.after (step >>= next) before).floor = (step.after before).floor := by
  rcases step.gives_or_fails before with ⟨value, between, gives⟩ | ⟨problem, between, fails⟩
  · rw [gives.after_bind, gives.after_eq, keeps value between]
  · rw [fails.after_bind, fails.after_eq]

theorem bind (first : step.KeepsFloor) (later : ∀ value, (next value).KeepsFloor) :
    KeepsFloor (step >>= next) :=
  fun before => (after_bind later before).trans (first before)

end KeepsFloor

/-- Whatever a step returns, in whatever state it starts, is of some kind. -/
def Yields (step : Reading α) (kind : α → Prop) : Prop :=
  ∀ before value after, step.Gives before value after → kind value

namespace Yields

variable {step : Reading α} {next : α → Reading β} {kind : α → Prop} {resultKind : β → Prop}

theorem pure {value : α} (isKind : kind value) : Yields (Pure.pure value) kind := by
  intro before other after gives
  obtain ⟨rfl, _⟩ := gives.unique (.pure value before)
  exact isKind

theorem ofOffset (result : Except OffsetError α) :
    (Reading.ofOffset result).Yields fun value => result = .ok value := by
  intro before value after gives
  rcases result with ⟨⟨⟩⟩ | found
  · exact (gives.not_fails (.ofOffset before)).elim
  · obtain ⟨rfl, _⟩ := gives.unique (.ofOffset found before)
    rfl

/-- What the first step returns is passed on to the second. -/
theorem bind (first : step.Yields kind)
    (later : ∀ value, kind value → (next value).Yields resultKind) :
    Yields (step >>= next) resultKind := by
  intro before result after gives
  obtain ⟨value, between, isValue, isResult⟩ := gives.exists_between
  exact later value (first before value between isValue) between result after isResult

/-- Behind a first step of which nothing is known. -/
theorem behind (later : ∀ value, (next value).Yields resultKind) :
    Yields (step >>= next) resultKind := by
  intro before result after gives
  obtain ⟨value, between, _, isResult⟩ := gives.exists_between
  exact later value between result after isResult

end Yields

/-- A step gives a value in any state and leaves nothing but notes. -/
def Leaves (step : Reading α) (value : α) (noted : List TreeNote) : Prop :=
  ∀ state : ReadState, step.Gives state value { state with notes := state.notes ++ noted }

namespace Leaves

variable {step : Reading α} {next : α → Reading β} {value : α} {result : β}
  {noted more : List TreeNote}

theorem pure (value : α) : Leaves (Pure.pure value) value [] := by
  intro state
  rw [List.append_nil]
  exact .pure value state

theorem bind (first : step.Leaves value noted) (second : (next value).Leaves result more) :
    Leaves (step >>= next) result (noted ++ more) := by
  intro state
  rw [← List.append_assoc]
  exact .bind (first state) (second _)

/-- Behind a step without notes the next step decides. -/
theorem bind_quiet (first : step.Leaves value []) (second : (next value).Leaves result more) :
    Leaves (step >>= next) result more :=
  bind first second

/-- A step without notes behind another adds nothing. -/
theorem then_quiet (first : step.Leaves value noted) (second : (next value).Leaves result []) :
    Leaves (step >>= next) result noted := by
  simpa using bind first second

theorem ofOffset (value : α) : (Reading.ofOffset (.ok value)).Leaves value [] := pure value

theorem note (item : TreeNote) : (Reading.note item).Leaves () [item] := fun _ => rfl

end Leaves

end JapaneseSpacing.Reading
