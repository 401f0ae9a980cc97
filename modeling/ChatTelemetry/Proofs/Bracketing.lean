import ChatTelemetry.Suppression

/-!
This module shows that suppression follows the nesting of scopes: a check sees whether a scope is
around it, and a scope leaves both flags as it has found them, whichever way it is left.
-/

namespace ChatTelemetry.Suppression

inductive Scope
  | task
  | thread
deriving DecidableEq, Repr

/--
Where a step stands in a program: the scopes around it on its own thread, the innermost first, and
whether that is the thread that the program has been started on.
-/
structure Place where
  scopes : List Scope
  onFirstThread : Bool
deriving DecidableEq, Repr

namespace Place

def outermost : Place := ⟨[], true⟩

/-- The beginning of another thread. -/
def ofThread : Place := ⟨[], false⟩

def inside (p : Place) (scope : Scope) : Place :=
  { p with scopes := scope :: p.scopes }

/-- Whether telemetry is suppressed in a place of a program that was started suppressed or not. -/
def isSuppressed (started : Bool) (p : Place) : Bool :=
  p.onFirstThread && started || !p.scopes.isEmpty

/-- The flags in a place of a program that was started with some. -/
def flags (start : Suppression) (p : Place) : Suppression where
  task := p.onFirstThread && start.task || p.scopes.contains .task
  thread := p.onFirstThread && start.thread || p.scopes.contains .thread

theorem isSuppressed_iff {started : Bool} {p : Place}
    : p.isSuppressed started = true
        ↔
      p.scopes ≠ [] ∨ p.onFirstThread = true ∧ started = true := by
  simp [isSuppressed, or_comm]

@[simp]
theorem flags_outermost (start : Suppression) : outermost.flags start = start := by
  simp [outermost, flags]

@[simp]
theorem flags_ofThread (start : Suppression) : ofThread.flags start = Suppression.none := by
  rfl

theorem flags_inside_task (start : Suppression) (p : Place)
    : (p.inside .task).flags start = { p.flags start with task := true } := by
  simp [inside, flags]

theorem flags_inside_thread (start : Suppression) (p : Place)
    : (p.inside .thread).flags start = { p.flags start with thread := true } := by
  simp [inside, flags]

theorem isActive_flags (start : Suppression) (p : Place)
    : (p.flags start).isActive = p.isSuppressed start.isActive := by
  obtain ⟨scopes, onFirstThread⟩ := p
  cases scopes with
  | nil => cases onFirstThread <;> simp [flags, isActive, isSuppressed]
  | cons scope scopes => cases scope <;> simp [flags, isActive, isSuppressed]

end Place

/-! ### What the text of a program says -/

/-- Something that is observed of a program, with the place where it is. -/
inductive Mark
  | check (p : Place)
  | panicked
  | returned
deriving DecidableEq, Repr

def Mark.observation (started : Bool) : Mark → Observation
  | check p => .suppressed (p.isSuppressed started)
  | panicked => .panicked
  | returned => .returned

mutual

/-- The marks that a step leaves, and whether it panics. They do not depend on any flags. -/
def Step.marks (p : Place) : Step → List Mark × Bool
  | .check => ([.check p], false)
  | .task body => marksAll (p.inside .task) body
  | .thread body => marksAll (p.inside .thread) body
  | .spawn body => marksAll .ofThread body
  | .catching body =>
    let (marks, panics) := marksAll p body
    (marks ++ [if panics then .panicked else .returned], false)
  | .panic => ([], true)

def marksAll (p : Place) : List Step → List Mark × Bool
  | [] => ([], false)
  | step :: rest =>
    let (marks, panics) := step.marks p
    if panics then (marks, true)
    else
      let (later, panics) := marksAll p rest
      (marks ++ later, panics)

end

/-! ### Runs -/

mutual

-- The invariant: in each place the flags are those that the scopes around it have set.
theorem Step.run_flags (start : Suppression) (p : Place) (step : Step)
    : step.run (p.flags start)
        =
      ⟨(step.marks p).1.map (Mark.observation start.isActive), p.flags start,
        (step.marks p).2⟩ := by
  cases step with
  | check => simp [Step.run, Step.marks, Mark.observation, Place.isActive_flags]
  | task body =>
    rw [Step.run, ← Place.flags_inside_task, runAll_flags]
    simp [Step.marks, Place.flags_inside_task]
  | thread body =>
    rw [Step.run, ← Place.flags_inside_thread, runAll_flags]
    simp [Step.marks, Place.flags_inside_thread]
  | spawn body =>
    rw [Step.run, ← Place.flags_ofThread start, runAll_flags]
    simp [Step.marks]
  | catching body =>
    rw [Step.run, runAll_flags]
    cases hpanics : (marksAll p body).2 with
    | false => simp [Step.marks, hpanics, Mark.observation]
    | true => simp [Step.marks, hpanics, Mark.observation]
  | panic => simp [Step.run, Step.marks]

theorem runAll_flags (start : Suppression) (p : Place) (steps : List Step)
    : runAll (p.flags start) steps
        =
      ⟨(marksAll p steps).1.map (Mark.observation start.isActive), p.flags start,
        (marksAll p steps).2⟩ := by
  cases steps with
  | nil => simp [runAll, marksAll]
  | cons step rest =>
    rw [runAll, Step.run_flags]
    cases hpanics : (step.marks p).2 with
    | true => simp [marksAll, hpanics]
    | false =>
      dsimp only
      rw [runAll_flags]
      simp [marksAll, hpanics]

end

/--
What is observed of a program follows from its text and from whether it was started suppressed. A
check sees suppression just where a scope is around it or where the program itself is suppressed.
Whatever is run leaves both flags as it has found them, be it that it returns or that it panics.
-/
theorem suppression_follows_scopes
    : (∀ s program,
        (runAll s program).seen
            = (marksAll .outermost program).1.map (Mark.observation s.isActive) ∧
          (runAll s program).panicking = (marksAll .outermost program).2) ∧
      (∀ started p, ∃ b, Mark.observation started (.check p) = .suppressed b ∧
        (b = true ↔ p.scopes ≠ [] ∨ p.onFirstThread = true ∧ started = true)) ∧
      (∀ s body, ((Step.task body).run s).flags = s ∧ ((Step.thread body).run s).flags = s) ∧
      ∀ s program, (runAll s program).flags = s := by
  have hrun : ∀ s program, runAll s program = _ := fun s program =>
    (congrArg (runAll · program) (Place.flags_outermost s)).symm.trans
      (runAll_flags s .outermost program)
  have hstep : ∀ (s : Suppression) (step : Step), (step.run s).flags = s := by
    intro s step
    have hflags := Step.run_flags s .outermost step
    rw [Place.flags_outermost] at hflags
    rw [hflags]
  refine ⟨?_, ?_, fun s body => ⟨hstep s _, hstep s _⟩, ?_⟩
  . intro s program
    rw [hrun]
    exact ⟨rfl, rfl⟩
  . intro started p
    exact ⟨p.isSuppressed started, rfl, Place.isSuppressed_iff⟩
  . intro s program
    rw [hrun]
    exact Place.flags_outermost s

example
    : (runAll .none
          [.catching [.thread [.catching [.thread [.panic]], .check, .panic]], .check]).seen
        =
      [.panicked, .suppressed true, .panicked, .suppressed false] := by
  decide

end ChatTelemetry.Suppression
