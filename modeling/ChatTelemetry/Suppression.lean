/-!
Suppression of telemetry.

Two flags, one of the task and one of the thread, are set on entering a scope and given back their
former value on leaving it, also when it is left by a panic. Telemetry is suppressed while either is
set.
-/

namespace ChatTelemetry

structure Suppression where
  task : Bool
  thread : Bool
deriving DecidableEq, Repr, Inhabited

namespace Suppression

def none : Suppression := ⟨false, false⟩

def isActive (s : Suppression) : Bool :=
  s.task || s.thread

inductive Step
  | check
  | task (body : List Step)
  | thread (body : List Step)
  /-- Runs steps on another thread, which is outside every scope, and waits for it. -/
  | spawn (body : List Step)
  | catching (body : List Step)
  | panic
deriving Repr, Inhabited

inductive Observation
  | suppressed (b : Bool)
  | panicked
  | returned
deriving DecidableEq, Repr

/-- The state of a program, and whether it is on its way out by a panic. -/
structure Run where
  seen : List Observation
  flags : Suppression
  panicking : Bool
deriving DecidableEq, Repr

mutual

def Step.run (s : Suppression) : Step → Run
  | .check => ⟨[.suppressed s.isActive], s, false⟩
  | .task body =>
    let r := runAll { s with task := true } body
    { r with flags := { r.flags with task := s.task } }
  | .thread body =>
    let r := runAll { s with thread := true } body
    { r with flags := { r.flags with thread := s.thread } }
  | .spawn body =>
    let r := runAll none body
    { r with flags := s }
  | .catching body =>
    let r := runAll s body
    ⟨r.seen ++ [if r.panicking then .panicked else .returned], r.flags, false⟩
  | .panic => ⟨[], s, true⟩

def runAll (s : Suppression) : List Step → Run
  | [] => ⟨[], s, false⟩
  | step :: rest =>
    let r := step.run s
    if r.panicking then r
    else
      let r' := runAll r.flags rest
      { r' with seen := r.seen ++ r'.seen }

end

end Suppression
end ChatTelemetry
