import SkillDispatch.Skill.Error
import SkillDispatch.Skill.Future

set_option autoImplicit false

/- Work that takes time. Its effects happen in a monad: some when it starts, some after each pause, and
the last ones when it is done. It may be given up in any pause. -/
namespace SkillDispatch

structure Control where
  /-- The work has to be done within this time. -/
  timeout : Duration
  /-- The time after which the work is cancelled, if it ever is. -/
  cancelAfter : Option Duration

namespace Control

def ofTimeout (timeout : Duration) : Control := ⟨timeout, none⟩

/-- Whether the work is cancelled before it can start. -/
def cancelledAtOnce (control : Control) : Bool :=
  match control.cancelAfter with
  | some moment => moment.nanos = 0
  | none => false

def cancelled (control : Control) : Future Unit Unit := fun now state =>
  match control.cancelAfter with
  | none => (.pending none, state)
  | some moment =>
    if moment.timerMillis ≤ now then (.ready (), state)
    else (.pending (some moment.timerMillis), state)

end Control

/-- How far some work has come. -/
structure Progress where
  /-- The steps that were taken, of which the first one starts the work. -/
  taken : Nat
  /-- The millisecond of the next step. -/
  due : Nat
  /-- The milliseconds between the steps that follow. -/
  waits : List Nat
  deriving Inhabited

def Progress.untouched (waits : List Nat) : Progress := ⟨0, 0, waits⟩

/-- Takes all steps that are due. A pause begins when the step before it is taken. -/
def Progress.advance (now taken due : Nat) : List Nat → Poll Unit × Progress
  | [] =>
    if due ≤ now then (.ready (), ⟨taken + 1, due, []⟩)
    else (.pending (some due), ⟨taken, due, []⟩)
  | wait :: waits =>
    if due ≤ now then Progress.advance now (taken + 1) (now + wait) waits
    else (.pending (some due), ⟨taken, due, wait :: waits⟩)

def Progress.poll : Future Progress Unit := fun now progress =>
  Progress.advance now progress.taken progress.due progress.waits

/-- The branch that is ready first, of the cancellation and of the work within its time, and the steps
that the work has taken by then. The cancellation has precedence. -/
def Control.race [Executor] (control : Control) (waits : List Nat) : (Unit ⊕ Option Unit) × Nat :=
  let (branch, _, progress) := Executor.run
    (Executor.select control.cancelled (Executor.timeout control.timeout Progress.poll)) 0
    ((), .untouched waits)
  (branch, progress.taken)

structure Pause (m : Type → Type) where
  delay : Duration
  /-- What happens when the work goes on. -/
  after : m Unit

structure Work (m : Type → Type) (α : Type) where
  /-- What happens when the work starts. -/
  start : m Unit
  pauses : List (Pause m)
  /-- What happens when the work is done, with its result. -/
  finish : m (Except ChainError α)

namespace Work

variable {m : Type → Type} {α : Type}

def waits (work : Work m α) : List Nat :=
  work.pauses.map fun pause => pause.delay.timerMillis

variable [Monad m]

/-- The effects of the first steps. -/
def perform (work : Work m α) : Nat → m Unit
  | 0 => pure ()
  | pauses + 1 => do
    work.start
    forM (work.pauses.take pauses) fun pause => pause.after

/-- Does some work within bounds. Work that is given up leaves the effects of the steps that it has
taken, and those of its end only if it is done. -/
def within [Executor] (work : Work m α) (control : Control) : m (Except ChainError α) := do
  let (branch, taken) := control.race work.waits
  work.perform taken
  match branch with
  | .inl () => return .error .cancelled
  | .inr (some ()) => work.finish
  | .inr none => return .error (.timedOut control.timeout)

end Work

end SkillDispatch
