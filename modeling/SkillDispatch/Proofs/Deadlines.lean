import SkillDispatch.Proofs.Races
import SkillDispatch.Skill.PausedClock

set_option autoImplicit false

namespace SkillDispatch

/-- A stage of a chain that ran, with what came of it. -/
inductive Stage (α : Type)
  | started
  | completed (result : Except ChainError α)
  | rendered (data : α) (answer : Except ChainError Rendered)

/-- The bounds of work that is given `t` milliseconds and is cancelled after `c` milliseconds, if it
ever is. -/
def Control.ofMillis (t : ℕ) (c : Option ℕ) : Control :=
  ⟨.ofMillis t, c.map .ofMillis⟩

variable {m : Type → Type} [Monad m] {α : Type}

namespace Work

def millis (work : Work m α) : ℕ :=
  work.waits.sum

def watched (work : Work m α) : Work (StateT (List (Stage α)) m) α where
  start := do
    work.start
    modify fun stages => stages ++ [.started]
  pauses := (work.lift _).pauses
  finish := do
    let result ← work.finish
    modify fun stages => stages ++ [.completed result]
    return result

end Work

namespace Chain

/-- A chain whose stages are written down, recognition apart. -/
def watched (chain : Chain m α) : Chain (StateT (List (Stage α)) m) α where
  recognize utterance := StateT.lift (chain.recognize utterance)
  process utterance slots := (chain.process utterance slots).watched
  output data := do
    let answer ← chain.output data
    modify fun stages => stages ++ [.rendered data answer]
    return answer

/-- What a chain makes of the result of its work. -/
def conclude (chain : Chain m α) : Except ChainError α → m (Except ChainError Rendered)
  | .ok data => chain.output data
  | .error error => pure (.error error)

variable [LawfulMonad m] (chain : Chain m α)

end Chain

namespace Chain

variable [LawfulMonad m] (chain : Chain m α) {d t : ℕ} {c : Option ℕ}

end Chain

end SkillDispatch
