import SkillDispatch.Duration

set_option autoImplicit false

/- Work that waits, and what it waits in. A future is polled again and again until it is ready. The
executor that polls it, its clock, and its ways to put futures together are not part of this library:
they are given, and what is relied on of them is stated as a law. Time is counted in milliseconds from
the moment of a call. -/
namespace SkillDispatch

inductive Poll (α : Type)
  | ready (value : α)
  /-- It asks to be polled again at this millisecond, or at none. -/
  | pending (timer : Option Nat)

/-- A future that is polled at a millisecond, in the state that the last poll has left. -/
abbrev Future (σ α : Type) := Nat → σ → Poll α × σ

def earlier : Option Nat → Option Nat → Option Nat
  | some first, some second => some (min first second)
  | some first, none => some first
  | none, second => second

class Executor where
  /-- The first of two futures that is ready, where the first one has precedence. -/
  select {σ τ α β : Type} : Future σ α → Future τ β → Future (σ × τ) (α ⊕ β)
  /-- A future that is given up when a time is over. -/
  timeout {σ α : Type} : Duration → Future σ α → Future σ (Option α)
  /-- Polls a future until it is ready, from some millisecond on. What becomes of one that is never
  ready is left open. -/
  run {σ α : Type} [Nonempty σ] [Nonempty α] : Future σ α → Nat → σ → α × σ

/-- What is relied on of an executor. -/
structure Executor.Lawful [Executor] : Prop where
  /-- The first future is polled first, and if it is ready the second one is not polled. -/
  select_biased : ∀ {σ τ α β : Type} (first : Future σ α) (second : Future τ β) (now : Nat)
    (firstState : σ) (secondState : τ),
    select first second now (firstState, secondState) =
      match first now firstState with
      | (.ready value, firstAfter) => (.ready (.inl value), (firstAfter, secondState))
      | (.pending firstTimer, firstAfter) =>
        match second now secondState with
        | (.ready value, secondAfter) => (.ready (.inr value), (firstAfter, secondAfter))
        | (.pending secondTimer, secondAfter) =>
          (.pending (earlier firstTimer secondTimer), (firstAfter, secondAfter))
  /-- The work is polled first; whether its time is over counts only if it is not ready. -/
  timeout_polls_first : ∀ {σ α : Type} (time : Duration) (work : Future σ α) (now : Nat) (state : σ),
    timeout time work now state =
      match work now state with
      | (.ready value, after) => (.ready (some value), after)
      | (.pending timer, after) =>
        if time.timerMillis ≤ now then (.ready none, after)
        else (.pending (earlier timer (some time.timerMillis)), after)
  /-- While nothing is ready, the clock jumps to the next timer. -/
  clock_jumps : ∀ {σ α : Type} [Nonempty σ] [Nonempty α] (future : Future σ α) (now : Nat)
    (state : σ),
    match future now state with
    | (.ready value, after) => run future now state = (value, after)
    | (.pending (some timer), after) =>
      run future now state = run future (max now timer) after
    | (.pending none, _) => True

end SkillDispatch
