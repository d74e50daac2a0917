import SkillDispatch.Skill.Future

set_option autoImplicit false

namespace SkillDispatch.PausedClock

/-- One poll of a future, and the millisecond of the next one. The clock stands still while anything
can be done. A future that waits for no timer is polled for ever. -/
def tick {σ α : Type} (future : Future σ α) : Nat × σ → Id ((Nat × σ) ⊕ (α × σ)) :=
  fun (now, state) =>
    match future now state with
    | (.ready value, after) => .inr (value, after)
    | (.pending none, after) => .inl (now, after)
    | (.pending (some timer), after) => .inl (max now timer, after)

instance executor : Executor where
  select first second := fun now (firstState, secondState) =>
    match first now firstState with
    | (.ready value, firstAfter) => (.ready (.inl value), (firstAfter, secondState))
    | (.pending firstTimer, firstAfter) =>
      match second now secondState with
      | (.ready value, secondAfter) => (.ready (.inr value), (firstAfter, secondAfter))
      | (.pending secondTimer, secondAfter) =>
        (.pending (earlier firstTimer secondTimer), (firstAfter, secondAfter))
  timeout time work := fun now state =>
    match work now state with
    | (.ready value, after) => (.ready (some value), after)
    | (.pending timer, after) =>
      if time.timerMillis ≤ now then (.ready none, after)
      else (.pending (earlier timer (some time.timerMillis)), after)
  run future now state := (repeatM (tick future) (now, state)).run

theorem lawful : Executor.Lawful where
  select_biased _ _ _ _ _ := rfl
  timeout_polls_first _ _ _ _ := rfl
  clock_jumps future now state := by
    simp only [Executor.run]
    split
    · rename_i value after polled
      rw [repeatM_eq_of_monadTail, repeatM.body, tick, polled]
      rfl
    · rename_i timer after polled
      rw [repeatM_eq_of_monadTail, repeatM.body, tick, polled]
      rfl
    · trivial

end SkillDispatch.PausedClock
