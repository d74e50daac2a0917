import Mathlib
import SkillDispatch.Skill.Chain

set_option autoImplicit false

/- The race between some work, its timeout and its cancellation, under any executor that keeps the
laws. Each poll of the race decides it, or takes all steps of the work that are due and lets the clock
jump to the next of three timers; so the race is decided when the clock gets to the timeout at the
latest. -/
namespace SkillDispatch

namespace Progress

/-- The millisecond of the last step, if each step is taken as soon as it is due. -/
def finish (progress : Progress) : ℕ :=
  progress.due + progress.waits.sum

/-- All steps, those that were taken and those to come. -/
def steps (progress : Progress) : ℕ :=
  progress.taken + progress.waits.length + 1

/-- From a poll on, no step is taken back, and one that was due then is taken. -/
structure MovesOn (now : ℕ) (progress : Progress) (taken : ℕ) : Prop where
  kept : progress.taken ≤ taken
  begun : progress.due ≤ now → progress.taken < taken

/-- After a poll, the next step is due later, and the work still takes as long. -/
structure Waits (now : ℕ) (progress later : Progress) : Prop where
  due : now < later.due
  finish : later.finish = progress.finish
  steps : later.steps = progress.steps
  movesOn : progress.MovesOn now later.taken

theorem MovesOn.of_waits {now next taken : ℕ} {progress later : Progress}
    (waits : progress.Waits now later) (moves : later.MovesOn next taken) :
    progress.MovesOn now taken where
  kept := waits.movesOn.kept.trans moves.kept
  begun due := (waits.movesOn.begun due).trans_le moves.kept

/-- A poll takes all steps that are due: the work is done, or it waits for a later step. -/
theorem poll_cases {now : ℕ} {progress : Progress} (inTime : now ≤ progress.due) :
    (progress.finish ≤ now ∧ ∃ after, poll now progress = (.ready (), after) ∧
        after.taken = progress.steps) ∨
      now < progress.finish ∧ ∃ later, poll now progress = (.pending (some later.due), later) ∧
        progress.Waits now later := by
  obtain ⟨taken, due, waits⟩ := progress
  rw [poll]
  dsimp only at inTime ⊢
  induction waits generalizing taken due with
  | nil =>
    rw [advance]
    by_cases isDue : due ≤ now
    · rw [if_pos isDue]
      exact Or.inl ⟨isDue, _, rfl, rfl⟩
    · rw [if_neg isDue]
      have later : now < due := Nat.lt_of_not_le isDue
      exact Or.inr ⟨later, _, rfl, later, rfl, rfl, le_refl _, fun due => absurd due isDue⟩
  | cons wait waits ih =>
    rw [advance]
    by_cases isDue : due ≤ now
    · rw [if_pos isDue]
      obtain rfl : due = now := le_antisymm isDue inTime
      have finish : Progress.finish ⟨taken, due, wait :: waits⟩ =
          Progress.finish ⟨taken + 1, due + wait, waits⟩ := by
        simp only [Progress.finish, List.sum_cons]
        omega
      have steps : Progress.steps ⟨taken, due, wait :: waits⟩ =
          Progress.steps ⟨taken + 1, due + wait, waits⟩ := by
        simp only [Progress.steps, List.length_cons]
        omega
      rw [finish, steps]
      rcases ih (taken + 1) (due + wait) (Nat.le_add_right _ _) with done | ⟨early, later, polled, on⟩
      · exact Or.inl done
      · have moves : taken + 1 ≤ later.taken := on.movesOn.kept
        refine Or.inr ⟨early, later, polled, on.due, on.finish.trans finish.symm,
          on.steps.trans steps.symm, ?_⟩
        exact ⟨by dsimp only; omega, fun _ => moves⟩
    · rw [if_neg isDue]
      have later : now < due := Nat.lt_of_not_le isDue
      refine Or.inr ⟨?_, _, rfl, later, rfl, rfl, le_refl _, fun due => absurd due isDue⟩
      rw [Progress.finish]
      dsimp only
      omega

end Progress

namespace Control

/-- The millisecond at which the time of the work is over. -/
def limit (control : Control) : ℕ :=
  control.timeout.timerMillis

/-- The millisecond at which the work is cancelled, if it ever is. -/
def cancellation (control : Control) : Option ℕ :=
  control.cancelAfter.map Duration.timerMillis

/-- No poll comes after the next step, the timeout or the cancellation. -/
structure OnTime (control : Control) (now : ℕ) (progress : Progress) : Prop where
  step : now ≤ progress.due
  limit : now ≤ control.limit
  cancelled : ∀ n, control.cancellation = some n → now ≤ n

/-- How a race ends that is polled at `now`: by which branch, and after how many steps of the work. -/
inductive Ends (control : Control) (now : ℕ) (progress : Progress) :
    Unit ⊕ Option Unit → ℕ → Prop
  | atOnce (after : control.cancellation = some now) :
    Ends control now progress (.inl ()) progress.taken
  | cancelled {n taken : ℕ} (after : control.cancellation = some n) (later : now < n)
    (beforeDone : n ≤ progress.finish) (beforeTimeout : n ≤ control.limit)
    (moves : progress.MovesOn now taken) : Ends control now progress (.inl ()) taken
  | done (inTime : progress.finish ≤ control.limit)
    (before : ∀ n, control.cancellation = some n → progress.finish < n) :
    Ends control now progress (.inr (some ())) progress.steps
  | timedOut {taken : ℕ} (late : control.limit < progress.finish)
    (before : ∀ n, control.cancellation = some n → control.limit < n)
    (moves : progress.MovesOn now taken) : Ends control now progress (.inr none) taken

variable {control : Control} {now : ℕ} {progress : Progress}

/-- What ends a race from a later poll on ends it from the poll before that one. -/
theorem Ends.of_waits {next taken : ℕ} {later : Progress} {branch : Unit ⊕ Option Unit}
    (waits : progress.Waits now later) (after : now < next) (onTime : control.OnTime next later)
    (ends : control.Ends next later branch taken) : control.Ends now progress branch taken := by
  cases ends with
  | atOnce isCancelled =>
    have beforeDone : next ≤ later.finish := onTime.step.trans (Nat.le_add_right _ _)
    exact .cancelled isCancelled after (waits.finish ▸ beforeDone) onTime.limit waits.movesOn
  | cancelled isCancelled isLater beforeDone beforeTimeout moves =>
    exact .cancelled isCancelled (after.trans isLater) (waits.finish ▸ beforeDone) beforeTimeout
      (moves.of_waits waits)
  | done inTime before =>
    rw [waits.finish] at inTime before
    rw [waits.steps]
    exact .done inTime before
  | timedOut late before moves =>
    exact .timedOut (waits.finish ▸ late) before (moves.of_waits waits)

theorem cancelled_of_ge {n : ℕ} (isCancelled : control.cancellation = some n) (past : n ≤ now) :
    control.cancelled now () = (.ready (), ()) := by
  obtain ⟨moment, isMoment, rfl⟩ := Option.map_eq_some_iff.1 isCancelled
  rw [cancelled, isMoment]
  exact if_pos past

theorem cancelled_of_lt (notYet : ∀ n, control.cancellation = some n → now < n) :
    control.cancelled now () = (.pending control.cancellation, ()) := by
  rw [cancellation] at notYet ⊢
  rw [cancelled]
  cases isMoment : control.cancelAfter with
  | none => rfl
  | some moment =>
    rw [isMoment] at notYet
    exact if_neg (Nat.not_le_of_lt (notYet _ rfl))

section

variable [Executor] (lawful : Executor.Lawful)

def racing (control : Control) : Future (Unit × Progress) (Unit ⊕ Option Unit) :=
  Executor.select control.cancelled (Executor.timeout control.timeout Progress.poll)

include lawful

theorem racing_of_cancelled (isCancelled : control.cancellation = some now) :
    control.racing now ((), progress) = (.ready (.inl ()), ((), progress)) := by
  rw [racing, lawful.select_biased, cancelled_of_ge isCancelled le_rfl]

/-- While it is not cancelled, the work is polled, and then its timeout. -/
theorem racing_of_lt (notYet : ∀ n, control.cancellation = some n → now < n)
    (progress : Progress) :
    control.racing now ((), progress) =
      match Progress.poll now progress with
      | (.ready (), after) => (.ready (.inr (some ())), ((), after))
      | (.pending timer, after) =>
        if control.limit ≤ now then (.ready (.inr none), ((), after))
        else (.pending (earlier control.cancellation (earlier timer (some control.limit))),
          ((), after)) := by
  rw [racing, lawful.select_biased, cancelled_of_lt notYet, lawful.timeout_polls_first]
  unfold limit
  -- The test is decided first: the kernel would compute with the nanoseconds to reduce it.
  by_cases isOver : control.timeout.timerMillis ≤ now
  · simp only [if_pos isOver]
    rcases Progress.poll now progress with ⟨_ | timer, after⟩ <;> rfl
  · simp only [if_neg isOver]
    rcases Progress.poll now progress with ⟨_ | timer, after⟩ <;> rfl

/-- A poll that is on time decides the race, or sets a timer for the next of the three times. -/
theorem racing_cases (onTime : control.OnTime now progress) :
    (∃ branch after, control.racing now ((), progress) = (.ready branch, ((), after)) ∧
        control.Ends now progress branch after.taken) ∨
      ∃ next later, control.racing now ((), progress) = (.pending (some next), ((), later)) ∧
        now < next ∧ progress.Waits now later ∧ control.OnTime next later := by
  by_cases isCancelled : control.cancellation = some now
  · exact Or.inl ⟨_, _, racing_of_cancelled lawful isCancelled, .atOnce isCancelled⟩
  have notYet : ∀ n, control.cancellation = some n → now < n := by
    intro n after
    refine lt_of_le_of_ne (onTime.cancelled n after) ?_
    rintro rfl
    exact isCancelled after
  have raced := racing_of_lt lawful notYet progress
  rcases Progress.poll_cases onTime.step with ⟨done, after, polled, taken⟩ |
    ⟨early, later, polled, waits⟩
  · -- A poll that is on time is not later than the last step.
    have atFinish : progress.finish = now :=
      le_antisymm done (onTime.step.trans (Nat.le_add_right _ _))
    rw [polled] at raced
    refine Or.inl ⟨_, _, raced, ?_⟩
    rw [taken]
    refine .done (atFinish ▸ onTime.limit) ?_
    rw [atFinish]
    exact notYet
  rw [polled] at raced
  dsimp only at raced
  by_cases isOver : control.limit ≤ now
  · rw [if_pos isOver] at raced
    have atLimit : control.limit = now := le_antisymm isOver onTime.limit
    refine Or.inl ⟨_, _, raced, .timedOut (atLimit ▸ early) ?_ waits.movesOn⟩
    rw [atLimit]
    exact notYet
  · rw [if_neg isOver] at raced
    have beforeLimit : now < control.limit := Nat.lt_of_not_le isOver
    have due := waits.due
    cases isSome : control.cancellation with
    | none =>
      rw [isSome] at raced
      refine Or.inr ⟨_, later, raced, by omega, waits, ?_, ?_, ?_⟩
      · omega
      · omega
      · rw [isSome]
        exact nofun
    | some n =>
      have before := notYet n isSome
      rw [isSome] at raced
      refine Or.inr ⟨_, later, raced, by omega, waits, ?_, ?_, ?_⟩
      · omega
      · omega
      · intro other same
        cases isSome.symm.trans same
        omega

/-- The clock does not get beyond the timeout, so the race ends. -/
theorem run_ends (onTime : control.OnTime now progress) :
    ∃ branch after, Executor.run control.racing now ((), progress) = (branch, ((), after)) ∧
      control.Ends now progress branch after.taken := by
  induction left : control.limit - now using Nat.strongRecOn generalizing now progress with
  | ind left ih =>
    have jumps := lawful.clock_jumps control.racing now ((), progress)
    rcases racing_cases lawful onTime with ⟨branch, after, polled, ends⟩ |
      ⟨next, later, polled, isLater, waits, nextOnTime⟩
    · rw [polled] at jumps
      exact ⟨branch, after, jumps, ends⟩
    · rw [polled] at jumps
      have jumped : Executor.run control.racing now ((), progress) =
          Executor.run control.racing next ((), later) := by
        rw [← max_eq_right isLater.le]
        exact jumps
      have limit := nextOnTime.limit
      obtain ⟨branch, after, ran, ends⟩ :=
        ih (control.limit - next) (by omega) nextOnTime rfl
      exact ⟨branch, after, jumped.trans ran, ends.of_waits waits isLater nextOnTime⟩

end

end Control

theorem Control.race_ends [Executor] (lawful : Executor.Lawful) (control : Control)
    (waits : List ℕ) :
    control.Ends 0 (.untouched waits) (control.race waits).1 (control.race waits).2 := by
  have onTime : control.OnTime 0 (.untouched waits) :=
    ⟨Nat.zero_le _, Nat.zero_le _, fun _ _ => Nat.zero_le _⟩
  obtain ⟨branch, after, ran, ends⟩ := run_ends lawful onTime
  have raced : control.race waits = (branch, after.taken) := by
    show ((Executor.run control.racing 0 ((), .untouched waits)).1,
      (Executor.run control.racing 0 ((), .untouched waits)).2.2.taken) = _
    rw [ran]
  rw [raced]
  exact ends

theorem Control.race_eq_done [Executor] (lawful : Executor.Lawful) {control : Control}
    {waits : List ℕ} (inTime : waits.sum ≤ control.limit)
    (before : ∀ n, control.cancellation = some n → waits.sum < n) :
    control.race waits = (.inr (some ()), waits.length + 1) := by
  have finish : (Progress.untouched waits).finish = waits.sum := Nat.zero_add _
  have steps : (Progress.untouched waits).steps = waits.length + 1 :=
    congrArg (· + 1) (Nat.zero_add _)
  have ends := race_ends lawful control waits
  generalize control.race waits = raced at ends ⊢
  obtain ⟨branch, taken⟩ := raced
  cases ends with
  | atOnce after => exact absurd (before 0 after) (Nat.not_lt_zero _)
  | cancelled after _ beforeDone =>
    rw [finish] at beforeDone
    exact absurd (before _ after) (Nat.not_lt_of_le beforeDone)
  | done => exact congrArg (Prod.mk _) steps
  | timedOut late =>
    rw [finish] at late
    exact absurd inTime (Nat.not_le_of_lt late)

theorem Control.cancelledAtOnce_iff (control : Control) :
    control.cancelledAtOnce = true ↔ control.cancellation = some 0 := by
  rw [cancelledAtOnce, cancellation]
  cases control.cancelAfter with
  | none => simp
  | some moment =>
    rw [Option.map_some, Option.some.injEq, Duration.timerMillis_eq_zero_iff]
    exact decide_eq_true_iff

/-- Only what is cancelled at once never starts. -/
theorem Control.race_taken_pos_iff [Executor] (lawful : Executor.Lawful) (control : Control)
    (waits : List ℕ) : 0 < (control.race waits).2 ↔ ¬control.cancelledAtOnce = true := by
  rw [control.cancelledAtOnce_iff]
  have begun : ∀ {taken}, (Progress.untouched waits).MovesOn 0 taken → 0 < taken :=
    fun moves => moves.begun (le_refl 0)
  have ends := race_ends lawful control waits
  generalize (control.race waits).1 = branch at ends
  generalize (control.race waits).2 = taken at ends ⊢
  cases ends with
  | atOnce after => simp [after, Progress.untouched]
  | cancelled after later _ _ moves => simp [begun moves, after, later.ne']
  | done _ before =>
    have later : control.cancellation ≠ some 0 := fun after => Nat.not_lt_zero _ (before 0 after)
    simp [later, Progress.steps]
  | timedOut _ before moves =>
    have later : control.cancellation ≠ some 0 := fun after => Nat.not_lt_zero _ (before 0 after)
    simp [later, begun moves]

namespace Work

variable {m : Type → Type} [Monad m] {α σ : Type}

def lift (σ : Type) (work : Work m α) : Work (StateT σ m) α where
  start := StateT.lift work.start
  pauses := work.pauses.map fun pause => ⟨pause.delay, StateT.lift pause.after⟩
  finish := StateT.lift work.finish

@[simp] theorem waits_lift (work : Work m α) : (work.lift σ).waits = work.waits := by
  rw [waits, waits, lift, List.map_map]
  rfl

variable [LawfulMonad m]

theorem run_forM_lift (pauses : List (Pause m)) (state : σ) :
    (forM pauses fun pause => (StateT.lift pause.after : StateT σ m PUnit)).run state =
      (·, state) <$> forM pauses fun pause => pause.after := by
  induction pauses with
  | nil => simp
  | cons pause rest ih => simp [ih]

/-- Work that leaves a note when it starts: of the steps that are taken, only the first one changes the
state. -/
theorem run_perform_noted (work : Work m α) {start : StateT σ m Unit} {note : σ → σ}
    (noted : ∀ state, start.run state = (·, note state) <$> work.start)
    (finish : StateT σ m (Except ChainError α)) (taken : ℕ) (state : σ) :
    (perform ⟨start, (work.lift σ).pauses, finish⟩ taken).run state =
      (·, if taken = 0 then state else note state) <$> work.perform taken := by
  cases taken with
  | zero => simp [perform]
  | succ count =>
    rw [perform, StateT.run_bind, lift, ← List.map_take, List.forM_map, noted, bind_map_left,
      perform, map_bind]
    exact bind_congr fun _ => run_forM_lift _ _

end Work

end SkillDispatch
