import Mathlib
import SkillDispatch.Proofs.DispatchLaw

set_option autoImplicit false

namespace SkillDispatch

variable {m : Type → Type} [Monad m]

namespace Dispatcher

/-- What is made of the outcome of a dispatch, with the fallback. -/
def finish (dispatcher : Dispatcher m) (utterance : Utterance) (outcome : Outcome) :
    m (Option Rendered) :=
  match outcome.result?, dispatcher.fallback with
  | some result, _ => pure (some result)
  | none, none => pure none
  | none, some skill =>
    Except.toOption <$> skill.respond utterance .none (dispatcher.control none)

/-- The result of a dispatch with its outcome, and the calls of the fallback. -/
inductive Finished (dispatcher : Dispatcher m) (utterance : Utterance) :
    Outcome → Option Rendered → List Call → Prop
  /-- A rendered result is the result, and the fallback is not called. -/
  | rendered (skillId : String) (result : Rendered) :
    Finished dispatcher utterance (.rendered skillId result) (some result) []
  /-- Otherwise there is no result, if there is no fallback. -/
  | alone {outcome : Outcome} (unrendered : outcome.result? = none)
    (unset : dispatcher.fallback = none) : Finished dispatcher utterance outcome none []
  /-- If there is one, it is called once, without a match and within the configured time, and what it
  renders is the result. -/
  | fallback {outcome : Outcome} (answer : Except ChainError Rendered)
    (unrendered : outcome.result? = none) (set : dispatcher.fallback.isSome = true) :
    Finished dispatcher utterance outcome answer.toOption
      [.responded .fallback utterance .none ⟨dispatcher.config.timeout, none⟩ answer]

variable [LawfulMonad m] (dispatcher : Dispatcher m)

/-- The fallback comes after a dispatch that is never cancelled. -/
theorem dispatchOrFallback_eq (text : String) :
    dispatcher.dispatchOrFallback text =
      dispatcher.dispatchOutcome text none >>= dispatcher.finish (.ofText text) := by
  rw [dispatchOrFallback, dispatchOutcome]
  refine bind_congr fun outcome => ?_
  rw [finish]
  cases outcome with
  | rendered skillId result => rfl
  | noMatch => cases dispatcher.fallback <;> simp [Outcome.result?]
  | failed skillId error => cases dispatcher.fallback <;> simp [Outcome.result?]

/-- Watching writes down the call of the fallback, where there is one. -/
theorem finish_watched (utterance : Utterance) (outcome : Outcome) (calls : List Call) :
    (dispatcher.watched.finish utterance outcome).run calls =
      match outcome.result?, dispatcher.fallback with
      | some result, _ => pure (some result, calls)
      | none, none => pure (none, calls)
      | none, some skill =>
        (fun answer => (answer.toOption, calls ++
            [.responded .fallback utterance .none (dispatcher.control none) answer])) <$>
          skill.respond utterance .none (dispatcher.control none) := by
  rw [finish]
  cases outcome.result? with
  | some result => rfl
  | none =>
    cases set : dispatcher.fallback with
    | none =>
      simp only [watched, set, Option.map_none]
      rfl
    | some skill =>
      simp only [watched, set, Option.map_some, StateT.run_map, Skill.watched_respond_run,
        Functor.map_map]
      rfl

theorem finish_finished (utterance : Utterance) (outcome : Outcome) (calls : List Call) :
    SatisfiesM
      (fun run => ∃ answers, run.2 = calls ++ answers ∧
        dispatcher.Finished utterance outcome run.1 answers)
      ((dispatcher.watched.finish utterance outcome).run calls) := by
  rw [finish_watched]
  cases rendered : outcome.result? with
  | some result =>
    refine .pure ⟨[], by rw [List.append_nil], ?_⟩
    cases outcome with
    | rendered skillId kept =>
      obtain rfl : kept = result := Option.some.inj rendered
      exact .rendered skillId kept
    | noMatch => cases rendered
    | failed skillId error => cases rendered
  | none =>
    cases set : dispatcher.fallback with
    | none => exact .pure ⟨[], by rw [List.append_nil], .alone rendered set⟩
    | some skill =>
      exact SatisfiesM.map .trivial fun {answer} _ =>
        ⟨_, rfl, .fallback answer rendered (by rw [set]; rfl)⟩

theorem finish_watched_erased (utterance : Utterance) (outcome : Outcome) (calls : List Call) :
    Prod.fst <$> (dispatcher.watched.finish utterance outcome).run calls =
      dispatcher.finish utterance outcome := by
  rw [finish_watched, finish]
  cases outcome.result? with
  | some result => simp
  | none =>
    cases dispatcher.fallback with
    | none => simp
    | some skill => simp

theorem dispatchOrFallback_watched_erased (text : String) (calls : List Call) :
    Prod.fst <$> (dispatcher.watched.dispatchOrFallback text).run calls =
      dispatcher.dispatchOrFallback text := by
  rw [dispatchOrFallback_eq, dispatchOrFallback_eq, StateT.run_bind, map_bind, dispatchOutcome,
    dispatchOutcome, ← dispatcher.run_watched_erased _ none calls, bind_map_left]
  exact bind_congr fun run => dispatcher.finish_watched_erased _ run.1 run.2

/-- The calls are those of a dispatch that is never cancelled, and then those of the fallback. -/
theorem dispatchOrFallback_finished (text : String) :
    SatisfiesM
      (fun run => ∃ outcome calls answers, run.2 = calls ++ answers ∧
        dispatcher.Dispatched (.ofText text) none outcome calls ∧
        dispatcher.Finished (.ofText text) outcome run.1 answers)
      ((dispatcher.watched.dispatchOrFallback text).run []) := by
  rw [dispatchOrFallback_eq, StateT.run_bind]
  refine (dispatcher.run_dispatched _ none).bind fun dispatched law => ?_
  refine (dispatcher.finish_finished _ dispatched.1 dispatched.2).imp fun {run} following => ?_
  obtain ⟨answers, calls_eq, finished⟩ := following
  exact ⟨dispatched.1, dispatched.2, answers, calls_eq, law, finished⟩

end Dispatcher

/-- A watched program that adds no calls but allowed ones. -/
def Keeps {α : Type} (allowed : Call → Prop) (program : StateT (List Call) m α) : Prop :=
  ∀ calls, (∀ call ∈ calls, allowed call) →
    SatisfiesM (fun run => ∀ call ∈ run.2, allowed call) (program.run calls)

namespace Keeps

variable [LawfulMonad m] {α β : Type} {allowed : Call → Prop} {program : StateT (List Call) m α}

theorem pure (value : α) : Keeps allowed (Pure.pure value : StateT (List Call) m α) := by
  intro calls kept
  exact .pure kept

theorem bind {next : α → StateT (List Call) m β} (first : Keeps allowed program)
    (second : ∀ value, Keeps allowed (next value)) : Keeps allowed (program >>= next) := by
  intro calls kept
  rw [StateT.run_bind]
  exact (first calls kept).bind fun run => second run.1 run.2

theorem map (f : α → β) (first : Keeps allowed program) : Keeps allowed (f <$> program) := by
  rw [map_eq_pure_bind]
  exact first.bind fun value => .pure (f value)

theorem mapM (f : α → StateT (List Call) m β) (each : ∀ value, Keeps allowed (f value))
    (values : List α) : Keeps allowed (values.mapM f) := by
  induction values with
  | nil => exact .pure []
  | cons value rest ih =>
    rw [List.mapM_cons]
    exact (each value).bind fun first => ih.bind fun others => .pure (first :: others)

theorem written {work : m α} {call : α → Call} (fine : ∀ value, allowed (call value))
    {calls : List Call} (kept : ∀ call ∈ calls, allowed call) :
    SatisfiesM (fun run : α × List Call => ∀ call ∈ run.2, allowed call)
      ((fun value => (value, calls ++ [call value])) <$> work) := by
  refine SatisfiesM.map .trivial fun {value} _ written member => ?_
  rcases List.mem_append.1 member with old | new
  · exact kept written old
  · rw [List.mem_singleton.1 new]
    exact fine value

theorem watched_score {seat : Seat} {skill : Skill m} {utterance : Utterance}
    (fine : ∀ found, allowed (.scored seat utterance found)) :
    Keeps allowed ((skill.watched seat).score utterance) := by
  intro calls kept
  rw [Skill.watched_score_run]
  exact written fine kept

theorem watched_respond {seat : Seat} {skill : Skill m} {utterance : Utterance} {selected : Match}
    {control : Control} (fine : ∀ answer, allowed (.responded seat utterance selected control answer)) :
    Keeps allowed ((skill.watched seat).respond utterance selected control) := by
  intro calls kept
  rw [Skill.watched_respond_run]
  exact written fine kept

end Keeps

def Call.SparesFallback : Call → Prop
  | .scored seat _ _ => seat ≠ .fallback
  | .responded .. => True

inductive Request
  | select (utterance : Utterance)
  | outcome (text : String) (cancelAfter : Option Duration)
  | dispatchWith (text : String) (cancelAfter : Option Duration)
  | dispatch (text : String)
  | dispatchOrFallback (text : String)

namespace Dispatcher

def serve (dispatcher : Dispatcher m) : Request → m Unit
  | .select utterance => discard (dispatcher.select utterance)
  | .outcome text cancelAfter => discard (dispatcher.dispatchOutcome text cancelAfter)
  | .dispatchWith text cancelAfter => discard (dispatcher.dispatchWith text cancelAfter)
  | .dispatch text => discard (dispatcher.dispatch text)
  | .dispatchOrFallback text => discard (dispatcher.dispatchOrFallback text)

variable [LawfulMonad m] (dispatcher : Dispatcher m)

/-- The calls that a dispatcher may make: its skills are scored and respond, and its fallback responds
if there is one. -/
inductive MayCall (dispatcher : Dispatcher m) : Call → Prop
  | scored (position : Fin dispatcher.skills.length) (utterance : Utterance) (found : Match) :
    MayCall dispatcher (.scored (.skill position) utterance found)
  | responded (position : Fin dispatcher.skills.length) (utterance : Utterance) (selected : Match)
    (control : Control) (answer : Except ChainError Rendered) :
    MayCall dispatcher (.responded (.skill position) utterance selected control answer)
  | fallback (set : dispatcher.fallback.isSome = true) (utterance : Utterance) (selected : Match)
    (control : Control) (answer : Except ChainError Rendered) :
    MayCall dispatcher (.responded .fallback utterance selected control answer)

section

variable {dispatcher : Dispatcher m} {allowed : Call → Prop}

theorem selectSkill_keeps (fine : ∀ call, dispatcher.MayCall call → allowed call)
    (utterance : Utterance) : Keeps allowed (dispatcher.watched.selectSkill utterance) := by
  rw [selectSkill]
  split
  · exact .pure none
  · rw [bind_pure_comp, scores]
    refine .map _ (.mapM _ (fun position => ?_) _)
    obtain ⟨skill, isWatched⟩ := dispatcher.exists_watched position
    rw [isWatched, bind_pure_comp]
    exact .map _ (.watched_score fun found =>
      fine _ (.scored (position.cast dispatcher.watched_length) utterance found))

theorem dispatchOutcome_keeps (fine : ∀ call, dispatcher.MayCall call → allowed call) (text : String)
    (cancelAfter : Option Duration) :
    Keeps allowed (dispatcher.watched.dispatchOutcome text cancelAfter) := by
  rw [dispatchOutcome, run_eq_bind_answer]
  refine (selectSkill_keeps fine _).bind fun selected => ?_
  cases selected with
  | none => exact .pure Outcome.noMatch
  | some chosen =>
    obtain ⟨skill, isWatched⟩ := dispatcher.exists_watched chosen.1
    rw [answer, isWatched]
    exact .map _ (.watched_respond fun answer =>
      fine _ (.responded (chosen.1.cast dispatcher.watched_length) _ chosen.2 _ answer))

theorem finish_keeps (fine : ∀ call, dispatcher.MayCall call → allowed call) (utterance : Utterance)
    (outcome : Outcome) : Keeps allowed (dispatcher.watched.finish utterance outcome) := by
  rw [finish]
  cases outcome.result? with
  | some result => exact .pure (some result)
  | none =>
    cases set : dispatcher.fallback with
    | none =>
      simp only [watched, set, Option.map_none]
      exact .pure none
    | some skill =>
      have isSet : dispatcher.fallback.isSome = true := by rw [set]; rfl
      simp only [watched, set, Option.map_some]
      exact .map _ (.watched_respond fun answer => fine _ (.fallback isSet utterance .none _ answer))

/-- Whatever is asked, the dispatcher makes no calls but those that it may make. -/
theorem serve_keeps (fine : ∀ call, dispatcher.MayCall call → allowed call) (request : Request) :
    Keeps allowed (dispatcher.watched.serve request) := by
  cases request with
  | select utterance =>
    rw [serve, select, bind_pure_comp]
    exact .map _ (.map _ (selectSkill_keeps fine utterance))
  | outcome text cancelAfter => exact .map _ (dispatchOutcome_keeps fine text cancelAfter)
  | dispatchWith text cancelAfter =>
    rw [serve, dispatchWith, bind_pure_comp]
    exact .map _ (.map _ (dispatchOutcome_keeps fine text cancelAfter))
  | dispatch text =>
    rw [serve, dispatch, dispatchWith, bind_pure_comp]
    exact .map _ (.map _ (dispatchOutcome_keeps fine text none))
  | dispatchOrFallback text =>
    rw [serve, dispatchOrFallback_eq]
    exact .map _ ((dispatchOutcome_keeps fine text none).bind fun outcome =>
      finish_keeps fine _ outcome)

/-- However often something is asked, the dispatcher makes no calls but those that it may make. -/
theorem forM_serve_keeps (fine : ∀ call, dispatcher.MayCall call → allowed call)
    (requests : List Request) : Keeps allowed (requests.forM dispatcher.watched.serve) := by
  induction requests with
  | nil => exact .pure ()
  | cons request rest ih => exact (serve_keeps fine request).bind fun _ => ih

end

omit [Monad m] [LawfulMonad m] in
theorem MayCall.sparesFallback {call : Call} (may : dispatcher.MayCall call) :
    call.SparesFallback := by
  cases may with
  | scored position utterance found => exact Seat.noConfusion
  | responded position utterance selected control answer => exact trivial
  | fallback set utterance selected control answer => exact trivial

theorem forM_serve_sparesFallback (requests : List Request) :
    Keeps Call.SparesFallback (requests.forM dispatcher.watched.serve) :=
  forM_serve_keeps (fun _ may => may.sparesFallback) requests

theorem dispatchWith_eq (text : String) (cancelAfter : Option Duration) :
    dispatcher.dispatchWith text cancelAfter =
      Outcome.result? <$> dispatcher.dispatchOutcome text cancelAfter := by
  rw [dispatchWith, bind_pure_comp]

/-- Without a fallback, there is nothing to do after the dispatch. -/
theorem dispatchOrFallback_eq_dispatch (unset : dispatcher.fallback = none) (text : String) :
    dispatcher.dispatchOrFallback text = dispatcher.dispatch text := by
  rw [dispatchOrFallback_eq, dispatch, dispatchWith_eq, map_eq_pure_bind]
  refine bind_congr fun outcome => ?_
  rw [finish, unset]
  cases outcome.result? <;> rfl

end Dispatcher

/-- The fallback answers, once and without a match, exactly where an uncancelled dispatch rendered
nothing. It is never scored, and without it all ways to dispatch come to the same. -/
theorem fallback_calls [LawfulMonad m] (dispatcher : Dispatcher m) (text : String) :
    (dispatcher.dispatchOrFallback text =
        dispatcher.dispatchOutcome text none >>= dispatcher.finish (.ofText text) ∧
      Prod.fst <$> (dispatcher.watched.dispatchOrFallback text).run [] =
        dispatcher.dispatchOrFallback text ∧
      SatisfiesM
        (fun run => ∃ outcome calls answers, run.2 = calls ++ answers ∧
          dispatcher.Dispatched (.ofText text) none outcome calls ∧
          dispatcher.Finished (.ofText text) outcome run.1 answers)
        ((dispatcher.watched.dispatchOrFallback text).run [])) ∧
    (∀ requests : List Request,
      SatisfiesM (fun run => ∀ call ∈ run.2, call.SparesFallback)
        ((requests.forM dispatcher.watched.serve).run [])) ∧
    (dispatcher.fallback = none →
      dispatcher.dispatchOrFallback text = dispatcher.dispatch text) ∧
    dispatcher.dispatch text = dispatcher.dispatchWith text none ∧
    ∀ cancelAfter, dispatcher.dispatchWith text cancelAfter =
      Outcome.result? <$> dispatcher.dispatchOutcome text cancelAfter := by
  refine ⟨⟨?_, ?_, ?_⟩, ?_, ?_, rfl, ?_⟩
  · exact dispatcher.dispatchOrFallback_eq text
  · exact dispatcher.dispatchOrFallback_watched_erased text []
  · exact dispatcher.dispatchOrFallback_finished text
  · intro requests
    exact dispatcher.forM_serve_sparesFallback requests [] fun _ member => nomatch member
  · intro unset
    exact dispatcher.dispatchOrFallback_eq_dispatch unset text
  · exact dispatcher.dispatchWith_eq text

def Skill.repeating : Skill Id where
  score _ := ⟨.certain, some 0, .empty⟩
  respond utterance _ _ := .ok (.plain "Pardon?" utterance.text)

/-- Where the selected twin fails, a fallback repeats the utterance; it was not scored, though it would
have won. Without it there is no result. -/
theorem fallback_calls_twins :
    ((twins.withFallback .repeating).watched.dispatchOrFallback "anything").run [] =
      (some (.plain "Pardon?" "anything"),
        [.scored (.skill 0) (.ofText "anything") ⟨.ofFloat 0.5, some 0, .empty⟩,
          .scored (.skill 1) (.ofText "anything") ⟨.ofFloat 0.9, some 1, .empty⟩,
          .responded (.skill 1) (.ofText "anything") ⟨.ofFloat 0.9, some 1, .empty⟩
            ⟨.ofSeconds 10 0, none⟩ (.error .cancelled),
          .responded .fallback (.ofText "anything") .none ⟨.ofSeconds 10 0, none⟩
            (.ok (.plain "Pardon?" "anything"))]) ∧
      (∃ outcome calls answers,
        (twins.withFallback .repeating).Dispatched (.ofText "anything") none outcome calls ∧
        (twins.withFallback .repeating).Finished (.ofText "anything") outcome
          (some (.plain "Pardon?" "anything")) answers) ∧
      twins.fallback = none ∧ twins.dispatchOrFallback "anything" = twins.dispatch "anything" := by
  have law := (fallback_calls (twins.withFallback .repeating) "anything").1.2.2
  rw [SatisfiesM_Id_eq] at law
  obtain ⟨outcome, calls, answers, -, dispatched, finished⟩ := law
  exact ⟨rfl, ⟨outcome, calls, answers, dispatched, finished⟩, rfl,
    (fallback_calls twins "anything").2.2.1 rfl⟩

end SkillDispatch
