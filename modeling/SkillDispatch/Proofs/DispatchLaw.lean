import Mathlib
import SkillDispatch.Proofs.CallTrace

set_option autoImplicit false

namespace SkillDispatch

variable {m : Type → Type} [Monad m]

namespace Dispatcher

/-- What follows the scores. The skill at the selected position answers, with its own match and within
the configured time, and its answer decides the outcome; nobody answers if none was selected. -/
inductive Answered (dispatcher : Dispatcher m) (utterance : Utterance)
    (cancelAfter : Option Duration) :
    Option (Fin dispatcher.skills.length × Match) → Outcome → List Call → Prop
  | noMatch : Answered dispatcher utterance cancelAfter none .noMatch []
  | rendered (position : Fin dispatcher.skills.length) (found : Match) (result : Rendered) :
    Answered dispatcher utterance cancelAfter (some (position, found))
      (.rendered (dispatcher.entry position).1 result)
      [.responded (.skill position) utterance found ⟨dispatcher.config.timeout, cancelAfter⟩
        (.ok result)]
  | failed (position : Fin dispatcher.skills.length) (found : Match) (error : ChainError) :
    Answered dispatcher utterance cancelAfter (some (position, found))
      (.failed (dispatcher.entry position).1 error)
      [.responded (.skill position) utterance found ⟨dispatcher.config.timeout, cancelAfter⟩
        (.error error)]

/-- What one dispatch comes to, and the calls that it makes. -/
inductive Dispatched (dispatcher : Dispatcher m) (utterance : Utterance)
    (cancelAfter : Option Duration) : Outcome → List Call → Prop
  /-- An utterance without tokens is not even scored. -/
  | silent (empty : utterance.isEmpty = true) :
    Dispatched dispatcher utterance cancelAfter .noMatch []
  /-- Otherwise every skill is scored, once and in order, and the best one above the threshold is the
  selected one. -/
  | scored {candidates : List (Fin dispatcher.skills.length × Match)}
    {selected : Option (Fin dispatcher.skills.length × Match)} {outcome : Outcome}
    {answers : List Call} (tokens : utterance.isEmpty = false)
    (positions : candidates.map Prod.fst = List.finRange dispatcher.skills.length)
    (best : BestAbove dispatcher.config.threshold candidates selected)
    (answered : Answered dispatcher utterance cancelAfter selected outcome answers) :
    Dispatched dispatcher utterance cancelAfter outcome
      (candidates.map (dispatcher.scoreCall utterance) ++ answers)

variable [LawfulMonad m] (dispatcher : Dispatcher m) (utterance : Utterance)

/-- The answer to a selection adds the call that was made for it. -/
theorem answer_answered (cancelAfter : Option Duration)
    (selected : Option (Fin dispatcher.skills.length × Match)) (calls : List Call) :
    SatisfiesM
      (fun run => ∃ answers, run.2 = calls ++ answers ∧
        dispatcher.Answered utterance cancelAfter selected run.1 answers)
      ((dispatcher.watched.answer utterance cancelAfter
        (selected.map (Prod.map (Fin.cast dispatcher.watched_length.symm) id))).run calls) := by
  rw [answer_watched]
  cases selected with
  | none => exact .pure ⟨[], by rw [List.append_nil], .noMatch⟩
  | some chosen =>
    refine SatisfiesM.map .trivial fun {answer} _ => ⟨_, rfl, ?_⟩
    cases answer with
    | ok result => exact .rendered chosen.1 chosen.2 result
    | error error => exact .failed chosen.1 chosen.2 error

theorem run_dispatched (cancelAfter : Option Duration) :
    SatisfiesM (fun run => dispatcher.Dispatched utterance cancelAfter run.1 run.2)
      ((dispatcher.watched.run utterance cancelAfter).run []) := by
  rw [run_eq_bind_answer, StateT.run_bind, selectSkill_watched]
  by_cases empty : utterance.isEmpty = true
  · rw [if_pos empty, pure_bind]
    exact .pure (.silent empty)
  · rw [if_neg empty, bind_map_left]
    refine (dispatcher.scores_positions utterance).bind fun candidates positions => ?_
    refine (dispatcher.answer_answered utterance cancelAfter _ _).imp fun {run} following => ?_
    obtain ⟨answers, calls_eq, answered⟩ := following
    rw [calls_eq, List.nil_append]
    exact .scored (Bool.not_eq_true _ ▸ empty) positions (bestOf_bestAbove _ _) answered

end Dispatcher

/-- A dispatch scores every skill once and lets the selected one answer, if there is one: no other
skill is tried, and none is scored for an utterance without tokens. -/
theorem dispatch_calls [LawfulMonad m] (dispatcher : Dispatcher m) (text : String)
    (cancelAfter : Option Duration) :
    Prod.fst <$> (dispatcher.watched.dispatchOutcome text cancelAfter).run [] =
        dispatcher.dispatchOutcome text cancelAfter ∧
      SatisfiesM
        (fun run => dispatcher.Dispatched (.ofText text) cancelAfter run.1 run.2)
        ((dispatcher.watched.dispatchOutcome text cancelAfter).run []) :=
  ⟨dispatcher.run_watched_erased _ cancelAfter [], dispatcher.run_dispatched _ cancelAfter⟩

/-- Two skills with the same id, of which the second one scores higher. -/
def twins : Dispatcher Id :=
  ((Dispatcher.ofConfig .default).withSkill
    "twin" (.constant ⟨.ofFloat 0.5, some 0, .empty⟩)).withSkill
    "twin" (.constant ⟨.ofFloat 0.9, some 1, .empty⟩)

/-- Both skills are scored and the second one answers. It fails, and the first one is not tried. -/
theorem dispatch_calls_twins :
    ∃ calls, (twins.watched.dispatchOutcome "anything" none).run [] =
        (.failed "twin" .cancelled, calls) ∧
      calls = [.scored (.skill 0) (.ofText "anything") ⟨.ofFloat 0.5, some 0, .empty⟩,
        .scored (.skill 1) (.ofText "anything") ⟨.ofFloat 0.9, some 1, .empty⟩,
        .responded (.skill 1) (.ofText "anything") ⟨.ofFloat 0.9, some 1, .empty⟩
          ⟨.ofSeconds 10 0, none⟩ (.error .cancelled)] ∧
      twins.Dispatched (.ofText "anything") none (.failed "twin" .cancelled) calls := by
  have law := (dispatch_calls twins "anything" none).2
  rw [SatisfiesM_Id_eq] at law
  exact ⟨_, rfl, rfl, law⟩

end SkillDispatch
