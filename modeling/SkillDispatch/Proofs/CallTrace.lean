import Mathlib
import SkillDispatch.Dispatcher
import SkillDispatch.Proofs.SelectionLaw

set_option autoImplicit false

namespace SkillDispatch

/-- Who is called: a skill, by its position, or the fallback. -/
inductive Seat
  | skill (position : Nat)
  | fallback
  deriving DecidableEq

inductive Call
  | scored (seat : Seat) (utterance : Utterance) (found : Match)
  | responded (seat : Seat) (utterance : Utterance) (selected : Match) (control : Control)
      (answer : Except ChainError Rendered)

variable {m : Type → Type} [Monad m]

def Skill.watched (seat : Seat) (skill : Skill m) : Skill (StateT (List Call) m) where
  score utterance := do
    let found ← skill.score utterance
    modify fun calls => calls ++ [.scored seat utterance found]
    return found
  respond utterance selected control := do
    let answer ← skill.respond utterance selected control
    modify fun calls => calls ++ [.responded seat utterance selected control answer]
    return answer

def Dispatcher.watched (dispatcher : Dispatcher m) : Dispatcher (StateT (List Call) m) where
  skills := dispatcher.skills.mapIdx fun position entry =>
    (entry.1, entry.2.watched (.skill position))
  fallback := dispatcher.fallback.map (Skill.watched .fallback)
  config := dispatcher.config

variable [LawfulMonad m]

theorem Skill.watched_score_run (seat : Seat) (skill : Skill m) (utterance : Utterance)
    (calls : List Call) :
    ((skill.watched seat).score utterance).run calls =
      (fun found => (found, calls ++ [.scored seat utterance found])) <$> skill.score utterance := by
  simp [Skill.watched]

theorem Skill.watched_respond_run (seat : Seat) (skill : Skill m) (utterance : Utterance)
    (selected : Match) (control : Control) (calls : List Call) :
    ((skill.watched seat).respond utterance selected control).run calls =
      (fun answer => (answer, calls ++ [.responded seat utterance selected control answer])) <$>
        skill.respond utterance selected control := by
  simp [Skill.watched]

/-- What becomes of an utterance when a skill answers it. -/
def Outcome.ofAnswer (skillId : String) : Except ChainError Rendered → Outcome
  | .ok result => .rendered skillId result
  | .error error => .failed skillId error

namespace Dispatcher

variable (dispatcher : Dispatcher m) (utterance : Utterance)

omit [LawfulMonad m] in
theorem watched_length : dispatcher.watched.skills.length = dispatcher.skills.length :=
  List.length_mapIdx

omit [LawfulMonad m] in
theorem watched_entry (position : Fin dispatcher.skills.length) :
    dispatcher.watched.entry (position.cast dispatcher.watched_length.symm) =
      ((dispatcher.entry position).1, (dispatcher.entry position).2.watched (.skill position)) :=
  List.getElem_mapIdx

omit [LawfulMonad m] in
theorem exists_watched (position : Fin dispatcher.watched.skills.length) :
    ∃ skill : Skill m, (dispatcher.watched.entry position).2 = skill.watched (.skill position) := by
  have entry := dispatcher.watched_entry (position.cast dispatcher.watched_length)
  exact ⟨_, congrArg Prod.snd entry⟩

def scoreCall (candidate : Fin dispatcher.skills.length × Match) : Call :=
  .scored (.skill candidate.1) utterance candidate.2

theorem scores_watched (calls : List Call) :
    (dispatcher.watched.scores utterance).run calls =
      (fun candidates =>
        (candidates.map (Prod.map (Fin.cast dispatcher.watched_length.symm) id),
          calls ++ candidates.map (dispatcher.scoreCall utterance))) <$>
        dispatcher.scores utterance := by
  -- The watched list is another one of the same length, so its positions are casts.
  have positions_eq : List.finRange dispatcher.watched.skills.length =
      (List.finRange dispatcher.skills.length).map (Fin.cast dispatcher.watched_length.symm) := by
    generalize dispatcher.watched_length.symm = sameLength
    generalize dispatcher.watched.skills.length = length at sameLength
    subst sameLength
    simp
  have asks_eq :
      (fun position => do
        let found ← (dispatcher.watched.entry position).2.score utterance
        return (position, found)) ∘ Fin.cast dispatcher.watched_length.symm =
      fun position => do
        let found ← ((dispatcher.entry position).2.watched (.skill position)).score utterance
        return (position.cast dispatcher.watched_length.symm, found) := by
    funext position
    rw [Function.comp_apply, watched_entry]
  rw [scores, positions_eq, List.mapM_map, asks_eq, scores]
  generalize List.finRange dispatcher.skills.length = positions
  induction positions generalizing calls with
  | nil => simp
  | cons position rest ih =>
    simp only [bind_pure_comp] at ih ⊢
    simp [List.mapM_cons, Skill.watched_score_run, ih, scoreCall]

/-- A selection depends on the candidates alone, and comes to the same when watched. -/
theorem selectSkill_watched (calls : List Call) :
    (dispatcher.watched.selectSkill utterance).run calls =
      if utterance.isEmpty then pure (none, calls)
      else (fun candidates =>
        ((bestOf dispatcher.config.threshold candidates).map
            (Prod.map (Fin.cast dispatcher.watched_length.symm) id),
          calls ++ candidates.map (dispatcher.scoreCall utterance))) <$>
        dispatcher.scores utterance := by
  rw [selectSkill]
  split
  · rfl
  · rw [bind_pure_comp, StateT.run_map, scores_watched, Functor.map_map]
    simp only [bestOf_map]
    rfl

/-- What a dispatcher does once it has selected a skill, or none. -/
def answer (dispatcher : Dispatcher m) (utterance : Utterance) (cancelAfter : Option Duration) :
    Option (Fin dispatcher.skills.length × Match) → m Outcome
  | none => pure .noMatch
  | some (position, found) =>
    Outcome.ofAnswer (dispatcher.entry position).1 <$>
      (dispatcher.entry position).2.respond utterance found (dispatcher.control cancelAfter)

theorem run_eq_bind_answer (cancelAfter : Option Duration) :
    dispatcher.run utterance cancelAfter =
      dispatcher.selectSkill utterance >>= dispatcher.answer utterance cancelAfter := by
  rw [run]
  congr 1
  funext selected
  cases selected with
  | none => rfl
  | some chosen =>
    rw [answer, map_eq_pure_bind]
    refine bind_congr fun answer => ?_
    cases answer with
    | ok result => rfl
    | error error => rfl

def answerCall (cancelAfter : Option Duration) (chosen : Fin dispatcher.skills.length × Match)
    (answer : Except ChainError Rendered) : Call :=
  .responded (.skill chosen.1) utterance chosen.2 (dispatcher.control cancelAfter) answer

theorem answer_watched (cancelAfter : Option Duration)
    (selected : Option (Fin dispatcher.skills.length × Match)) (calls : List Call) :
    (dispatcher.watched.answer utterance cancelAfter
        (selected.map (Prod.map (Fin.cast dispatcher.watched_length.symm) id))).run calls =
      match selected with
      | none => pure (.noMatch, calls)
      | some chosen =>
        (fun answer => (Outcome.ofAnswer (dispatcher.entry chosen.1).1 answer,
            calls ++ [dispatcher.answerCall utterance cancelAfter chosen answer])) <$>
          (dispatcher.entry chosen.1).2.respond utterance chosen.2 (dispatcher.control cancelAfter) := by
  cases selected with
  | none => rfl
  | some chosen =>
    have entry := dispatcher.watched_entry chosen.1
    rw [Option.map_some, answer, StateT.run_map]
    simp only [Prod.map, entry, Skill.watched_respond_run, Functor.map_map]
    rfl

theorem run_watched_erased (cancelAfter : Option Duration) (calls : List Call) :
    Prod.fst <$> (dispatcher.watched.run utterance cancelAfter).run calls =
      dispatcher.run utterance cancelAfter := by
  rw [run_eq_bind_answer, run_eq_bind_answer, StateT.run_bind, selectSkill_watched, selectSkill]
  split
  · simp [answer]
  · simp only [bind_map_left, map_bind, bind_pure_comp, answer_watched]
    refine bind_congr fun candidates => ?_
    cases bestOf dispatcher.config.threshold candidates with
    | none => simp [answer]
    | some chosen => simp [answer]

theorem scores_positions : SatisfiesM
    (fun candidates => candidates.map Prod.fst = List.finRange dispatcher.skills.length)
    (dispatcher.scores utterance) := by
  rw [scores]
  generalize List.finRange dispatcher.skills.length = positions
  induction positions with
  | nil => exact .pure rfl
  | cons position rest ih =>
    rw [List.mapM_cons]
    have asked : SatisfiesM (fun candidate => candidate.1 = position) (do
        let found ← (dispatcher.entry position).2.score utterance
        return (position, found)) := by
      rw [bind_pure_comp]
      exact SatisfiesM.map (SatisfiesM.trivial) fun _ => rfl
    refine asked.bind fun candidate isPosition => ih.bind fun others areRest => .pure ?_
    rw [List.map_cons, isPosition, areRest]

end Dispatcher

end SkillDispatch
