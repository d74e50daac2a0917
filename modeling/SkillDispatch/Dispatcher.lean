import SkillDispatch.Config
import SkillDispatch.Selection
import SkillDispatch.Skill.Registry

set_option autoImplicit false

namespace SkillDispatch

inductive Outcome
  | rendered (skillId : String) (result : Rendered)
  | noMatch
  | failed (skillId : String) (error : ChainError)
  deriving DecidableEq

namespace Outcome

def skillId? : Outcome → Option String
  | .rendered skillId _ => some skillId
  | .noMatch => none
  | .failed skillId _ => some skillId

def result? : Outcome → Option Rendered
  | .rendered _ result => some result
  | _ => none

end Outcome

structure Dispatcher (m : Type → Type) where
  skills : List (String × Skill m)
  fallback : Option (Skill m)
  config : Config

namespace Dispatcher

variable {m : Type → Type}

def ofConfig (config : Config) : Dispatcher m := ⟨[], none, config⟩

def withSkill (dispatcher : Dispatcher m) (skillId : String) (skill : Skill m) : Dispatcher m :=
  { dispatcher with skills := dispatcher.skills ++ [(skillId, skill)] }

def withFallback (dispatcher : Dispatcher m) (skill : Skill m) : Dispatcher m :=
  { dispatcher with fallback := some skill }

def skillIds (dispatcher : Dispatcher m) : List String :=
  dispatcher.skills.map Prod.fst

def entry (dispatcher : Dispatcher m) (position : Fin dispatcher.skills.length) :
    String × Skill m :=
  dispatcher.skills.get position

/-- The bounds for a skill, when the dispatch is cancelled after some time. -/
def control (dispatcher : Dispatcher m) (cancelAfter : Option Duration) : Control :=
  ⟨dispatcher.config.timeout, cancelAfter⟩

variable [Monad m]

/-- The dispatcher of a registry: its enabled skills are built, and then its fallback. -/
def ofRegistry (registry : SkillRegistry m) (context : Context) (config : Config) :
    m (Except SkillError (Dispatcher m)) := do
  match ← registry.buildEnabled context with
  | .error error => return .error error
  | .ok skills =>
    match ← registry.buildFallback context with
    | .error error => return .error error
    | .ok fallback => return .ok ⟨skills, fallback, config⟩

/-- The scores that the skills give an utterance, by their positions. Each skill is asked once and in
order. -/
def scores (dispatcher : Dispatcher m) (utterance : Utterance) :
    m (List (Fin dispatcher.skills.length × Match)) :=
  (List.finRange dispatcher.skills.length).mapM fun position => do
    let found ← (dispatcher.entry position).2.score utterance
    return (position, found)

/-- The position of the skill that an utterance is for, with its match. An utterance without tokens
is for none, and is not scored. -/
def selectSkill (dispatcher : Dispatcher m) (utterance : Utterance) :
    m (Option (Fin dispatcher.skills.length × Match)) :=
  if utterance.isEmpty then pure none
  else do
    let candidates ← dispatcher.scores utterance
    return bestOf dispatcher.config.threshold candidates

/-- The id of the skill that an utterance is for, with the match. -/
def select (dispatcher : Dispatcher m) (utterance : Utterance) : m (Option (String × Match)) := do
  let selected ← dispatcher.selectSkill utterance
  return selected.map fun (position, found) => ((dispatcher.entry position).1, found)

/-- Lets the selected skill answer an utterance. No other skill is tried. -/
def run (dispatcher : Dispatcher m) (utterance : Utterance) (cancelAfter : Option Duration) :
    m Outcome := do
  match ← dispatcher.selectSkill utterance with
  | none => return .noMatch
  | some (position, found) =>
    let (skillId, skill) := dispatcher.entry position
    match ← skill.respond utterance found (dispatcher.control cancelAfter) with
    | .ok result => return .rendered skillId result
    | .error error => return .failed skillId error

def dispatchOutcome (dispatcher : Dispatcher m) (text : String) (cancelAfter : Option Duration) :
    m Outcome :=
  dispatcher.run (.ofText text) cancelAfter

def dispatchWith (dispatcher : Dispatcher m) (text : String) (cancelAfter : Option Duration) :
    m (Option Rendered) := do
  return (← dispatcher.dispatchOutcome text cancelAfter).result?

def dispatch (dispatcher : Dispatcher m) (text : String) : m (Option Rendered) :=
  dispatcher.dispatchWith text none

/-- Dispatches a text, and lets the fallback answer if there is no result. -/
def dispatchOrFallback (dispatcher : Dispatcher m) (text : String) : m (Option Rendered) := do
  let utterance := Utterance.ofText text
  match ← dispatcher.run utterance none with
  | .rendered _ result => return some result
  | _ =>
    match dispatcher.fallback with
    | none => return none
    | some skill => return (← skill.respond utterance .none (dispatcher.control none)).toOption

end Dispatcher

end SkillDispatch
