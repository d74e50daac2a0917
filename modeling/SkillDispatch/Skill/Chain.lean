import SkillDispatch.Section
import SkillDispatch.Skill

set_option autoImplicit false

/- Skills made of three stages: one recognizes an utterance, one works with the captured slots, and
one renders what came of it. Each stage has a type of its own, so that none can be left out. -/
namespace SkillDispatch

structure Chain (m : Type → Type) (α : Type) where
  recognize : Utterance → m Match
  process : Utterance → Slots → Work m α
  output : α → m (Except ChainError Rendered)

/-- A chain that accepted an utterance. -/
structure Recognized (m : Type → Type) (α : Type) where
  chain : Chain m α
  utterance : Utterance
  found : Match

structure Processed (m : Type → Type) (α : Type) where
  chain : Chain m α
  data : α

variable {m : Type → Type} [Monad m] {α : Type}

/-- Recognizes an utterance, and goes on if the match exceeds a threshold. -/
def Chain.accept (chain : Chain m α) (utterance : Utterance) (threshold : Float) :
    m (Option (Recognized m α)) := do
  let found ← chain.recognize utterance
  return if found.exceeds threshold then some ⟨chain, utterance, found⟩ else none

def Recognized.process [Executor] (accepted : Recognized m α) (control : Control) :
    m (Except ChainError (Processed m α)) := do
  let work := accepted.chain.process accepted.utterance accepted.found.slots
  let result ← work.within control
  return result.map fun data => ⟨accepted.chain, data⟩

def Processed.output (processed : Processed m α) : m (Except ChainError Rendered) :=
  processed.chain.output processed.data

def Chain.toSkill [Executor] (chain : Chain m α) : Skill m where
  score := chain.recognize
  respond utterance found control := do
    match ← Recognized.process ⟨chain, utterance, found⟩ control with
    | .ok processed => processed.output
    | .error error => return .error error

/-- The usual first stage: finds the pattern of a section that fits best. -/
def Section.recognizer (phrasing : Section) (scorer : Scorer) (utterance : Utterance) : m Match :=
  pure (phrasing.recognize scorer utterance)

end SkillDispatch
