import SkillDispatch.Match
import SkillDispatch.Rendered
import SkillDispatch.Skill.Work
import SkillDispatch.Utterance

set_option autoImplicit false

namespace SkillDispatch

/-- A skill scores utterances, and answers those that it was selected for. -/
structure Skill (m : Type → Type) where
  /-- How well an utterance fits the skill. -/
  score : Utterance → m Match
  /-- The answer to an utterance with its match. -/
  respond : Utterance → Match → Control → m (Except ChainError Rendered)

end SkillDispatch
