import SkillDispatch.Pattern.Compile
import SkillDispatch.Recognition

set_option autoImplicit false

namespace SkillDispatch

/-- The patterns that a skill answers to, the preferred ones first. -/
structure Section where
  skillId : String
  patterns : List Pattern

namespace Section

/-- The patterns of a definition. Those that make no sense are left out. -/
def ofDefinition (definition : SectionDefinition) : Section where
  skillId := definition.skillId
  patterns := definition.patterns.filterMap fun pattern => pattern.compile.toOption

def recognize (scorer : Scorer) (phrasing : Section) (utterance : Utterance) : Match :=
  SkillDispatch.recognize scorer phrasing.patterns utterance

end Section

end SkillDispatch
