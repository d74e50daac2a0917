import SkillDispatch.Preferences
import SkillDispatch.Section.Registry

set_option autoImplicit false

namespace SkillDispatch

structure Context where
  locale : String
  preferences : Preferences
  sections : SectionRegistry

namespace Context

/-- The surroundings with the given sections: English, and no preferences. -/
def ofSections (sections : SectionRegistry) : Context := ⟨"en", .empty, sections⟩

def withLocale (context : Context) (locale : String) : Context :=
  { context with locale := locale }

def withPreferences (context : Context) (preferences : Preferences) : Context :=
  { context with preferences := preferences }

end Context

end SkillDispatch
