import SkillDispatch.Section.Registry

set_option autoImplicit false

namespace SkillDispatch

/-- Of the candidates that exceed a threshold, the one with the highest score; the first one, where
several have it. -/
def bestOf {κ : Type} (threshold : Float) (candidates : List (κ × Match)) : Option (κ × Match) :=
  candidates.foldl
    (fun kept offered =>
      if !offered.2.exceeds threshold then kept
      else match kept with
        | none => some offered
        | some current => if current.2.score < offered.2.score then some offered else some current)
    none

def SectionRegistry.select (registry : SectionRegistry) (scorer : Scorer) (threshold : Float)
    (utterance : Utterance) : Option (String × Match) :=
  bestOf threshold (registry.sections.map fun phrasing =>
    (phrasing.skillId, phrasing.recognize scorer utterance))

end SkillDispatch
