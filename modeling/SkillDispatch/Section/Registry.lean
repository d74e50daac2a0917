import SkillDispatch.Definition.Json
import SkillDispatch.Roster
import SkillDispatch.Section

set_option autoImplicit false

namespace SkillDispatch

open Json (Fault)

inductive GrammarError
  | invalidPattern (fault : PatternFault)
  | duplicateSection (skillId : String)
  | unknownSection (skillId : String)
  | malformedDefinition (fault : Fault)
  deriving DecidableEq

def GrammarError.message : GrammarError → String
  | .invalidPattern fault => "invalid pattern specification: " ++ fault.message
  | .duplicateSection skillId => "section for skill '" ++ skillId ++ "' is already registered"
  | .unknownSection skillId => "no section is registered for skill '" ++ skillId ++ "'"
  | .malformedDefinition fault => "malformed section definition: " ++ fault.message

structure SectionRegistry where
  roster : Roster Section

namespace SectionRegistry

def empty : SectionRegistry := ⟨.empty⟩

def sections (registry : SectionRegistry) : List Section :=
  registry.roster.entries

def size (registry : SectionRegistry) : Nat :=
  registry.sections.length

def ids (registry : SectionRegistry) : List String :=
  registry.sections.map Section.skillId

def get? (registry : SectionRegistry) (skillId : String) : Option Section :=
  registry.roster.get? skillId

/-- The section of a skill, which has to be there. -/
def resolve (registry : SectionRegistry) (skillId : String) : Except GrammarError Section :=
  match registry.get? skillId with
  | some phrasing => .ok phrasing
  | none => .error (.unknownSection skillId)

/-- Registers a section, and gives the registry after that. A skill that has a section already keeps
it. -/
def insert (registry : SectionRegistry) (phrasing : Section) :
    Except GrammarError Unit × SectionRegistry :=
  let (entered, roster) := registry.roster.enter phrasing.skillId phrasing
  (if entered then .ok () else .error (.duplicateSection phrasing.skillId), ⟨roster⟩)

/-- Registers the sections of definitions, up to the first that cannot be registered. -/
def insertEach (registry : SectionRegistry) :
    List SectionDefinition → Except GrammarError SectionRegistry
  | [] => .ok registry
  | definition :: rest =>
    match registry.insert (.ofDefinition definition) with
    | (.ok (), extended) => extended.insertEach rest
    | (.error error, _) => .error error

def load (definitions : List SectionDefinition) : Except GrammarError SectionRegistry :=
  empty.insertEach definitions

def ofText (text : String) : Except GrammarError SectionRegistry := do
  load (← (SectionDefinition.listOfText text).mapError .malformedDefinition)

end SectionRegistry

end SkillDispatch
