set_option autoImplicit false

/- Definitions: patterns as they are written down, before anything is known of their sense. An
element has a kind and room for what any kind may need; a kind uses some of it and ignores the
rest. -/
namespace SkillDispatch

structure Element where
  /-- What the element stands for: `literal`, `optional`, `capture` or `wildcard`. -/
  kind : String
  /-- The words or phrases that a literal accepts. -/
  words : List String
  /-- The slot of a capture. -/
  name : Option String
  /-- The elements that an optional element may leave out. -/
  elements : List Element

namespace Element

def literal (words : List String) : Element := ⟨"literal", words, none, []⟩

def capture (name : String) : Element := ⟨"capture", [], some name, []⟩

def wildcard : Element := ⟨"wildcard", [], none, []⟩

def optional (elements : List Element) : Element := ⟨"optional", [], none, elements⟩

end Element

structure PatternDefinition where
  elements : List Element

/-- All ways to say what a skill answers to, the preferred ones first. -/
structure SectionDefinition where
  skillId : String
  patterns : List PatternDefinition

end SkillDispatch
