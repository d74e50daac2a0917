import SkillDispatch.Token

set_option autoImplicit false

namespace SkillDispatch

/-- One spelling of a literal. -/
structure Phrase where
  /-- The spelling as it was written. -/
  text : String
  /-- The folded forms of its tokens. -/
  tokens : List String
  deriving DecidableEq

namespace Phrase

/-- The tokens of the phrase stand at a position: there are enough tokens from there on, and each has
the folded form that the phrase asks for. -/
def standsAt (tokens : List Token) (position : Nat) (phrase : Phrase) : Bool :=
  position + phrase.tokens.length ≤ tokens.length &&
    (((tokens.drop position).take phrase.tokens.length).zip phrase.tokens).all
      fun (token, word) => token.value == word

end Phrase

inductive Part
  /-- Accepts the tokens of one of the phrases. -/
  | literal (phrases : List Phrase)
  /-- Binds one token or more to a slot. -/
  | capture (slot : String)
  | wildcard
  | optional (body : List Part)

mutual

def Part.slots : Part → List String
  | .literal _ => []
  | .capture slot => [slot]
  | .wildcard => []
  | .optional body => Part.slotsOf body

def Part.slotsOf : List Part → List String
  | [] => []
  | part :: rest => part.slots ++ Part.slotsOf rest

end

/-- The spellings of a literal: one alone, or several in parentheses. -/
def Phrase.describe : List Phrase → String
  | [phrase] => phrase.text
  | phrases => "(" ++ "|".intercalate (phrases.map Phrase.text) ++ ")"

mutual

def Part.describe : Part → String
  | .literal phrases => Phrase.describe phrases
  | .capture slot => "<" ++ slot ++ ">"
  | .wildcard => "*"
  | .optional body => "[" ++ " ".intercalate (Part.describeEach body) ++ "]"

def Part.describeEach : List Part → List String
  | [] => []
  | part :: rest => part.describe :: Part.describeEach rest

end

structure Pattern where
  parts : List Part

namespace Pattern

def slots (pattern : Pattern) : List String :=
  Part.slotsOf pattern.parts

/-- The text of a pattern: its parts, with single spaces between them. -/
protected def toString (pattern : Pattern) : String :=
  " ".intercalate (Part.describeEach pattern.parts)

instance : ToString Pattern :=
  ⟨Pattern.toString⟩

end Pattern

end SkillDispatch
