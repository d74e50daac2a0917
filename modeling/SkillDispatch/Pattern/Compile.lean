import SkillDispatch.Definition
import SkillDispatch.Pattern
import SkillDispatch.Token
import SkillDispatch.Unicode.Blank

set_option autoImplicit false

namespace SkillDispatch

open Text Unicode

inductive PatternFault
  | noElements
  | noWords
  | noTokens (word : String)
  | noBody
  | noSlotName
  | repeatedSlot (slot : String)
  | unknownKind (kind : String)
  deriving DecidableEq

def PatternFault.message : PatternFault → String
  | .noElements => "pattern has no elements"
  | .noWords => "literal element has no words"
  | .noTokens word => "literal word '" ++ word ++ "' contains no tokens"
  | .noBody => "optional element has no body"
  | .noSlotName => "capture element has no slot name"
  | .repeatedSlot slot => "capture slot '" ++ slot ++ "' appears more than once"
  | .unknownKind kind => "unrecognized element kind '" ++ kind ++ "'"

/-- A text without the white space at its ends. -/
def trimmed (text : String) : String :=
  String.ofList (trimBlanks text.toList)

def Phrase.ofWord (word : String) : Except PatternFault Phrase :=
  match tokenValues word with
  | [] => .error (.noTokens word)
  | tokens => .ok ⟨trimmed word, tokens⟩

def Phrase.ofWords : List String → Except PatternFault (List Phrase)
  | [] => .ok []
  | word :: rest => do
    let phrase ← Phrase.ofWord word
    let phrases ← Phrase.ofWords rest
    return phrase :: phrases

/-- The slot that a capture names; blank names do not count. -/
def Element.slotName? (name : Option String) : Option String :=
  match name.map trimmed with
  | some slot => if slot.isEmpty then none else some slot
  | none => none

mutual

/-- The part that an element makes, and the slots that are taken after it, given those that are
taken before it. -/
def Element.compile (taken : List String) :
    Element → Except PatternFault (Part × List String)
  | ⟨kind, words, name, elements⟩ =>
    if kind = "literal" then
      if words.isEmpty then .error .noWords
      else do
        let phrases ← Phrase.ofWords words
        return (.literal phrases, taken)
    else if kind = "optional" then
      if elements.isEmpty then .error .noBody
      else do
        let (body, takenAfter) ← Element.compileEach taken elements
        return (.optional body, takenAfter)
    else if kind = "capture" then
      match Element.slotName? name with
      | none => .error .noSlotName
      | some slot =>
        if slot ∈ taken then .error (.repeatedSlot slot)
        else .ok (.capture slot, taken ++ [slot])
    else if kind = "wildcard" then .ok (.wildcard, taken)
    else .error (.unknownKind kind)

def Element.compileEach (taken : List String) :
    List Element → Except PatternFault (List Part × List String)
  | [] => .ok ([], taken)
  | element :: rest => do
    let (part, takenBetween) ← element.compile taken
    let (parts, takenAfter) ← Element.compileEach takenBetween rest
    return (part :: parts, takenAfter)

end

def PatternDefinition.compile (definition : PatternDefinition) : Except PatternFault Pattern :=
  if definition.elements.isEmpty then .error .noElements
  else do
    let (parts, _) ← Element.compileEach [] definition.elements
    return ⟨parts⟩

end SkillDispatch
