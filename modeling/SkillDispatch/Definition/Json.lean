import SkillDispatch.Definition
import SkillDispatch.Json.Decoder

set_option autoImplicit false

namespace SkillDispatch

open Json (Decoder Fault RecordDecoder)

namespace Element

mutual

def toJson : Element → Json
  | ⟨kind, words, name, elements⟩ =>
    .ofFields <|
      [("kind", .string kind)] ++
      Json.fieldUnless words.isEmpty "words" (.ofStrings words) ++
      Json.fieldIfSome "name" name ++
      Json.fieldUnless elements.isEmpty "elements" (.array (toJsonEach elements))

def toJsonEach : List Element → List Json
  | [] => []
  | element :: rest => element.toJson :: toJsonEach rest

end

/-- Decodes an element whose bodies lie in each other no more than `levels` deep. -/
def decoderIn : (levels : Nat) → Decoder Element
  | 0 => fun _ _ => .error .malformed
  | levels + 1 =>
    RecordDecoder.toDecoder "ElementDefinition" <|
      Element.mk <$> .required "kind" Decoder.string
        <*> .optional "words" [] (Decoder.list Decoder.string)
        <*> .optional "name" none (Decoder.nullable Decoder.string)
        <*> .optional "elements" [] (Decoder.list (decoderIn levels))

/-- Decodes an element. Its bodies lie no deeper than the document does. -/
def decoder : Decoder Element := fun source document =>
  decoderIn (document.height + 1) source document

end Element

namespace PatternDefinition

def toJson (pattern : PatternDefinition) : Json :=
  .ofFields [("elements", .array (Element.toJsonEach pattern.elements))]

def decoder : Decoder PatternDefinition :=
  RecordDecoder.toDecoder "PatternDefinition" <|
    PatternDefinition.mk <$> .required "elements" (Decoder.list Element.decoder)

end PatternDefinition

namespace SectionDefinition

def toJson (definition : SectionDefinition) : Json :=
  .ofFields [("skill_id", .string definition.skillId),
    ("patterns", .array (definition.patterns.map PatternDefinition.toJson))]

def decoder : Decoder SectionDefinition :=
  RecordDecoder.toDecoder "SectionDefinition" <|
    SectionDefinition.mk <$> .required "skill_id" Decoder.string
      <*> .required "patterns" (Decoder.list PatternDefinition.decoder)

def listToJson (definitions : List SectionDefinition) : Json :=
  .array (definitions.map toJson)

def listOfText (text : String) : Except Fault (List SectionDefinition) :=
  (Decoder.list decoder).ofText text

end SectionDefinition

end SkillDispatch
