import SkillDispatch.Json.Decoder

set_option autoImplicit false

namespace SkillDispatch

open Json (Decoder Fault RecordDecoder)

structure RenderedItem where
  label : String
  value : String
  deriving DecidableEq

structure Rendered where
  title : String
  body : String
  /-- What is to be spoken, if it differs from the body. -/
  speech : Option String
  items : List RenderedItem
  deriving DecidableEq

namespace RenderedItem

def toJson (item : RenderedItem) : Json :=
  .ofFields [("label", .string item.label), ("value", .string item.value)]

def decoder : Decoder RenderedItem :=
  RecordDecoder.toDecoder "RenderedItem" <|
    RenderedItem.mk <$> .required "label" Decoder.string <*> .required "value" Decoder.string

end RenderedItem

namespace Rendered

def plain (title body : String) : Rendered := ⟨title, body, none, []⟩

def withSpeech (result : Rendered) (speech : String) : Rendered :=
  { result with speech := some speech }

def withItem (result : Rendered) (label value : String) : Rendered :=
  { result with items := result.items ++ [⟨label, value⟩] }

def speechText (result : Rendered) : String :=
  result.speech.getD result.body

/-- The JSON value of a result. Absent speech and absent items are left out. -/
def toJson (result : Rendered) : Json :=
  .ofFields <|
    [("title", .string result.title), ("body", .string result.body)] ++
    Json.fieldIfSome "speech" result.speech ++
    Json.fieldUnless result.items.isEmpty "items" (.array (result.items.map RenderedItem.toJson))

def decoder : Decoder Rendered :=
  RecordDecoder.toDecoder "RenderedResult" <|
    Rendered.mk <$> .required "title" Decoder.string
      <*> .required "body" Decoder.string
      <*> .optional "speech" none (Decoder.nullable Decoder.string)
      <*> .optional "items" [] (Decoder.list RenderedItem.decoder)

def ofText (text : String) : Except Fault Rendered :=
  decoder.ofText text

end Rendered

end SkillDispatch
