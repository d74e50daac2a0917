import SkillDispatch.Json.Decoder

set_option autoImplicit false

namespace SkillDispatch

open Json (Decoder Fault RecordDecoder)

structure SettingDescriptor where
  key : String
  title : String
  default : Json

structure SkillSettings where
  entries : List SettingDescriptor

namespace SettingDescriptor

def toJson (setting : SettingDescriptor) : Json :=
  .ofFields [("key", .string setting.key), ("title", .string setting.title),
    ("default", setting.default)]

def decoder : Decoder SettingDescriptor :=
  RecordDecoder.toDecoder "SettingDescriptor" <|
    SettingDescriptor.mk <$> .required "key" Decoder.string
      <*> .required "title" Decoder.string
      <*> .required "default" Decoder.json

def describe (setting : SettingDescriptor) : String :=
  "SettingDescriptor \x7b key: " ++ Text.quoted setting.key ++ ", title: " ++
    Text.quoted setting.title ++ ", default: " ++ setting.default.describe ++ " \x7d"

end SettingDescriptor

namespace SkillSettings

def toJson (settings : SkillSettings) : Json :=
  .ofFields [("entries", .array (settings.entries.map SettingDescriptor.toJson))]

def decoder : Decoder SkillSettings :=
  RecordDecoder.toDecoder "SkillSettings" <|
    SkillSettings.mk <$> .required "entries" (Decoder.list SettingDescriptor.decoder)

def ofText (text : String) : Except Fault SkillSettings :=
  decoder.ofText text

def describe (settings : SkillSettings) : String :=
  "SkillSettings \x7b entries: [" ++
    ", ".intercalate (settings.entries.map SettingDescriptor.describe) ++ "] \x7d"

end SkillSettings

end SkillDispatch
