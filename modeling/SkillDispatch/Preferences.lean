import SkillDispatch.Json.Decoder

set_option autoImplicit false

namespace SkillDispatch

open Json (Decoder Fault)

structure Preferences where
  values : Text.NameMap Json

namespace Preferences

def empty : Preferences := ⟨.empty⟩

def set (preferences : Preferences) (key : String) (value : Json) : Preferences :=
  ⟨preferences.values.insert key value⟩

def get? (preferences : Preferences) (key : String) : Option Json :=
  preferences.values.get? key

/-- A preference that is a truth value, or `default` where there is none. -/
def bool (preferences : Preferences) (key : String) (default : Bool) : Bool :=
  ((preferences.get? key).bind Json.bool?).getD default

def string? (preferences : Preferences) (key : String) : Option String :=
  (preferences.get? key).bind Json.string?

def toJson (preferences : Preferences) : Json :=
  .object preferences.values.entries

def decoder : Decoder Preferences := fun source document =>
  (Decoder.map source document).map Preferences.mk

def ofText (text : String) : Except Fault Preferences :=
  decoder.ofText text

/-- The key of the preference that switches a skill on or off. -/
def enabledKey (skillId : String) : String :=
  "skills_handler_is_enabled_" ++ skillId

end Preferences

end SkillDispatch
