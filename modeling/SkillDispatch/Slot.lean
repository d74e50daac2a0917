import SkillDispatch.Text.NameMap
import SkillDispatch.Text.Quoted
import SkillDispatch.Text.Span

set_option autoImplicit false

namespace SkillDispatch

open Text

structure SlotValue where
  /-- The captured text, as the user wrote it. -/
  text : String
  /-- The captured tokens. -/
  tokens : Span
  /-- The bytes that the captured text takes. -/
  span : Span
  deriving DecidableEq

/-- The bound slots, in the order of their names. -/
abbrev Slots := NameMap SlotValue

namespace Slots

def text? (slots : Slots) (name : String) : Option String :=
  (slots.get? name).map SlotValue.text

def describe (slots : Slots) : String :=
  let texts := slots.entries.map fun (name, value) => name ++ ": " ++ quoted value.text
  "\x7b" ++ ", ".intercalate texts ++ "\x7d"

end Slots

end SkillDispatch
