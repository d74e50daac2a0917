import SkillDispatch.Confidence
import SkillDispatch.Slot

set_option autoImplicit false

namespace SkillDispatch

open Text

structure Match where
  score : Confidence
  /-- The index of the pattern that matched. -/
  pattern : Option Nat
  slots : Slots

namespace Match

def none : Match := ⟨.zero, .none, .empty⟩

def isMatch (found : Match) : Bool :=
  found.pattern.isSome && !found.score.isZero

/-- A match with a score strictly above a threshold. -/
def exceeds (found : Match) (threshold : Float) : Bool :=
  found.isMatch && threshold < found.score.value

/-- Equal scores, the same pattern and the same slots. -/
instance : BEq Match :=
  ⟨fun first second => first.score == second.score && first.pattern == second.pattern &&
    first.slots.entries == second.slots.entries⟩

def describe (found : Match) : String :=
  match found.pattern with
  | some index => "pattern #" ++ toString index ++ " " ++ found.slots.describe ++
      " (score: " ++ toString found.score ++ ")"
  | .none => "no match"

end Match

end SkillDispatch
