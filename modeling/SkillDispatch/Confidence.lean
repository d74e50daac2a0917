import SkillDispatch.Decimal.Fixed

set_option autoImplicit false

namespace SkillDispatch

/-- A double from zero to one. It is never NaN, since NaN is below nothing. -/
structure Confidence where
  value : Float
  zero_le : 0.0 ≤ value
  le_one : value ≤ 1.0

namespace Confidence

def zero : Confidence := ⟨0.0, by decide, by decide⟩

def certain : Confidence := ⟨1.0, by decide, by decide⟩

/-- The nearest confidence: a number outside the bounds goes to the bound, and NaN to zero. -/
def ofFloat (x : Float) : Confidence :=
  if h : 0.0 ≤ x ∧ x ≤ 1.0 then ⟨x, h.1, h.2⟩
  else if 1.0 < x then certain
  else zero

def isZero (c : Confidence) : Bool :=
  c.value == 0.0

/-- Equality as numbers, for which both zeros are one. -/
instance : BEq Confidence :=
  ⟨fun first second => first.value == second.value⟩

instance : LT Confidence :=
  ⟨fun first second => first.value < second.value⟩

instance (first second : Confidence) : Decidable (first < second) :=
  inferInstanceAs (Decidable (first.value < second.value))

protected def toString (c : Confidence) : String :=
  Decimal.hundredths c.value

instance : ToString Confidence :=
  ⟨Confidence.toString⟩

end Confidence

end SkillDispatch
