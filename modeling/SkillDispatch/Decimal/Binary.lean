set_option autoImplicit false

namespace SkillDispatch.Decimal

/-- A finite double: `significand * 2 ^ exponent`, negated when `negative` is set. -/
structure Binary where
  negative : Bool
  significand : Nat
  exponent : Int
  deriving DecidableEq

namespace Binary

/-- The parts of a double. The eleven bits below the sign are the exponent; when they are zero, the
significand has no leading bit of its own. -/
def ofFloat (x : Float) : Binary :=
  let bits := x.toBits.toNat
  let field := bits / Nat.pow 2 52 % Nat.pow 2 11
  let fraction := bits % Nat.pow 2 52
  let negative := decide (Nat.pow 2 63 ≤ bits)
  if field = 0 then ⟨negative, fraction, -1074⟩
  else ⟨negative, fraction + Nat.pow 2 52, Int.ofNat field - 1075⟩

/-- The absolute value, times `scale`, as a quotient of natural numbers. -/
def quotient (x : Binary) (scale : Nat) : Nat × Nat :=
  (x.significand * scale * Nat.pow 2 x.exponent.toNat, Nat.pow 2 (-x.exponent).toNat)

end Binary

/-- The whole number nearest to a quotient. A quotient halfway between two goes to the even one. -/
def roundHalfEven (numerator denominator : Nat) : Nat :=
  let whole := numerator / denominator
  let twice := 2 * (numerator % denominator)
  if twice < denominator then whole
  else if denominator < twice then whole + 1
  else if whole % 2 = 0 then whole else whole + 1

end SkillDispatch.Decimal
