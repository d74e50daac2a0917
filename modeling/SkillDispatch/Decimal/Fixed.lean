import SkillDispatch.Decimal.Binary

set_option autoImplicit false

namespace SkillDispatch.Decimal

/-- A finite double in hundredths: the value is rounded as it is, not as it is written, and a tie
goes to the even hundredth. The sign of a zero is shown. -/
def hundredths (x : Float) : String :=
  let parts := Binary.ofFloat x
  let (numerator, denominator) := parts.quotient 100
  let count := roundHalfEven numerator denominator
  let places := count % 100
  (if parts.negative then "-" else "") ++ toString (count / 100) ++ "." ++
    toString (places / 10) ++ toString (places % 10)

end SkillDispatch.Decimal
