import SkillDispatch.Decimal.Binary

set_option autoImplicit false

namespace SkillDispatch.Decimal

/-- The number `digits * 10 ^ exponent`. -/
structure Short where
  digits : Nat
  exponent : Int
  deriving DecidableEq

/-- The reals that are read as one double, in quarter units of its significand; the ends belong to
them when the significand is even. -/
structure Interval where
  low : Nat
  high : Nat
  closed : Bool

namespace Interval

/-- The reals nearest to a double. Below a power of two the doubles lie twice as close. -/
def around (x : Binary) : Interval where
  low := if x.significand = Nat.pow 2 52 ∧ -1074 < x.exponent then 4 * x.significand - 1
    else 4 * x.significand - 2
  high := 4 * x.significand + 2
  closed := x.significand % 2 = 0

/-- Whether the quotient `numerator / denominator` of quarter units lies in the interval. -/
def has (interval : Interval) (numerator denominator : Nat) : Bool :=
  if interval.closed then
    interval.low * denominator ≤ numerator && numerator ≤ interval.high * denominator
  else interval.low * denominator < numerator && numerator < interval.high * denominator

end Interval

/-- Where a value halfway between two neighbours on a grid goes. -/
inductive Tie
  | up
  | even
  deriving DecidableEq

/-- Whether a value is nearer to the upper of two neighbours on a grid, when it lies `past` beyond
the lower one, `below` steps from zero. -/
def Tie.goesUp (tie : Tie) (step below past : Nat) : Bool :=
  step < 2 * past || step = 2 * past && (tie = .up || below % 2 = 1)

/-- The multiple of `10 ^ grid` that reads back as `x` and lies nearest to it, if there is one. -/
def onGrid (tie : Tie) (x : Binary) (grid : Int) : Option Short :=
  -- `step` and `unit` are the grid's step and a quarter unit of `x`, in one common measure
  let step := Nat.pow 10 grid.toNat * Nat.pow 2 (2 - x.exponent).toNat
  let unit := Nat.pow 10 (-grid).toNat * Nat.pow 2 (x.exponent - 2).toNat
  let value := 4 * x.significand * unit
  let below := value / step
  let interval := Interval.around x
  let down := interval.has (below * step) unit
  let up := interval.has ((below + 1) * step) unit
  if up && (!down || tie.goesUp step below (value - below * step)) then some ⟨below + 1, grid⟩
  else if down then some ⟨below, grid⟩
  else none

/-- The decimal with the fewest digits that reads back as a positive double: the grids are tried
from the coarsest on, and the finest, on which every double lies, ends the search. -/
def shortest (tie : Tie) (x : Binary) : Short :=
  ((List.range (310 + 1075)).findSome? fun finer => onGrid tie x (309 - Int.ofNat finer)).getD
    ⟨x.significand, x.exponent⟩

def zeros (count : Nat) : String :=
  String.ofList (List.replicate count '0')

/-- The digits with a point after the first `whole` of them. -/
def pointAfter (whole : Nat) (digits : String) : String :=
  String.ofList (digits.toList.take whole) ++ "." ++ String.ofList (digits.toList.drop whole)

namespace Short

/-- Every digit in its place, however many zeros that takes. -/
def positional (number : Short) : String :=
  let digits := toString number.digits
  let whole := (digits.length : Int) + number.exponent
  if 0 ≤ number.exponent then digits ++ zeros number.exponent.toNat
  else if 0 < whole then pointAfter whole.toNat digits
  else "0." ++ zeros (-whole).toNat ++ digits

/-- At least one place is shown, and numbers from 10 ^ 16 on and below 10 ^ -5 have an exponent. -/
def compact (number : Short) : String :=
  let digits := toString number.digits
  let whole := (digits.length : Int) + number.exponent
  if 0 ≤ number.exponent ∧ whole ≤ 16 then digits ++ zeros number.exponent.toNat ++ ".0"
  else if -5 < whole ∧ whole ≤ 16 then number.positional
  else
    (if digits.length = 1 then digits else pointAfter 1 digits) ++
      (if 0 < whole then "e+" else "e") ++ toString (whole - 1)

end Short

/-- A finite double with its sign, where `zero` is how a zero is written. -/
def signed (zero : String) (tie : Tie) (magnitude : Short → String) (x : Float) : String :=
  let parts := Binary.ofFloat x
  (if parts.negative then "-" else "") ++
    if parts.significand = 0 then zero else magnitude (shortest tie parts)

/-- A finite double without an exponent, in the fewest digits that read back; a tie goes up. -/
def positional (x : Float) : String :=
  signed "0" .up Short.positional x

/-- A finite double in the fewest digits that read back, large and small ones with an exponent; a
tie goes to the even neighbour. -/
def compact (x : Float) : String :=
  signed "0.0" .even Short.compact x

end SkillDispatch.Decimal
