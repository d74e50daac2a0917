set_option autoImplicit false

namespace SkillDispatch.Decimal

structure Exponent where
  negative : Bool
  digits : List Nat

/-- A number as it is written: a sign, digits, digits after a point and an exponent. -/
structure Literal where
  negative : Bool
  whole : List Nat
  fraction : List Nat
  exponent : Option Exponent

namespace Literal

/-- The number that decimal digits denote, the highest digit first. -/
def number (digits : List Nat) : Nat :=
  digits.foldl (fun value digit => 10 * value + digit) 0

/-- Whether the literal is written as a whole number. -/
def isWhole (literal : Literal) : Bool :=
  literal.fraction.isEmpty && literal.exponent.isNone

def shift (literal : Literal) : Int :=
  match literal.exponent with
  | none => 0
  | some exponent =>
    let size := Int.ofNat (number exponent.digits)
    if exponent.negative then -size else size

def signed (literal : Literal) (magnitude : Float) : Float :=
  if literal.negative then -magnitude else magnitude

/-- The double nearest to the literal. Where the exponent alone decides that the double is infinite
or zero, it is cut short. -/
def nearest (literal : Literal) : Float :=
  let digits := literal.whole ++ literal.fraction
  let exponent := literal.shift - Int.ofNat literal.fraction.length
  let shortened := min 400 (max (-800 - Int.ofNat digits.length) exponent)
  literal.signed (Float.ofScientific (number digits) (shortened < 0) shortened.natAbs)

/-- A significand of 64 bits and the power of ten that belongs to it. -/
structure Scaled where
  significand : Nat
  exponent : Int

/-- Whether one more digit keeps a significand within 64 bits. -/
def fits (significand digit : Nat) : Bool :=
  10 * significand + digit < UInt64.size

/-- Takes the digits before the point. From the first one on that does not fit, they only raise the
exponent. -/
def Scaled.takeWhole (significand : Nat) : List Nat → Scaled
  | [] => ⟨significand, 0⟩
  | digit :: rest =>
    if fits significand digit then takeWhole (10 * significand + digit) rest
    else ⟨significand, Int.ofNat (rest.length + 1)⟩

/-- Takes the digits after the point. From the first one on that does not fit, they are dropped. -/
def Scaled.takeFraction (scaled : Scaled) : List Nat → Scaled
  | [] => scaled
  | digit :: rest =>
    if fits scaled.significand digit then
      takeFraction ⟨10 * scaled.significand + digit, scaled.exponent - 1⟩ rest
    else scaled

def scaled (literal : Literal) : Scaled :=
  let digits := (Scaled.takeWhole 0 literal.whole).takeFraction literal.fraction
  ⟨digits.significand, digits.exponent + literal.shift⟩

/-- A double times a power of ten, rounded after each step; nothing when it is too large. Powers of
ten below `10 ^ -308` are divided out in several steps, `steps` at most. -/
def scale (magnitude : Float) (exponent : Int) : (steps : Nat) → Option Float
  | 0 => some 0.0
  | steps + 1 =>
    if exponent.natAbs ≤ 308 then
      let power := Float.ofScientific 1 false exponent.natAbs
      if 0 ≤ exponent then
        let product := magnitude * power
        if product.isInf then none else some product
      else some (magnitude / power)
    else if magnitude == 0.0 then some magnitude
    else if 0 ≤ exponent then none
    else scale (magnitude / 1e308) (exponent + 308) steps

/-- The double that a literal is read as, by its significand scaled with its exponent; nothing for a
number that is too large. Three steps down leave nothing but zero. -/
def double? (literal : Literal) : Option Float :=
  let scaled := literal.scaled
  (scale scaled.significand.toFloat scaled.exponent 4).map literal.signed

end Literal

end SkillDispatch.Decimal
