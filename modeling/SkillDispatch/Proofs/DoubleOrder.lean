import Mathlib
import SkillDispatch.Confidence

set_option autoImplicit false

/- The order of doubles. Two doubles are compared by their signs, then by their exponents and then
by their significands, so every double that is a number has a rank in a linear order. Both zeros
have one rank; apart from them, doubles with equal ranks are equal. -/
namespace SkillDispatch

namespace Double

open Float.Model Float.Model.UnpackedFloat

/-- The kind and sign, the exponent and the significand. Below zero the last two count
downwards. -/
def rankOf : UnpackedFloat → ℤ ×ₗ ℤ ×ₗ ℤ
  | .infinity .negative => toLex (-2, toLex (0, 0))
  | .finite .negative mantissa exponent _ => toLex (-1, toLex (-exponent, -(mantissa : ℤ)))
  | .notANumber | .zero _ => toLex (0, toLex (0, 0))
  | .finite .positive mantissa exponent _ => toLex (1, toLex (exponent, (mantissa : ℤ)))
  | .infinity .positive => toLex (2, toLex (0, 0))

theorem unpacked_lt_iff (x y : UnpackedFloat) :
    x.lt y = true ↔ x.isNaN = false ∧ y.isNaN = false ∧ rankOf x < rankOf y := by
  rcases x with (_ | _) | _ | (_ | _) | ⟨_ | _, m, e, _⟩ <;>
    rcases y with (_ | _) | _ | (_ | _) | ⟨_ | _, n, f, _⟩ <;>
    simp [UnpackedFloat.lt, UnpackedFloat.compare, rankOf, UnpackedFloat.isNaN,
      Prod.Lex.toLex_lt_toLex, compare, compareOfLessAndEq, Ordering.then_eq_lt,
      Ordering.then_eq_gt]
  all_goals grind

theorem unpacked_beq_iff (x y : UnpackedFloat) :
    x.beq y = true ↔ x.isNaN = false ∧ y.isNaN = false ∧ rankOf x = rankOf y := by
  rcases x with (_ | _) | _ | (_ | _) | ⟨_ | _, m, e, _⟩ <;>
    rcases y with (_ | _) | _ | (_ | _) | ⟨_ | _, n, f, _⟩ <;>
    simp [UnpackedFloat.beq, UnpackedFloat.compare, rankOf, UnpackedFloat.isNaN,
      compare, compareOfLessAndEq]
  all_goals grind

theorem unpacked_le_iff (x y : UnpackedFloat) :
    x.le y = true ↔ x.isNaN = false ∧ y.isNaN = false ∧ rankOf x ≤ rankOf y := by
  have either : x.le y = true ↔ x.lt y = true ∨ x.beq y = true := by
    rw [UnpackedFloat.le, UnpackedFloat.lt, UnpackedFloat.beq]
    rcases x.compare y with _ | _ | _ | _ <;> simp
  rw [either, unpacked_lt_iff, unpacked_beq_iff, le_iff_lt_or_eq]
  tauto

def rank (x : Float) : ℤ ×ₗ ℤ ×ₗ ℤ :=
  rankOf x.toModel.unpack

theorem lt_iff (x y : Float) : x < y ↔ x.isNaN = false ∧ y.isNaN = false ∧ rank x < rank y := by
  have unfolded : x < y ↔ x.toModel.unpack.lt y.toModel.unpack = true := decide_eq_true_iff
  rw [unfolded, unpacked_lt_iff]
  rfl

theorem le_iff (x y : Float) : x ≤ y ↔ x.isNaN = false ∧ y.isNaN = false ∧ rank x ≤ rank y := by
  have unfolded : x ≤ y ↔ x.toModel.unpack.le y.toModel.unpack = true := decide_eq_true_iff
  rw [unfolded, unpacked_le_iff]
  rfl

theorem not_lt_iff {x y : Float} (xIsNumber : x.isNaN = false) (yIsNumber : y.isNaN = false) :
    ¬x < y ↔ y ≤ x := by
  rw [lt_iff, le_iff]
  simp only [xIsNumber, yIsNumber, true_and, not_lt]

theorem beq_iff (x y : Float) :
    (x == y) = true ↔ x.isNaN = false ∧ y.isNaN = false ∧ rank x = rank y :=
  unpacked_beq_iff x.toModel.unpack y.toModel.unpack

theorem toNat_implicit {width : Nat} (mantissa : BitVec width) :
    (1#1 ++ mantissa).toNat = 2 ^ width + mantissa.toNat := by
  rw [BitVec.toNat_append, ← Nat.shiftLeft_add_eq_or_of_lt mantissa.isLt]
  simp [Nat.shiftLeft_eq]

/-- A bit pattern consists of its sign, its exponent and its significand. -/
theorem packComponents_unpack (bits : BitVec Format.binary64.numBits) :
    packComponents Format.binary64 (Sign.ofBitVec (unpackSign bits)) (unpackExponent bits)
      (unpackMantissa bits) = bits := by
  have sign : (Sign.ofBitVec (unpackSign bits)).toBitVec = unpackSign bits := by
    generalize unpackSign bits = bit
    revert bit
    decide
  rw [packComponents, sign]
  ext index inside
  simp only [unpackSign, unpackExponent, unpackMantissa]
  grind

theorem components_eq_of_unpack_eq {first second : BitVec Format.binary64.numBits}
    (same : unpack Format.binary64 first = unpack Format.binary64 second)
    (number : (unpack Format.binary64 first).isNaN = false) :
    Sign.ofBitVec (unpackSign first) = Sign.ofBitVec (unpackSign second) ∧
      unpackExponent first = unpackExponent second ∧
      unpackMantissa first = unpackMantissa second := by
  have firstBound := (unpackMantissa first).isLt
  have secondBound := (unpackMantissa second).isLt
  unfold UnpackedFloat.unpack at same number
  simp only [toNat_implicit] at same number
  -- A significand with its implicit bit is never as small as one without it.
  split_ifs at same number <;> grind [UnpackedFloat.isNaN, BitVec.toNat_inj]

theorem rankOf_injective {x y : UnpackedFloat} (same : rankOf x = rankOf y)
    (apart : rankOf x ≠ rankOf (.zero .positive)) : x = y := by
  rcases x with (_ | _) | _ | (_ | _) | ⟨_ | _, m, e, _⟩ <;>
    rcases y with (_ | _) | _ | (_ | _) | ⟨_ | _, n, f, _⟩ <;>
    simp_all [rankOf]

theorem rank_zero : rank 0.0 = rankOf (.zero .positive) := by
  decide

/-- Apart from the zeros, a rank belongs to one double only. -/
theorem eq_of_rank_eq {x y : Float} (same : rank x = rank y) (apart : rank x ≠ rank 0.0) :
    x = y := by
  rw [rank_zero] at apart
  have unpacked := rankOf_injective same apart
  have number : x.toModel.unpack.isNaN = false := by
    cases unpackedAs : x.toModel.unpack with
    | notANumber => exact absurd (by rw [rank, unpackedAs]; rfl) apart
    | _ => rfl
  obtain ⟨sign, exponent, mantissa⟩ := components_eq_of_unpack_eq unpacked number
  have bits : x.toModel.toBits.toBitVec = y.toModel.toBits.toBitVec := by
    rw [← packComponents_unpack x.toModel.toBits.toBitVec, sign, exponent, mantissa,
      packComponents_unpack]
  rcases x with ⟨⟨_⟩, _⟩
  rcases y with ⟨⟨_⟩, _⟩
  cases bits
  rfl

end Double

namespace Confidence

def rank (c : Confidence) : ℤ ×ₗ ℤ ×ₗ ℤ :=
  Double.rank c.value

theorem value_isNumber (c : Confidence) : c.value.isNaN = false :=
  ((Double.le_iff _ _).1 c.zero_le).2.1

theorem lt_iff_rank (first second : Confidence) : first < second ↔ first.rank < second.rank := by
  have unfolded : first < second ↔ first.value < second.value := Iff.rfl
  rw [unfolded, Double.lt_iff]
  simp only [value_isNumber, true_and, rank]

theorem beq_iff_rank (first second : Confidence) :
    (first == second) = true ↔ first.rank = second.rank := by
  have unfolded : (first == second) = (first.value == second.value) := rfl
  rw [unfolded, Double.beq_iff]
  simp only [value_isNumber, true_and, rank]

theorem isZero_iff_rank (c : Confidence) : c.isZero = true ↔ c.rank = zero.rank :=
  beq_iff_rank c zero

theorem zero_rank_le (c : Confidence) : zero.rank ≤ c.rank :=
  ((Double.le_iff _ _).1 c.zero_le).2.2

theorem isZero_eq_false_iff (c : Confidence) : c.isZero = false ↔ zero.rank < c.rank := by
  rw [← Bool.not_eq_true, isZero_iff_rank, lt_iff_le_and_ne]
  constructor
  · intro apart
    exact ⟨zero_rank_le c, fun same => apart same.symm⟩
  · intro above same
    exact above.2 same.symm

theorem rank_le_certain (c : Confidence) : c.rank ≤ certain.rank :=
  ((Double.le_iff _ _).1 c.le_one).2.2

/-- Confidences that are equal as numbers are the same, unless they are zeros. -/
theorem eq_of_rank_eq {first second : Confidence} (same : first.rank = second.rank)
    (positive : first.isZero = false) : first = second := by
  have apart : Double.rank first.value ≠ Double.rank 0.0 := by
    intro equal
    rw [(isZero_iff_rank first).2 equal] at positive
    cases positive
  rcases first with ⟨value, _, _⟩
  rcases second with ⟨other, _, _⟩
  cases Double.eq_of_rank_eq same apart
  rfl

end Confidence

end SkillDispatch
