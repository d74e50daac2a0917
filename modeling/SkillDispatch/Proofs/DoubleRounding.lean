import Mathlib.Algebra.Order.Field.Power
import Mathlib.Data.Nat.Log
import Mathlib.Data.Rat.Cast.Order
import Mathlib.Tactic.FieldSimp
import Mathlib.Tactic.Linarith
import Mathlib.Tactic.Positivity
import Mathlib.Tactic.Ring
import SkillDispatch.Proofs.DoubleOrder

set_option autoImplicit false

namespace SkillDispatch

namespace Double

open Float.Model Float.Model.UnpackedFloat

/-- The natural number nearest to a fraction, and of two the even one. -/
def nearestEven (numerator denominator : ℕ) : ℕ :=
  (accuracyOfFraction (numerator % denominator) denominator).roundToNearestEven
    (numerator / denominator)

theorem nearestEven_eq (numerator denominator : ℕ) (positive : 0 < denominator) :
    nearestEven numerator denominator =
      if 2 * (numerator % denominator) < denominator then numerator / denominator
      else if 2 * (numerator % denominator) = denominator then
        numerator / denominator + numerator / denominator % 2
      else numerator / denominator + 1 := by
  unfold nearestEven accuracyOfFraction
  by_cases exact : numerator % denominator = 0
  · rw [if_pos exact, exact, if_pos (by omega)]
    rfl
  · rw [if_neg exact]
    rcases Nat.lt_trichotomy (2 * (numerator % denominator)) denominator with less | same | more
    · rw [if_pos less, Nat.compare_eq_lt.2 less]
      rfl
    · rw [if_neg (by omega), if_pos same, Nat.compare_eq_eq.2 same]
      rfl
    · rw [if_neg (by omega), if_neg (by omega), Nat.compare_eq_gt.2 more]
      rfl

theorem nearestEven_mul_right (numerator denominator factor : ℕ) (positive : 0 < denominator)
    (factorPositive : 0 < factor) :
    nearestEven (numerator * factor) (denominator * factor) =
      nearestEven numerator denominator := by
  rw [nearestEven_eq _ _ (Nat.mul_pos positive factorPositive), nearestEven_eq _ _ positive,
    Nat.mul_div_mul_right _ _ factorPositive, Nat.mul_mod_mul_right, ← Nat.mul_assoc]
  simp only [Nat.mul_lt_mul_right factorPositive, Nat.mul_left_inj factorPositive.ne']

/-- The nearest natural number is off by one half at most. -/
theorem nearestEven_error (numerator denominator : ℕ) (positive : 0 < denominator) :
    2 * (denominator * nearestEven numerator denominator) ≤ 2 * numerator + denominator ∧
      2 * numerator ≤ 2 * (denominator * nearestEven numerator denominator) + denominator := by
  have division := Nat.div_add_mod numerator denominator
  have remainder := Nat.mod_lt numerator positive
  have parity := Nat.mod_two_eq_zero_or_one (numerator / denominator)
  rw [nearestEven_eq _ _ positive]
  split_ifs with less same
  · omega
  · rcases parity with even | odd
    · rw [even, Nat.add_zero]
      omega
    · rw [odd, Nat.mul_add]
      omega
  · rw [Nat.mul_add]
    omega

theorem nearestEven_bounds (numerator denominator : ℕ) (positive : 0 < denominator) :
    numerator / denominator ≤ nearestEven numerator denominator ∧
      nearestEven numerator denominator ≤ numerator / denominator + 1 := by
  have parity := Nat.mod_two_eq_zero_or_one (numerator / denominator)
  rw [nearestEven_eq _ _ positive]
  split_ifs <;> omega

/-- The bits of an extended significand say how it relates to a fraction. -/
def holdsFraction (extended : ExtendedMantissa) (numerator denominator : ℕ) : Prop :=
  extended.mantissa = numerator / denominator ∧
    extended.accuracy = accuracyOfFraction (numerator % denominator) denominator

theorem holdsFraction_ofMantissaAndAccuracy (numerator denominator : ℕ) :
    holdsFraction (.ofMantissaAndAccuracy (numerator / denominator)
      (accuracyOfFraction (numerator % denominator) denominator)) numerator denominator := by
  unfold holdsFraction
  generalize accuracyOfFraction (numerator % denominator) denominator = accuracy
  rcases accuracy with _ | (_ | _ | _) <;> exact ⟨rfl, rfl⟩

theorem accuracyOfFraction_eq_exact_iff (numerator denominator : ℕ) :
    accuracyOfFraction numerator denominator = .exact ↔ numerator = 0 := by
  unfold accuracyOfFraction
  split <;> simp_all

theorem accuracy_eq_exact_iff (extended : ExtendedMantissa) :
    extended.accuracy = .exact ↔ (extended.roundBit || extended.stickyBit) = false := by
  rcases extended with ⟨_, _ | _, _ | _⟩ <;> simp [ExtendedMantissa.accuracy]

/-- One place less is one more halving of the fraction. -/
theorem holdsFraction.shiftRightOne {extended : ExtendedMantissa} {numerator denominator : ℕ}
    (holds : holdsFraction extended numerator denominator) (positive : 0 < denominator) :
    holdsFraction extended.shiftRightOne numerator (denominator * 2) := by
  obtain ⟨quotient, accuracy⟩ := holds
  have sticky : (extended.roundBit || extended.stickyBit) =
      decide (numerator % denominator ≠ 0) := by
    rw [Bool.eq_iff_iff, decide_eq_true_iff, ne_eq, ← accuracyOfFraction_eq_exact_iff _ denominator,
      ← accuracy, accuracy_eq_exact_iff, Bool.not_eq_false]
  have remainder := Nat.mod_lt numerator positive
  constructor
  · show extended.mantissa / 2 = _
    rw [quotient, Nat.div_div_eq_div_mul]
  · rw [ExtendedMantissa.shiftRightOne, sticky, quotient, Nat.mod_mul]
    unfold accuracyOfFraction
    rcases Nat.mod_two_eq_zero_or_one (numerator / denominator) with even | odd
    · rw [even, Nat.mul_zero, Nat.add_zero]
      by_cases exact : numerator % denominator = 0
      · simp [exact, ExtendedMantissa.accuracy]
      · rw [if_neg exact, Nat.compare_eq_lt.2 (by omega)]
        simp [exact, ExtendedMantissa.accuracy]
    · rw [odd, Nat.mul_one, if_neg (by omega)]
      by_cases exact : numerator % denominator = 0
      · rw [Nat.compare_eq_eq.2 (by omega)]
        simp [exact, ExtendedMantissa.accuracy]
      · rw [Nat.compare_eq_gt.2 (by omega)]
        simp [exact, ExtendedMantissa.accuracy]

theorem holdsFraction.shiftRight {extended : ExtendedMantissa} {numerator denominator : ℕ}
    (holds : holdsFraction extended numerator denominator) (positive : 0 < denominator)
    (places : ℕ) : holdsFraction (extended >>> places) numerator (denominator * 2 ^ places) := by
  induction places with
  | zero =>
    rw [Nat.pow_zero, Nat.mul_one]
    exact holds
  | succ places ih =>
    have shifted := ih.shiftRightOne (by positivity)
    rw [Nat.pow_succ, ← Nat.mul_assoc]
    exact shifted

theorem holdsFraction.roundedMantissa_eq {extended : ExtendedMantissa} {numerator denominator : ℕ}
    (holds : holdsFraction extended numerator denominator) :
    extended.roundedMantissa = nearestEven numerator denominator := by
  rw [ExtendedMantissa.roundedMantissa, holds.1, holds.2, nearestEven]

structure Normal where
  significand : ℕ
  exponent : ℤ
  lower : 2 ^ 52 ≤ significand
  upper : significand < 2 ^ 53

namespace Normal

theorem positive (x : Normal) : 0 < x.significand :=
  lt_of_lt_of_le (by decide) x.lower

theorem log2_significand (x : Normal) : x.significand.log2 = 52 :=
  (Nat.log2_eq_iff x.positive.ne').2 ⟨x.lower, x.upper⟩

def unpacked (x : Normal) : UnpackedFloat :=
  .finite .positive x.significand x.exponent x.positive

/-- The rounded significand, which may have grown by one place. -/
def ofRounded (significand : ℕ) (exponent : ℤ) (lower : 2 ^ 52 ≤ significand)
    (upper : significand ≤ 2 ^ 53) : Normal :=
  if grown : significand = 2 ^ 53 then ⟨2 ^ 52, exponent + 1, le_refl _, by decide⟩
  else ⟨significand, exponent, lower, lt_of_le_of_ne upper grown⟩

end Normal

theorem targetExponent_eq (significand : ℕ) (exponent : ℤ)
    (range : -1074 ≤ (significand.log2 : ℤ) - 52 + exponent) :
    Format.binary64.targetExponent (totalExponent significand exponent) =
      (significand.log2 : ℤ) - 52 + exponent := by
  simp only [Format.targetExponent, totalExponent, Format.mantissaBits, Format.minExponent]
  omega

theorem shiftToTargetExponent_exact {significand : ℕ} {exponent : ℤ} (places : ℕ)
    (length : significand.log2 = 52 + places) (range : -1074 ≤ exponent) :
    shiftToTargetExponent Format.binary64 significand exponent .exact =
      ((⟨significand, false, false⟩ : ExtendedMantissa) >>> places, exponent + places) := by
  have target := targetExponent_eq significand exponent (by omega)
  have shift : ((significand.log2 : ℤ) - 52 + exponent - exponent).toNat = places := by omega
  rw [shiftToTargetExponent, target, shiftToExponent, shift]
  rfl

theorem roundWithAccuracy_eq {numerator denominator places rounded : ℕ} {exponent : ℤ}
    (positive : 0 < denominator)
    (nearest : nearestEven numerator (denominator * 2 ^ places) = rounded)
    (lower : 2 ^ 52 ≤ rounded) (upper : rounded ≤ 2 ^ 53)
    (length : (numerator / denominator).log2 = 52 + places)
    (range : -1074 ≤ exponent + places) :
    roundWithAccuracy Format.binary64 .positive (numerator / denominator) exponent
        (accuracyOfFraction (numerator % denominator) denominator) =
      (Normal.ofRounded rounded (exponent + places) lower upper).unpacked := by
  have holds := ((holdsFraction_ofMantissaAndAccuracy numerator denominator).shiftRight positive
    places).roundedMantissa_eq
  have firstTarget := targetExponent_eq (numerator / denominator) exponent (by omega)
  rw [length] at firstTarget
  have shift : ((((52 + places : ℕ) : ℤ) - 52 + exponent) - exponent).toNat = places := by omega
  rw [roundWithAccuracy, shiftToTargetExponent, firstTarget, shiftToExponent, shift]
  dsimp only
  rw [holds, nearest]
  unfold Normal.ofRounded
  by_cases grown : rounded = 2 ^ 53
  · subst grown
    rw [shiftToTargetExponent_exact 1 Nat.log2_two_pow range, dif_pos rfl]
    rfl
  · have inside : rounded.log2 = 52 :=
      (Nat.log2_eq_iff (by omega)).2 ⟨lower, lt_of_le_of_ne upper grown⟩
    have notZero : rounded ≠ 0 := by omega
    rw [shiftToTargetExponent_exact 0 inside range, dif_neg grown]
    simp [HShiftRight.hShiftRight, Nat.repeat, notZero, Normal.unpacked]

theorem nearestEven_one (n : ℕ) : nearestEven n 1 = n := by
  rw [nearestEven_eq n 1 Nat.one_pos, Nat.mod_one, Nat.div_one, if_pos (by decide)]

theorem Normal.ofRounded_self (x : Normal) :
    Normal.ofRounded x.significand x.exponent x.lower x.upper.le = x :=
  dif_neg x.upper.ne

/-- Trailing zeros are dropped when a normal double is rounded. -/
theorem Normal.roundWithAccuracy_exact (x : Normal) (places : ℕ) (low : -1074 ≤ x.exponent) :
    roundWithAccuracy Format.binary64 .positive (x.significand * 2 ^ places) (x.exponent - places)
      .exact = x.unpacked := by
  have nearest : nearestEven (x.significand * 2 ^ places) (1 * 2 ^ places) = x.significand := by
    rw [nearestEven_mul_right _ _ _ Nat.one_pos (by positivity), nearestEven_one]
  have length : (x.significand * 2 ^ places / 1).log2 = 52 + places := by
    rw [Nat.div_one]
    apply (Nat.log2_eq_iff (by have := x.positive; positivity)).2
    rw [Nat.pow_add, Nat.add_right_comm, Nat.pow_add]
    exact ⟨Nat.mul_le_mul_right _ x.lower, Nat.mul_lt_mul_of_pos_right x.upper (by positivity)⟩
  have range : -1074 ≤ x.exponent - places + places := by omega
  have rounded := roundWithAccuracy_eq Nat.one_pos nearest x.lower x.upper.le length range
  rw [Nat.div_one, Nat.mod_one, Int.sub_add_cancel, Normal.ofRounded_self] at rounded
  exact rounded

theorem unpackSign_packComponents (sign : Sign) (exponent : BitVec 11) (mantissa : BitVec 52) :
    unpackSign (packComponents Format.binary64 sign exponent mantissa) = sign.toBitVec := by
  ext index inside
  simp [unpackSign, packComponents]
  grind

theorem Normal.unpack_pack (x : Normal) (low : -1074 ≤ x.exponent) (high : x.exponent ≤ 971) :
    (Float.Model.pack x.unpacked).unpack = x.unpacked := by
  rcases x with ⟨significand, exponent, lower, upper⟩
  dsimp only at low high
  have length : significand.log2 = 52 :=
    (Nat.log2_eq_iff (by omega)).2 ⟨lower, upper⟩
  have bias : (Format.binary64.exponentBias : ℤ) = 1023 := rfl
  have field : (BitVec.ofNat 11 (exponent + 1075).toNat).toNat = (exponent + 1075).toNat := by
    rw [BitVec.toNat_ofNat, Nat.mod_eq_of_lt (by omega)]
  have bits : UnpackedFloat.pack Format.binary64
      (.finite .positive significand exponent (by omega)) =
      packComponents Format.binary64 .positive (BitVec.ofNat 11 (exponent + 1075).toNat)
        (BitVec.ofNat 52 significand) := by
    have biased : (exponent + Format.binary64.exponentBias +
        Format.binary64.mantissaBitsWithoutImplicit).toNat = (exponent + 1075).toNat := by
      rw [bias]
      show (exponent + 1023 + 52).toNat = _
      omega
    simp only [UnpackedFloat.pack, biased, length]
    rw [if_neg (by omega), if_pos (by decide)]
  have notAllOnes : BitVec.ofNat 11 (exponent + 1075).toNat ≠ -1#11 := by
    intro same
    have values := congrArg BitVec.toNat same
    rw [field, show (-1#11).toNat = 2047 by decide] at values
    omega
  have notZero : BitVec.ofNat 11 (exponent + 1075).toNat ≠ 0#11 := by
    intro same
    have values := congrArg BitVec.toNat same
    rw [field, BitVec.toNat_zero] at values
    omega
  have implicit : (1#1 ++ BitVec.ofNat 52 significand).toNat = significand := by
    rw [toNat_implicit, BitVec.toNat_ofNat]
    omega
  show UnpackedFloat.unpack Format.binary64 (UnpackedFloat.pack Format.binary64 _) = _
  rw [Normal.unpacked, bits, UnpackedFloat.unpack]
  simp only [unpackExponent_packComponents, unpackMantissa_packComponents,
    unpackSign_packComponents]
  rw [if_neg notAllOnes, if_neg notZero]
  simp only [implicit, field, bias, UnpackedFloat.finite.injEq]
  refine ⟨rfl, trivial, ?_⟩
  omega

def IsNormal (x : Float) (normal : Normal) : Prop :=
  x.toModel.unpack = normal.unpacked

/-- A natural number with its first place moved to the front. -/
def Normal.ofNat (n : ℕ) (positive : 0 < n) (small : n < 2 ^ 53) : Normal where
  significand := n * 2 ^ (52 - n.log2)
  exponent := (n.log2 : ℤ) - 52
  lower := by
    have length := (Nat.log2_lt positive.ne').2 small
    calc 2 ^ 52 = 2 ^ n.log2 * 2 ^ (52 - n.log2) := by rw [← Nat.pow_add]; congr 1; omega
      _ ≤ n * 2 ^ (52 - n.log2) := Nat.mul_le_mul_right _ (Nat.log2_self_le positive.ne')
  upper := by
    have length := (Nat.log2_lt positive.ne').2 small
    calc n * 2 ^ (52 - n.log2) < 2 ^ (n.log2 + 1) * 2 ^ (52 - n.log2) :=
          Nat.mul_lt_mul_of_pos_right Nat.lt_log2_self (by positivity)
      _ = 2 ^ 53 := by rw [← Nat.pow_add]; congr 1; omega

theorem isNormal_ofUInt64 (n : ℕ) (positive : 0 < n) (small : n < 2 ^ 53) :
    IsNormal n.toUInt64.toFloat (.ofNat n positive small) := by
  have length := (Nat.log2_lt positive.ne').2 small
  have cast : n.toUInt64.toNat = n := by
    rw [Nat.toUInt64, UInt64.toNat_ofNat_of_lt' (lt_trans small (by decide))]
  have value : UnpackedFloat.ofUInt64 Format.binary64 n.toUInt64 =
      (Normal.ofNat n positive small).unpacked := by
    have exact := (Normal.ofNat n positive small).roundWithAccuracy_exact 0
      (by simp only [Normal.ofNat]; omega)
    rw [Nat.pow_zero, Nat.mul_one, Nat.cast_zero, Int.sub_zero] at exact
    rw [← exact]
    have above : compare (n : ℤ) 0 = .gt := Int.compare_eq_gt.2 (by omega)
    have target := targetExponent_eq n 0 (by omega)
    have shift : (0 - ((n.log2 : ℤ) - 52 + 0)).toNat = 52 - n.log2 := by omega
    have lowered : (0 : ℤ) - ((52 - n.log2 : ℕ) : ℤ) = (n.log2 : ℤ) - 52 := by omega
    rw [UnpackedFloat.ofUInt64, cast, UnpackedFloat.ofNat, UnpackedFloat.ofInt,
      UnpackedFloat.normalize, above]
    dsimp only
    rw [Int.toNat_natCast, UnpackedFloat.round, target, decreaseExponent, shift]
    dsimp only
    rw [Nat.shiftLeft_eq, lowered]
    rfl
  show (Float.Model.pack _).unpack = _
  rw [value]
  apply Normal.unpack_pack
  · simp only [Normal.ofNat]
    omega
  · simp only [Normal.ofNat]
    omega

theorem one_unpack : (Float.exactlyRepresentablePowersOfTen[0]).toModel.unpack =
    .finite .positive (2 ^ 52) (-52) (by decide) := by
  rfl

theorem isNormal_toFloat (n : ℕ) (positive : 0 < n) (small : n < 2 ^ 53) :
    IsNormal n.toFloat (.ofNat n positive small) := by
  have length := (Nat.log2_lt positive.ne').2 small
  have factor : n.toFloat = n.toUInt64.toFloat * Float.exactlyRepresentablePowersOfTen[0] := by
    show Float.ofScientific n false 0 = _
    rw [Float.ofScientific, dif_pos ⟨small, by decide⟩]
    rfl
  have value : UnpackedFloat.mul Format.binary64 n.toUInt64.toFloat.toModel.unpack
      (Float.exactlyRepresentablePowersOfTen[0]).toModel.unpack =
        (Normal.ofNat n positive small).unpacked := by
    have whole := isNormal_ofUInt64 n positive small
    rw [IsNormal] at whole
    rw [whole, one_unpack]
    exact (Normal.ofNat n positive small).roundWithAccuracy_exact 52
      (by simp only [Normal.ofNat]; omega)
  rw [factor]
  show (Float.Model.pack (UnpackedFloat.mul _ _ _)).unpack = _
  rw [value]
  apply Normal.unpack_pack
  · simp only [Normal.ofNat]
    omega
  · simp only [Normal.ofNat]
    omega

namespace Normal

def value (x : Normal) : ℚ :=
  x.significand * 2 ^ x.exponent

/-- The double is the one nearest to an exact number, and the even one of two. -/
def IsNearest (x : Normal) (exact : ℚ) : Prop :=
  ∃ (numerator denominator : ℕ) (exponent : ℤ) (lower : 2 ^ 52 ≤ nearestEven numerator denominator)
    (upper : nearestEven numerator denominator ≤ 2 ^ 53), 0 < denominator ∧
    2 ^ 52 * denominator ≤ numerator ∧ numerator < 2 ^ 53 * denominator ∧
    exact = (numerator : ℚ) / denominator * 2 ^ exponent ∧
    x = ofRounded (nearestEven numerator denominator) exponent lower upper

theorem div_unpacked (x y : Normal) (range : -1000 ≤ x.exponent - y.exponent) :
    UnpackedFloat.div Format.binary64 x.unpacked y.unpacked =
      roundWithAccuracy Format.binary64 .positive (x.significand * 2 ^ 53 / y.significand)
        (x.exponent - y.exponent - 53)
        (accuracyOfFraction (x.significand * 2 ^ 53 % y.significand) y.significand) := by
  have target : Format.binary64.targetExponent (totalExponent x.significand x.exponent -
      totalExponent y.significand y.exponent) = x.exponent - y.exponent - 53 := by
    simp only [Format.targetExponent, totalExponent, Format.mantissaBits, Format.minExponent,
      log2_significand]
    omega
  have least : min (x.exponent - y.exponent) (x.exponent - y.exponent - 53) =
      x.exponent - y.exponent - 53 := by omega
  have shift : (x.exponent - y.exponent - (x.exponent - y.exponent - 53)).toNat = 53 := by omega
  have core : divCore Format.binary64 x.significand x.exponent y.significand y.exponent =
      (x.significand * 2 ^ 53 / y.significand, x.exponent - y.exponent - 53,
        accuracyOfFraction (x.significand * 2 ^ 53 % y.significand) y.significand) := by
    rw [divCore, target, least, shift, Nat.shiftLeft_eq]
  rw [unpacked, unpacked, UnpackedFloat.div, core]
  rfl

/-- A fraction with 53 places before the point has its nearest natural number among those. -/
theorem nearestEven_range {numerator denominator : ℕ} (positive : 0 < denominator)
    (above : 2 ^ 52 * denominator ≤ numerator) (below : numerator < 2 ^ 53 * denominator) :
    2 ^ 52 ≤ nearestEven numerator denominator ∧ nearestEven numerator denominator ≤ 2 ^ 53 := by
  have bounds := nearestEven_bounds numerator denominator positive
  have floor := (Nat.le_div_iff_mul_le positive).2 above
  have ceiling := (Nat.div_lt_iff_lt_mul positive).2 below
  omega

/-- Rounding a quotient that is `places` places too long finds its nearest double. -/
theorem round_isNearest (numerator denominator places : ℕ) (exponent : ℤ)
    (positive : 0 < denominator) (above : 2 ^ 52 * (denominator * 2 ^ places) ≤ numerator)
    (below : numerator < 2 ^ 53 * (denominator * 2 ^ places)) (low : -1074 ≤ exponent + places) :
    ∃ x : Normal, roundWithAccuracy Format.binary64 .positive (numerator / denominator) exponent
        (accuracyOfFraction (numerator % denominator) denominator) = x.unpacked ∧
      x.exponent ≤ exponent + places + 1 ∧ exponent + places ≤ x.exponent ∧
      x.IsNearest ((numerator : ℚ) / denominator * 2 ^ exponent) := by
  have shifted : 0 < denominator * 2 ^ places := by positivity
  obtain ⟨lower, upper⟩ := nearestEven_range shifted above below
  have length : (numerator / denominator).log2 = 52 + places := by
    have floor : 2 ^ (52 + places) ≤ numerator / denominator := by
      rw [Nat.le_div_iff_mul_le positive, Nat.pow_add]
      calc 2 ^ 52 * 2 ^ places * denominator = 2 ^ 52 * (denominator * 2 ^ places) := by ring
        _ ≤ numerator := above
    have ceiling : numerator / denominator < 2 ^ (52 + places + 1) := by
      rw [Nat.div_lt_iff_lt_mul positive, Nat.add_right_comm, Nat.pow_add]
      calc numerator < 2 ^ 53 * (denominator * 2 ^ places) := below
        _ = 2 ^ (52 + 1) * 2 ^ places * denominator := by ring
    exact (Nat.log2_eq_iff (lt_of_lt_of_le (by positivity) floor).ne').2 ⟨floor, ceiling⟩
  refine ⟨ofRounded _ (exponent + places) lower upper,
    roundWithAccuracy_eq positive rfl lower upper length low, ?_, ?_, ?_⟩
  · unfold ofRounded
    split
    · exact le_refl _
    · exact le_of_lt (lt_add_one _)
  · unfold ofRounded
    split
    · exact le_of_lt (lt_add_one _)
    · exact le_refl _
  · refine ⟨numerator, denominator * 2 ^ places, exponent + places, lower, upper, shifted, above,
      below, ?_, rfl⟩
    have denominatorPositive : (0 : ℚ) < denominator := by exact_mod_cast positive
    rw [zpow_add₀ two_ne_zero, zpow_natCast, Nat.cast_mul, Nat.cast_pow, Nat.cast_ofNat]
    field_simp

/-- A quotient of doubles is the double nearest to the quotient of their values. -/
theorem div_isNearest {first second : Float} {x y : Normal} (isFirst : IsNormal first x)
    (isSecond : IsNormal second y) (firstRange : -52 ≤ x.exponent ∧ x.exponent ≤ 52)
    (secondRange : -52 ≤ y.exponent ∧ y.exponent ≤ 52) :
    ∃ z, IsNormal (first / second) z ∧ z.IsNearest (x.value / y.value) := by
  have exact : (x.value / y.value) =
      ((x.significand * 2 ^ 53 : ℕ) : ℚ) / y.significand *
        2 ^ (x.exponent - y.exponent - 53) := by
    have significand : (0 : ℚ) < y.significand := by exact_mod_cast y.positive
    rw [value, value, zpow_sub₀ two_ne_zero, zpow_sub₀ two_ne_zero, Nat.cast_mul]
    push_cast
    field_simp
  have rounded : ∃ z : Normal, UnpackedFloat.div Format.binary64 x.unpacked y.unpacked =
      z.unpacked ∧ z.exponent ≤ 971 ∧ -1074 ≤ z.exponent ∧ z.IsNearest (x.value / y.value) := by
    rw [div_unpacked x y (by omega), exact]
    have lower := x.lower
    have upper := x.upper
    have lower' := y.lower
    have upper' := y.upper
    by_cases short : x.significand * 2 ^ 53 < 2 ^ 53 * (y.significand * 2 ^ 0)
    · obtain ⟨z, isRounded, most, least, nearest⟩ := round_isNearest _ _ 0
        (x.exponent - y.exponent - 53) y.positive (by omega) short (by omega)
      exact ⟨z, isRounded, by omega, by omega, nearest⟩
    · obtain ⟨z, isRounded, most, least, nearest⟩ := round_isNearest (x.significand * 2 ^ 53)
        _ 1 (x.exponent - y.exponent - 53) y.positive (by omega) (by omega) (by omega)
      exact ⟨z, isRounded, by omega, by omega, nearest⟩
  obtain ⟨z, isRounded, most, least, nearest⟩ := rounded
  refine ⟨z, ?_, nearest⟩
  show (Float.Model.pack (UnpackedFloat.div _ _ _)).unpack = _
  rw [IsNormal] at isFirst isSecond
  rw [isFirst, isSecond, isRounded]
  exact z.unpack_pack least most

theorem value_ofNat (n : ℕ) (positive : 0 < n) (small : n < 2 ^ 53) :
    (ofNat n positive small).value = n := by
  have length := (Nat.log2_lt positive.ne').2 small
  have exponent : (n.log2 : ℤ) - 52 = -((52 - n.log2 : ℕ) : ℤ) := by omega
  rw [value, ofNat]
  dsimp only
  rw [exponent, zpow_neg, zpow_natCast, Nat.cast_mul, Nat.cast_pow, Nat.cast_ofNat,
    mul_assoc, mul_inv_cancel₀ (by positivity), mul_one]

/-- Of two fractions with 53 places before the point, the one with the higher exponent stands for
the greater number. -/
theorem scaled_lt {first second : ℚ} {low high : ℤ} (upper : first < 2 ^ 53)
    (lower : 2 ^ 52 ≤ second) (exponents : low < high) :
    first * 2 ^ low < second * 2 ^ high := by
  have powers : (2 : ℚ) ^ (low + 1) ≤ 2 ^ high := zpow_le_zpow_right₀ one_le_two exponents
  have lowPositive : (0 : ℚ) < 2 ^ low := by positivity
  calc first * 2 ^ low < 2 ^ 53 * 2 ^ low := mul_lt_mul_of_pos_right upper lowPositive
    _ = 2 ^ 52 * 2 ^ (low + 1) := by rw [zpow_add_one₀ two_ne_zero]; ring
    _ ≤ second * 2 ^ high := mul_le_mul lower powers (by positivity) (by linarith)

theorem value_le_of_rank_le {x y : Normal} (ranks : rankOf x.unpacked ≤ rankOf y.unpacked) :
    x.value ≤ y.value := by
  have upper : (x.significand : ℚ) < 2 ^ 53 := by exact_mod_cast x.upper
  have lower : 2 ^ 52 ≤ (y.significand : ℚ) := by exact_mod_cast y.lower
  simp only [unpacked, rankOf, Prod.Lex.toLex_le_toLex, lt_self_iff_false, false_or, true_and,
    Nat.cast_le] at ranks
  rcases ranks with exponents | ⟨exponents, significands⟩
  · exact (scaled_lt upper lower exponents).le
  · rw [value, value, exponents]
    have cast : (x.significand : ℚ) ≤ y.significand := by exact_mod_cast significands
    exact mul_le_mul_of_nonneg_right cast (by positivity)

theorem value_ofRounded (significand : ℕ) (exponent : ℤ) (lower : 2 ^ 52 ≤ significand)
    (upper : significand ≤ 2 ^ 53) :
    (ofRounded significand exponent lower upper).value = significand * 2 ^ exponent := by
  unfold ofRounded
  split
  · rename_i grown
    rw [value, grown, zpow_add_one₀ two_ne_zero]
    push_cast
    ring
  · rfl

theorem fraction_bounds {numerator denominator : ℕ} (positive : 0 < denominator)
    (above : 2 ^ 52 * denominator ≤ numerator) (below : numerator < 2 ^ 53 * denominator) :
    2 ^ 52 ≤ (numerator : ℚ) / denominator ∧ (numerator : ℚ) / denominator < 2 ^ 53 := by
  have denominatorPositive : (0 : ℚ) < denominator := by exact_mod_cast positive
  rw [le_div_iff₀ denominatorPositive, div_lt_iff₀ denominatorPositive]
  constructor
  · exact_mod_cast above
  · exact_mod_cast below

theorem IsNearest.unique {x y : Normal} {exact : ℚ} (first : x.IsNearest exact)
    (second : y.IsNearest exact) : x = y := by
  obtain ⟨n, d, e, lower, upper, positive, above, below, equal, rfl⟩ := first
  obtain ⟨n', d', e', lower', upper', positive', above', below', equal', rfl⟩ := second
  have dPositive : (0 : ℚ) < d := by exact_mod_cast positive
  have dPositive' : (0 : ℚ) < d' := by exact_mod_cast positive'
  have bounds := fraction_bounds positive above below
  have bounds' := fraction_bounds positive' above' below'
  have same : (n : ℚ) / d * 2 ^ e = n' / d' * 2 ^ e' := equal.symm.trans equal'
  have exponents : e = e' := by
    rcases lt_trichotomy e e' with less | equal | more
    · exact absurd same (scaled_lt bounds.2 bounds'.1 less).ne
    · exact equal
    · exact absurd same (scaled_lt bounds'.2 bounds.1 more).ne'
  subst exponents
  have fractions : n * d' = n' * d := by
    have quotients := mul_right_cancel₀ (by positivity : (2 : ℚ) ^ e ≠ 0) same
    rw [div_eq_div_iff dPositive.ne' dPositive'.ne'] at quotients
    exact_mod_cast quotients
  have nearest : nearestEven n d = nearestEven n' d' := by
    rw [← nearestEven_mul_right n d d' positive positive', fractions, Nat.mul_comm d d',
      nearestEven_mul_right n' d' d positive' positive]
  simp only [nearest]

/-- The nearest double is off by half a unit in the last place at most. -/
theorem IsNearest.error {x : Normal} {exact : ℚ} (nearest : x.IsNearest exact) :
    |x.value - exact| ≤ exact / 2 ^ 53 := by
  obtain ⟨n, d, e, lower, upper, positive, above, below, rfl, rfl⟩ := nearest
  have dPositive : (0 : ℚ) < d := by exact_mod_cast positive
  have power : (0 : ℚ) < 2 ^ e := by positivity
  obtain ⟨most, least⟩ := nearestEven_error n d positive
  have most' : (2 : ℚ) * (d * nearestEven n d) ≤ 2 * n + d := by exact_mod_cast most
  have least' : (2 : ℚ) * n ≤ 2 * (d * nearestEven n d) + d := by exact_mod_cast least
  have floor := (fraction_bounds positive above below).1
  have product : (d : ℚ) * (n / d) = n := mul_div_cancel₀ _ dPositive.ne'
  have upperError : 2 * (nearestEven n d : ℚ) ≤ 2 * (n / d) + 1 := by
    apply le_of_mul_le_mul_left _ dPositive
    linarith
  have lowerError : 2 * ((n : ℚ) / d) ≤ 2 * nearestEven n d + 1 := by
    apply le_of_mul_le_mul_left _ dPositive
    linarith
  have half : |(nearestEven n d : ℚ) - n / d| ≤ (n : ℚ) / d / 2 ^ 53 := by
    rw [abs_le]
    constructor <;> linarith
  rw [value_ofRounded, ← sub_mul, abs_mul, abs_of_pos power, mul_div_right_comm]
  exact mul_le_mul_of_nonneg_right half power.le

/-- Exact numbers that are far enough from each other have different nearest doubles. -/
theorem IsNearest.rank_lt {x y : Normal} {first second : ℚ} (firstNearest : x.IsNearest first)
    (secondNearest : y.IsNearest second) (apart : (first + second) / 2 ^ 53 < second - first) :
    rankOf x.unpacked < rankOf y.unpacked := by
  have firstError := abs_le.1 firstNearest.error
  have secondError := abs_le.1 secondNearest.error
  apply lt_of_not_ge
  intro ranks
  have values := value_le_of_rank_le ranks
  have errors : (first + second) / 2 ^ 53 = first / 2 ^ 53 + second / 2 ^ 53 := add_div ..
  linarith [firstError.2, secondError.1]

end Normal

end Double

end SkillDispatch
