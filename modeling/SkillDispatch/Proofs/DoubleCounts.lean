import SkillDispatch.Proofs.LiteralShare

set_option autoImplicit false

/- Counts of up to 64 bits as doubles. Rounding keeps the order of numbers, so the share of literal
tokens does not grow with the gap, however many tokens there are. -/
namespace SkillDispatch

namespace Double

open Float.Model Float.Model.UnpackedFloat

/-- A greater number does not have a smaller nearest natural number. -/
theorem nearestEven_mono {first second denominator : ℕ} (positive : 0 < denominator)
    (ordered : first ≤ second) : nearestEven first denominator ≤ nearestEven second denominator := by
  have quotients : first / denominator ≤ second / denominator := Nat.div_le_div_right ordered
  rcases Nat.lt_or_eq_of_le quotients with less | same
  · have firstBounds := nearestEven_bounds first denominator positive
    have secondBounds := nearestEven_bounds second denominator positive
    omega
  · have firstDivision := Nat.div_add_mod first denominator
    have secondDivision := Nat.div_add_mod second denominator
    rw [← same] at secondDivision
    have remainders : first % denominator ≤ second % denominator := by omega
    rw [nearestEven_eq _ _ positive, nearestEven_eq _ _ positive, ← same]
    split_ifs <;> omega

theorem nearestEven_le {a b c d : ℕ} (bPositive : 0 < b) (dPositive : 0 < d)
    (ordered : a * d ≤ c * b) : nearestEven a b ≤ nearestEven c d := by
  have common : b * d = d * b := Nat.mul_comm b d
  calc nearestEven a b = nearestEven (a * d) (b * d) :=
        (nearestEven_mul_right a b d bPositive dPositive).symm
    _ ≤ nearestEven (c * b) (b * d) := nearestEven_mono (Nat.mul_pos bPositive dPositive) ordered
    _ = nearestEven c d := by rw [common, nearestEven_mul_right c d b dPositive bPositive]

namespace Normal

/-- Of two rounded significands the one with the higher exponent is not the smaller number. -/
theorem ofRounded_rank_le {first second : ℕ} {low high : ℤ} (lower : 2 ^ 52 ≤ first)
    (upper : first ≤ 2 ^ 53) (lower' : 2 ^ 52 ≤ second) (upper' : second ≤ 2 ^ 53)
    (ordered : low < high ∨ low = high ∧ first ≤ second) :
    rankOf (ofRounded first low lower upper).unpacked ≤
      rankOf (ofRounded second high lower' upper').unpacked := by
  unfold ofRounded unpacked
  split <;> split <;>
    simp only [rankOf, Prod.Lex.toLex_le_toLex, lt_self_iff_false, false_or, true_and] <;> omega

theorem value_pos (x : Normal) : 0 < x.value := by
  have significand : (0 : ℚ) < x.significand := by exact_mod_cast x.positive
  rw [value]
  positivity

theorem IsNearest.rank_le {x y : Normal} {first second : ℚ} (firstNearest : x.IsNearest first)
    (secondNearest : y.IsNearest second) (ordered : first ≤ second) :
    rankOf x.unpacked ≤ rankOf y.unpacked := by
  obtain ⟨n, d, e, lower, upper, positive, above, below, equal, rfl⟩ := firstNearest
  obtain ⟨n', d', e', lower', upper', positive', above', below', equal', rfl⟩ := secondNearest
  have bounds := fraction_bounds positive above below
  have bounds' := fraction_bounds positive' above' below'
  rw [equal, equal'] at ordered
  apply ofRounded_rank_le
  rcases lt_trichotomy e e' with less | same | more
  · exact Or.inl less
  · refine Or.inr ⟨same, nearestEven_le positive positive' ?_⟩
    have dPositive : (0 : ℚ) < d := by exact_mod_cast positive
    have dPositive' : (0 : ℚ) < d' := by exact_mod_cast positive'
    have fractions : (n : ℚ) / d ≤ n' / d' := by
      rw [same] at ordered
      exact le_of_mul_le_mul_right ordered (by positivity)
    rw [div_le_div_iff₀ dPositive dPositive'] at fractions
    exact_mod_cast fractions
  · exact absurd ordered (scaled_lt bounds'.2 bounds.1 more).not_ge

/-- A natural number with up to 53 places is its own nearest double. -/
theorem ofNat_isNearest (n : ℕ) (positive : 0 < n) (small : n < 2 ^ 53) :
    (ofNat n positive small).IsNearest n := by
  refine ⟨(ofNat n positive small).significand, 1, (ofNat n positive small).exponent, ?_, ?_,
    Nat.one_pos, ?_, ?_, ?_, ?_⟩
  · rw [nearestEven_one]
    exact (ofNat n positive small).lower
  · rw [nearestEven_one]
    exact (ofNat n positive small).upper.le
  · rw [Nat.mul_one]
    exact (ofNat n positive small).lower
  · rw [Nat.mul_one]
    exact (ofNat n positive small).upper
  · rw [Nat.cast_one, div_one]
    exact (value_ofNat n positive small).symm
  · simp only [nearestEven_one]
    exact (ofRounded_self _).symm

end Normal

/-- From 54 places on, a natural number is rounded once. -/
theorem toFloat_unpack {n : ℕ} (long : 2 ^ 53 ≤ n) :
    n.toFloat.toModel.unpack = (Float.Model.pack (roundWithAccuracy Format.binary64 .positive
      (n * 2 ^ 53) (-53) .exact)).unpack := by
  have scientific : n.toFloat = ⟨Float.Model.ofScientific n 0⟩ := by
    show Float.ofScientific n false 0 = _
    rw [Float.ofScientific, dif_neg (by omega)]
    rfl
  have product : UnpackedFloat.ofScientific Format.binary64 n 0 =
      roundWithAccuracy Format.binary64 .positive (n * 2 ^ 53) (-53) .exact := by
    have inRange : ¬(0 : ℤ) < -(2 ^ Format.binary64.exponentBits + (n.log2 : ℤ)) := by
      have range : (0 : ℤ) ≤ 2 ^ Format.binary64.exponentBits := by positivity
      omega
    have factor : 10 ^ Int.toNat 0 = 1 := rfl
    rw [UnpackedFloat.ofScientific, dif_neg (by omega), if_neg (by decide), if_neg inRange,
      if_pos (by decide), UnpackedFloat.mul, Nat.shiftLeft_eq, factor, Nat.mul_one]
    rfl
  rw [scientific, Float.Model.ofScientific, product]

/-- A count of up to 64 bits has its nearest double. -/
theorem exists_toFloat {n : ℕ} (positive : 0 < n) (small : n < 2 ^ 64) :
    ∃ x : Normal, IsNormal n.toFloat x ∧ x.IsNearest n ∧ -52 ≤ x.exponent ∧ x.exponent ≤ 52 := by
  by_cases short : n < 2 ^ 53
  · have length := (Nat.log2_lt positive.ne').2 short
    refine ⟨.ofNat n positive short, isNormal_toFloat n positive short,
      Normal.ofNat_isNearest n positive short, ?_⟩
    simp only [Normal.ofNat]
    omega
  · have length := (Nat.log2_lt positive.ne').2 small
    have above : 2 ^ 52 * (1 * 2 ^ (n.log2 + 1)) ≤ n * 2 ^ 53 := by
      have floor := Nat.log2_self_le positive.ne'
      rw [Nat.pow_succ]
      omega
    have below : n * 2 ^ 53 < 2 ^ 53 * (1 * 2 ^ (n.log2 + 1)) := by
      have ceiling := n.lt_log2_self
      omega
    obtain ⟨x, isRounded, most, least, nearest⟩ := Normal.round_isNearest (n * 2 ^ 53) 1
      (n.log2 + 1) (-53) Nat.one_pos above below (by omega)
    rw [Nat.div_one, Nat.mod_one] at isRounded
    have value : ((n * 2 ^ 53 : ℕ) : ℚ) / (1 : ℕ) * 2 ^ (-53 : ℤ) = n := by
      rw [zpow_neg]
      push_cast
      field_simp
    rw [value] at nearest
    refine ⟨x, ?_, nearest, by omega, by omega⟩
    rw [IsNormal, toFloat_unpack (Nat.le_of_not_lt short)]
    exact (congrArg (fun unpacked => (Float.Model.pack unpacked).unpack) isRounded).trans
      (x.unpack_pack (by omega) (by omega))

end Double

/-- The confidence is a quotient of two counts, each of them rounded, and is itself rounded. -/
theorem literalShare_quotient (coverage : Coverage) (positive : 0 < coverage.literal)
    (small : coverage.literal + coverage.gap < 2 ^ 64) :
    (literalShare coverage).value =
        coverage.literal.toFloat / (coverage.literal + coverage.gap).toFloat ∧
      ∃ x y z : Double.Normal, x.IsNearest coverage.literal ∧
        y.IsNearest (coverage.literal + coverage.gap : ℕ) ∧
        Double.IsNormal (literalShare coverage).value z ∧ z.IsNearest (x.value / y.value) := by
  obtain ⟨x, isX, xNearest, xRange⟩ := Double.exists_toFloat positive (by omega)
  obtain ⟨y, isY, yNearest, yRange⟩ := Double.exists_toFloat
    (Nat.lt_of_lt_of_le positive (Nat.le_add_right _ coverage.gap)) small
  obtain ⟨z, isZ, nearest⟩ := Double.Normal.div_isNearest isX isY xRange yRange
  have ordered : (coverage.literal : ℚ) ≤ (coverage.literal + coverage.gap : ℕ) := by
    exact_mod_cast Nat.le_add_right _ _
  have values := Double.Normal.value_le_of_rank_le (xNearest.rank_le yNearest ordered)
  have atMostOne : x.value / y.value ≤ 1 := (div_le_one y.value_pos).2 values
  have range := nearest.in_range isZ atMostOne
  have value : (literalShare coverage).value =
      coverage.literal.toFloat / (coverage.literal + coverage.gap).toFloat := by
    rw [literalShare, if_neg positive.ne', Confidence.ofFloat, dif_pos range]
  rw [value]
  exact ⟨rfl, x, y, z, xNearest, yNearest, isZ, nearest⟩

/-- A wider gap does not have a greater share of literal tokens. -/
theorem literalShare_rank_le {narrow wide : Coverage} (positive : 0 < narrow.literal)
    (literal : narrow.literal = wide.literal) (gap : narrow.gap ≤ wide.gap)
    (small : wide.literal + wide.gap < 2 ^ 64) :
    (literalShare wide).rank ≤ (literalShare narrow).rank := by
  obtain ⟨-, x, y, z, xNearest, yNearest, isZ, zNearest⟩ :=
    literalShare_quotient narrow positive (by omega)
  obtain ⟨-, x', y', z', xNearest', yNearest', isZ', zNearest'⟩ :=
    literalShare_quotient wide (by omega) small
  rw [← literal] at xNearest'
  obtain rfl := xNearest.unique xNearest'
  have sums : ((narrow.literal + narrow.gap : ℕ) : ℚ) ≤ (wide.literal + wide.gap : ℕ) := by
    exact_mod_cast (by omega : narrow.literal + narrow.gap ≤ wide.literal + wide.gap)
  have values := Double.Normal.value_le_of_rank_le (yNearest.rank_le yNearest' sums)
  have quotients : x.value / y'.value ≤ x.value / y.value :=
    div_le_div_of_nonneg_left x.value_pos.le y.value_pos values
  rw [Confidence.rank, Confidence.rank, Double.rank_of_isNormal isZ, Double.rank_of_isNormal isZ']
  exact zNearest'.rank_le zNearest quotients

theorem literalShare_isZero {coverage : Coverage} (positive : 0 < coverage.literal)
    (small : coverage.literal + coverage.gap < 2 ^ 64) : (literalShare coverage).isZero = false := by
  obtain ⟨-, x, y, z, -, -, isZ, -⟩ := literalShare_quotient coverage positive small
  rw [Confidence.isZero_eq_false_iff, Confidence.rank, Confidence.rank, Double.rank_of_isNormal isZ]
  exact Prod.Lex.toLex_lt_toLex.2 (Or.inl Int.one_pos)

theorem Double.one_isNormal : Double.IsNormal 1.0 (.ofNat 1 (by decide) (by decide)) := by
  rfl

theorem literalShare_of_gap_eq_zero {coverage : Coverage} (positive : 0 < coverage.literal)
    (noGap : coverage.gap = 0) (small : coverage.literal < 2 ^ 64) :
    literalShare coverage = .certain := by
  have smallSum : coverage.literal + coverage.gap < 2 ^ 64 := by omega
  obtain ⟨-, x, y, z, xNearest, yNearest, isZ, nearest⟩ :=
    literalShare_quotient coverage positive smallSum
  rw [noGap, Nat.add_zero] at yNearest
  obtain rfl := xNearest.unique yNearest
  rw [div_self x.value_pos.ne'] at nearest
  have one := Double.Normal.ofNat_isNearest 1 (by decide) (by decide)
  rw [Nat.cast_one] at one
  obtain rfl := nearest.unique one
  apply Confidence.eq_of_rank_eq _ (literalShare_isZero positive smallSum)
  exact (Double.rank_of_isNormal isZ).trans (Double.rank_of_isNormal Double.one_isNormal).symm

end SkillDispatch
