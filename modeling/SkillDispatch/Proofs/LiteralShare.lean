import SkillDispatch.Coverage
import SkillDispatch.Proofs.DoubleRounding

set_option autoImplicit false

namespace SkillDispatch

namespace Double

theorem rank_of_isNormal {x : Float} {normal : Normal} (isNormal : IsNormal x normal) :
    rank x = rankOf normal.unpacked := by
  rw [IsNormal] at isNormal
  rw [rank, isNormal]

theorem isNumber_of_isNormal {x : Float} {normal : Normal} (isNormal : IsNormal x normal) :
    x.isNaN = false := by
  have unfolded : x.isNaN = x.toModel.unpack.isNaN := rfl
  rw [IsNormal] at isNormal
  rw [unfolded, isNormal]
  rfl

theorem rank_one : rank 1.0 = toLex (1, toLex (-52, 2 ^ 52)) := by
  decide

/-- In the highest place a fraction has up to one, only one itself is left. -/
theorem nearestEven_eq_of_le_one {n d : ℕ} (positive : 0 < d) (above : 2 ^ 52 * d ≤ n)
    (small : (n : ℚ) / d * 2 ^ (-52 : ℤ) ≤ 1) : nearestEven n d = 2 ^ 52 := by
  have ceiling : (n : ℚ) / d ≤ 2 ^ 52 := by
    rw [zpow_neg, ← div_eq_mul_inv, div_le_one (by positivity)] at small
    exact_mod_cast small
  have dPositive : (0 : ℚ) < d := by exact_mod_cast positive
  rw [div_le_iff₀ dPositive] at ceiling
  have most : n ≤ 2 ^ 52 * d := by exact_mod_cast ceiling
  have multiple := nearestEven_mul_right (2 ^ 52) 1 d Nat.one_pos positive
  rw [Nat.one_mul, nearestEven_one] at multiple
  rw [Nat.le_antisymm most above]
  exact multiple

theorem Normal.IsNearest.rank_le_one {x : Normal} {exact : ℚ} (nearest : x.IsNearest exact)
    (small : exact ≤ 1) : rankOf x.unpacked ≤ rank 1.0 := by
  obtain ⟨n, d, e, lower, upper, positive, above, below, rfl, rfl⟩ := nearest
  have bounds := fraction_bounds positive above below
  have exponent : e ≤ -52 := by
    by_contra large
    have power : (2 : ℚ) ^ (-51 : ℤ) ≤ 2 ^ e := zpow_le_zpow_right₀ one_le_two (by omega)
    have product : (2 : ℚ) ^ 52 * 2 ^ (-51 : ℤ) ≤ n / d * 2 ^ e :=
      mul_le_mul bounds.1 power (by positivity) (by linarith)
    have two : (2 : ℚ) ^ 52 * 2 ^ (-51 : ℤ) = 2 := by norm_num
    linarith
  have exactlyOne : e = -52 → nearestEven n d = 2 ^ 52 := by
    intro highest
    exact nearestEven_eq_of_le_one positive above (highest ▸ small)
  rw [rank_one]
  unfold ofRounded unpacked
  split
  · rename_i grown
    have lower : e ≠ -52 := by
      intro highest
      rw [exactlyOne highest] at grown
      omega
    simp only [rankOf, Prod.Lex.toLex_le_toLex, lt_self_iff_false, false_or, true_and]
    omega
  · simp only [rankOf, Prod.Lex.toLex_le_toLex, lt_self_iff_false, false_or, true_and]
    rcases lt_or_eq_of_le exponent with less | equal
    · exact Or.inl less
    · rw [exactlyOne equal]
      exact Or.inr ⟨equal, le_refl _⟩

/-- A positive double stays above zero, and a fraction up to one stays below it. -/
theorem Normal.IsNearest.in_range {x : Float} {normal : Normal} {exact : ℚ}
    (isNormal : IsNormal x normal) (nearest : normal.IsNearest exact) (small : exact ≤ 1) :
    0.0 ≤ x ∧ x ≤ 1.0 := by
  have number := isNumber_of_isNormal isNormal
  rw [le_iff, le_iff, rank_of_isNormal isNormal, rank_zero]
  refine ⟨⟨by decide, number, ?_⟩, number, by decide, nearest.rank_le_one small⟩
  simp [rankOf, Normal.unpacked, Prod.Lex.toLex_le_toLex]

end Double

/-- The share of literal tokens among those that are not captured, as a fraction. -/
def Coverage.share (coverage : Coverage) : ℚ :=
  coverage.literal / (coverage.literal + coverage.gap)

theorem Coverage.share_fraction (coverage : Coverage) {bound : ℕ} (positive : 0 < coverage.literal)
    (small : coverage.literal + coverage.gap < bound) :
    ∃ sum : ℕ, 0 < sum ∧ sum < bound ∧ coverage.literal ≤ sum ∧
      coverage.share = (coverage.literal : ℚ) / sum := by
  refine ⟨coverage.literal + coverage.gap, by omega, small, Nat.le_add_right _ _, ?_⟩
  rw [Coverage.share, Nat.cast_add]

/-- The confidence is the double nearest to the share. -/
theorem literalShare_isNearest (coverage : Coverage) (positive : 0 < coverage.literal)
    (small : coverage.literal + coverage.gap < 2 ^ 53) :
    ∃ normal, Double.IsNormal (literalShare coverage).value normal ∧
      normal.IsNearest coverage.share := by
  have literalSmall : coverage.literal < 2 ^ 53 := by omega
  have sumPositive : 0 < coverage.literal + coverage.gap := by omega
  have exponents : ∀ n : ℕ, 0 < n → n < 2 ^ 53 →
      -52 ≤ (n.log2 : ℤ) - 52 ∧ (n.log2 : ℤ) - 52 ≤ 52 := by
    intro n nPositive nSmall
    have length := (Nat.log2_lt nPositive.ne').2 nSmall
    omega
  obtain ⟨normal, isNormal, nearest⟩ := Double.Normal.div_isNearest
    (Double.isNormal_toFloat _ positive literalSmall) (Double.isNormal_toFloat _ sumPositive small)
    (exponents _ positive literalSmall) (exponents _ sumPositive small)
  rw [Double.Normal.value_ofNat, Double.Normal.value_ofNat, Nat.cast_add] at nearest
  have atMostOne : coverage.share ≤ 1 := by
    apply div_le_one_of_le₀
    · exact_mod_cast Nat.le_add_right _ _
    · exact_mod_cast Nat.zero_le _
  have range := nearest.in_range isNormal atMostOne
  refine ⟨normal, ?_, nearest⟩
  rw [literalShare, if_neg positive.ne', Confidence.ofFloat, dif_pos range]
  exact isNormal

/-- Doubles keep the order of the shares of up to `count` tokens. -/
def SharesInOrder (count : ℕ) : Prop :=
  ∀ first second : Coverage, first.literal + first.gap ≤ count →
    second.literal + second.gap ≤ count →
      (literalShare first < literalShare second ↔ first.share < second.share)

/-- Different fractions up to one, of denominators below 2 ^ 26, differ by more than rounding can
move them: by at least one part in the product of the denominators. -/
theorem fractions_apart {a b c d : ℕ} (bPositive : 0 < b) (dPositive : 0 < d) (most : a ≤ b)
    (otherMost : c ≤ d) (small : b < 2 ^ 26) (otherSmall : d < 2 ^ 26)
    (less : (a : ℚ) / b < c / d) :
    ((a : ℚ) / b + c / d) / 2 ^ 53 < (c : ℚ) / d - a / b := by
  have bCast : (0 : ℚ) < b := by exact_mod_cast bPositive
  have dCast : (0 : ℚ) < d := by exact_mod_cast dPositive
  have atMostOne : (a : ℚ) / b ≤ 1 := div_le_one_of_le₀ (by exact_mod_cast most) bCast.le
  have otherAtMostOne : (c : ℚ) / d ≤ 1 :=
    div_le_one_of_le₀ (by exact_mod_cast otherMost) dCast.le
  have products : (a : ℚ) * d + 1 ≤ c * b := by
    rw [div_lt_div_iff₀ bCast dCast] at less
    have apart : a * d + 1 ≤ c * b := by exact_mod_cast less
    exact_mod_cast apart
  have denominators : (b : ℚ) * d < 2 ^ 52 := by
    have bound : b * d < 2 ^ 26 * 2 ^ 26 := Nat.mul_lt_mul_of_lt_of_lt small otherSmall
    exact_mod_cast bound
  calc ((a : ℚ) / b + c / d) / 2 ^ 53
      ≤ (1 : ℚ) / 2 ^ 52 := by
        rw [div_le_div_iff₀ (by positivity) (by positivity)]
        linarith
    _ < (1 : ℚ) / (b * d) := one_div_lt_one_div_of_lt (by positivity) denominators
    _ ≤ (c : ℚ) / d - a / b := by
        rw [div_sub_div _ _ dCast.ne' bCast.ne', mul_comm (b : ℚ)]
        apply div_le_div_of_nonneg_right _ (by positivity)
        linarith

theorem share_apart {first second : Coverage} {count : ℕ} (small : count < 2 ^ 26)
    (firstPositive : 0 < first.literal) (secondPositive : 0 < second.literal)
    (firstCount : first.literal + first.gap ≤ count)
    (secondCount : second.literal + second.gap ≤ count) (less : first.share < second.share) :
    (first.share + second.share) / 2 ^ 53 < second.share - first.share := by
  obtain ⟨firstSum, firstSumPositive, firstSmall, firstMost, firstShare⟩ :=
    first.share_fraction firstPositive (lt_of_le_of_lt firstCount small)
  obtain ⟨secondSum, secondSumPositive, secondSmall, secondMost, secondShare⟩ :=
    second.share_fraction secondPositive (lt_of_le_of_lt secondCount small)
  rw [firstShare, secondShare] at less ⊢
  exact fractions_apart firstSumPositive secondSumPositive firstMost secondMost firstSmall
    secondSmall less

theorem literalShare_of_not_pos {coverage : Coverage} (none : ¬0 < coverage.literal) :
    literalShare coverage = .zero ∧ coverage.share = 0 := by
  have noLiteral : coverage.literal = 0 := Nat.eq_zero_of_not_pos none
  rw [literalShare, Coverage.share, noLiteral]
  simp

theorem literalShare_pos {coverage : Coverage} (positive : 0 < coverage.literal)
    (small : coverage.literal + coverage.gap < 2 ^ 53) :
    Confidence.zero < literalShare coverage ∧ 0 < coverage.share := by
  obtain ⟨normal, isNormal, -⟩ := literalShare_isNearest coverage positive small
  constructor
  · have rank := Double.rank_of_isNormal isNormal
    rw [Confidence.lt_iff_rank, Confidence.rank, Confidence.rank, rank, Confidence.zero,
      Double.rank_zero]
    simp [Double.rankOf, Double.Normal.unpacked, Prod.Lex.toLex_lt_toLex]
  · have cast : (0 : ℚ) < coverage.literal := by exact_mod_cast positive
    rw [Coverage.share]
    positivity

/-- Below 2 ^ 26 tokens doubles keep the order of the shares. -/
theorem sharesInOrder_of_lt {count : ℕ} (small : count < 2 ^ 26) : SharesInOrder count := by
  intro first second firstCount secondCount
  by_cases firstPositive : 0 < first.literal
  · by_cases secondPositive : 0 < second.literal
    · obtain ⟨x, firstNormal, firstNearest⟩ :=
        literalShare_isNearest first firstPositive (by omega)
      obtain ⟨y, secondNormal, secondNearest⟩ :=
        literalShare_isNearest second secondPositive (by omega)
      rw [Confidence.lt_iff_rank, Confidence.rank, Confidence.rank,
        Double.rank_of_isNormal firstNormal, Double.rank_of_isNormal secondNormal]
      rcases lt_trichotomy first.share second.share with less | same | more
      · have apart := share_apart small firstPositive secondPositive firstCount secondCount less
        exact iff_of_true (firstNearest.rank_lt secondNearest apart) less
      · rw [same] at firstNearest
        rw [firstNearest.unique secondNearest, same]
        exact iff_of_false (lt_irrefl _) (lt_irrefl _)
      · have apart := share_apart small secondPositive firstPositive secondCount firstCount more
        exact iff_of_false (secondNearest.rank_lt firstNearest apart).asymm more.asymm
    · obtain ⟨zero, noShare⟩ := literalShare_of_not_pos secondPositive
      obtain ⟨above, share⟩ := literalShare_pos firstPositive (by omega)
      rw [zero, noShare]
      rw [Confidence.lt_iff_rank] at above ⊢
      exact iff_of_false above.asymm share.asymm
  · obtain ⟨zero, noShare⟩ := literalShare_of_not_pos firstPositive
    rw [zero, noShare]
    by_cases secondPositive : 0 < second.literal
    · obtain ⟨above, share⟩ := literalShare_pos secondPositive (by omega)
      exact iff_of_true above share
    · obtain ⟨zero', noShare'⟩ := literalShare_of_not_pos secondPositive
      rw [zero', noShare', Confidence.lt_iff_rank]
      exact iff_of_false (lt_irrefl _) (lt_irrefl _)

theorem SharesInOrder.nonZero {count : ℕ} (ordered : SharesInOrder count) {coverage : Coverage}
    (positive : 0 < coverage.literal) (inCount : coverage.literal + coverage.gap ≤ count) :
    (literalShare coverage).isZero = false := by
  have cast : (0 : ℚ) < coverage.literal := by exact_mod_cast positive
  have share : (⟨0, 0, 0⟩ : Coverage).share < coverage.share := by
    simp only [Coverage.share, Nat.cast_zero, zero_div]
    positivity
  have above := (ordered ⟨0, 0, 0⟩ coverage (Nat.zero_le _) inCount).2 share
  rw [Confidence.lt_iff_rank] at above
  rw [Confidence.isZero_eq_false_iff]
  exact above

end SkillDispatch
