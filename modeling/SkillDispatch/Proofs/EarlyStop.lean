import SkillDispatch.Proofs.BestAlignment
import SkillDispatch.Proofs.BestFit

set_option autoImplicit false

namespace SkillDispatch

namespace Recognition

/-- The best fit among `kept` and the patterns from `index` on, all of which are looked at. -/
def bestFitOfAll (scorer : Scorer) (tokens : List Token) :
    Nat → List Pattern → Option Fit → Option Fit
  | _, [], kept => kept
  | index, pattern :: rest, kept =>
    match pattern.align scorer tokens with
    | none => bestFitOfAll scorer tokens (index + 1) rest kept
    | some found =>
      let offered : Fit := ⟨index, found⟩
      bestFitOfAll scorer tokens (index + 1) rest
        (if offered.improves kept then some offered else kept)

theorem improves_certain (offered : Fit) {kept : Fit}
    (certain : (kept.best.score == .certain) = true) : offered.improves (some kept) = false := by
  rw [Fit.improves, decide_eq_false_iff_not, Confidence.lt_iff_rank, not_lt,
    (Confidence.beq_iff_rank _ _).1 certain]
  exact Confidence.rank_le_certain _

variable {scorer : Scorer} {tokens : List Token}

theorem bestFitOfAll_certain (index : Nat) (patterns : List Pattern) (kept : Fit)
    (certain : (kept.best.score == .certain) = true) :
    bestFitOfAll scorer tokens index patterns (some kept) = some kept := by
  induction patterns generalizing index with
  | nil => rfl
  | cons pattern rest ih =>
    rw [bestFitOfAll]
    cases pattern.align scorer tokens with
    | none => exact ih (index + 1)
    | some found =>
      simp only [improves_certain _ certain, Bool.false_eq_true, if_false]
      exact ih (index + 1)

/-- The search that stops early comes to the same as the one that does not. -/
theorem bestFit_eq_bestFitOfAll (index : Nat) (patterns : List Pattern) (kept : Option Fit) :
    bestFit scorer tokens index patterns kept =
      bestFitOfAll scorer tokens index patterns kept := by
  induction patterns generalizing index kept with
  | nil => rfl
  | cons pattern rest ih =>
    cases aligned : pattern.align scorer tokens with
    | none =>
      rw [bestFit, bestFitOfAll, aligned]
      exact ih (index + 1) kept
    | some found =>
      let offered : Fit := ⟨index, found⟩
      rw [bestFit_cons_of_align aligned, bestFitOfAll, aligned]
      show _ = bestFitOfAll scorer tokens (index + 1) rest
        (if offered.improves kept then some offered else kept)
      by_cases improves : offered.improves kept = true
      · rw [if_pos improves, if_pos improves]
        by_cases certain : (found.score == .certain) = true
        · rw [if_pos certain, bestFitOfAll_certain (index + 1) rest offered certain]
        · rw [if_neg certain, ih]
      · rw [if_neg improves, if_neg improves, ih]

end Recognition

def recognizeAmongAll (scorer : Scorer) (patterns : List Pattern) (utterance : Utterance) : Match :=
  if utterance.isEmpty then .none
  else match Recognition.bestFitOfAll scorer utterance.tokens 0 patterns none with
    | some fit => ⟨fit.best.score, some fit.index, fit.best.alignment.slots utterance⟩
    | none => .none

def Pattern.alone (scorer : Scorer) (utterance : Utterance) (pattern : Pattern) : Match :=
  recognize scorer [pattern] utterance

/-- The result is that of the first pattern which, alone, scores highest; there is none where no
pattern matches alone. -/
def FirstHighest (scorer : Scorer) (patterns : List Pattern) (utterance : Utterance)
    (result : Match) : Prop :=
  match result.pattern with
  | none => result = .none ∧ ∀ pattern ∈ patterns, pattern.alone scorer utterance = .none
  | some index => ∃ pattern, patterns[index]? = some pattern ∧
      (pattern.alone scorer utterance).isMatch = true ∧
      result.score = (pattern.alone scorer utterance).score ∧
      result.slots = (pattern.alone scorer utterance).slots ∧
      (∀ other ∈ patterns, ¬result.score < (other.alone scorer utterance).score) ∧
      ∀ earlier < index, ∀ other, patterns[earlier]? = some other →
        (other.alone scorer utterance).score < result.score

variable {scorer : Scorer} {patterns : List Pattern} {utterance : Utterance}

theorem Pattern.zero_lt_of_align {pattern : Pattern} {tokens : List Token}
    {found : Alignment.Scored} (aligned : pattern.align scorer tokens = some found) :
    Confidence.zero < found.score := by
  rw [Pattern.align_eq_argmax] at aligned
  have nonZero := (List.mem_filter.1 (List.argmax_mem aligned)).2
  rw [Bool.not_eq_true', Confidence.isZero_eq_false_iff] at nonZero
  rw [Confidence.lt_iff_rank]
  exact nonZero

/-- Alone, a pattern scores as its best alignment does, and zero without one. -/
theorem Pattern.alone_score (pattern : Pattern) (tokens : utterance.isEmpty = false) :
    (pattern.alone scorer utterance).score =
      match pattern.align scorer utterance.tokens with
      | some found => found.score
      | none => .zero := by
  cases aligned : pattern.align scorer utterance.tokens with
  | some found => rw [alone, recognize_alone tokens aligned]
  | none =>
    rw [alone, recognize_alone_none aligned]
    rfl

theorem recognize_firstHighest (scorer : Scorer) (patterns : List Pattern)
    (utterance : Utterance) :
    FirstHighest scorer patterns utterance (recognize scorer patterns utterance) := by
  unfold FirstHighest
  split
  · rename_i noPattern
    obtain ⟨noMatch, reason⟩ := recognize_none noPattern
    refine ⟨noMatch, ?_⟩
    intro pattern member
    rcases reason with empty | noneFits
    · rw [Pattern.alone, recognize, if_pos empty]
    · exact recognize_alone_none (noneFits pattern member)
  · rename_i index isPattern
    have tokens : utterance.isEmpty = false := by
      rw [Bool.eq_false_iff]
      intro empty
      rw [recognize, if_pos empty] at isPattern
      cases isPattern
    obtain ⟨pattern, found, atIndex, aligned, result, notBetter, worse⟩ :=
      recognize_some isPattern
    have positive := Pattern.zero_lt_of_align aligned
    rw [result]
    refine ⟨pattern, atIndex, ?_, ?_, ?_, ?_, ?_⟩
    · rw [Confidence.lt_iff_rank, ← Confidence.isZero_eq_false_iff] at positive
      rw [Pattern.alone, recognize_alone tokens aligned, Match.isMatch, positive]
      rfl
    · rw [Pattern.alone, recognize_alone tokens aligned]
    · rw [Pattern.alone, recognize_alone tokens aligned]
    · intro other member
      rw [other.alone_score tokens]
      cases otherAligned : other.align scorer utterance.tokens with
      | some otherFound => exact notBetter other member otherFound otherAligned
      | none =>
        rw [Confidence.lt_iff_rank] at positive ⊢
        exact positive.asymm
    · intro earlier before other atEarlier
      rw [other.alone_score tokens]
      cases otherAligned : other.align scorer utterance.tokens with
      | some otherFound => exact worse earlier before other atEarlier otherFound otherAligned
      | none => exact positive

/-- Whatever the scorer is, recognition comes to what it would come to without its early stop: to the
first pattern that scores highest alone, with a score from zero to one. -/
theorem recognize_early_stop (scorer : Scorer) (patterns : List Pattern) (utterance : Utterance) :
    recognize scorer patterns utterance = recognizeAmongAll scorer patterns utterance ∧
      FirstHighest scorer patterns utterance (recognize scorer patterns utterance) ∧
      (recognize scorer patterns utterance).score.value.isNaN = false ∧
      0.0 ≤ (recognize scorer patterns utterance).score.value ∧
      (recognize scorer patterns utterance).score.value ≤ 1.0 := by
  refine ⟨?_, recognize_firstHighest scorer patterns utterance, ?_, ?_, ?_⟩
  · rw [recognizeAmongAll, ← Recognition.bestFit_eq_bestFitOfAll]
    rfl
  · exact Confidence.value_isNumber _
  · exact Confidence.zero_le _
  · exact Confidence.le_one _

end SkillDispatch
