import SkillDispatch.Proofs.Candidates
import SkillDispatch.Proofs.DoubleOrder

set_option autoImplicit false

namespace SkillDispatch

/-- The score first, and of equal scores the number of literal tokens. -/
def Alignment.Scored.key (scored : Alignment.Scored) : (ℤ ×ₗ ℤ ×ₗ ℤ) ×ₗ ℕ :=
  toLex (scored.score.rank, scored.alignment.literal)

/-- The key of an alignment with the score for how it accounts for the tokens. -/
def Alignment.worth (scorer : Scorer) (alignment : Alignment) : (ℤ ×ₗ ℤ ×ₗ ℤ) ×ₗ ℕ :=
  Alignment.Scored.key ⟨scorer alignment.account, alignment⟩

theorem Alignment.Scored.betterThan_iff (first second : Alignment.Scored) :
    first.betterThan second = true ↔ second.key < first.key := by
  have sameScore : first.score == second.score ↔ second.score.rank = first.score.rank := by
    rw [Confidence.beq_iff_rank, eq_comm]
  simp only [betterThan, Bool.or_eq_true, Bool.and_eq_true, decide_eq_true_iff, key,
    Prod.Lex.toLex_lt_toLex, Confidence.lt_iff_rank, sameScore]

/-- Alignments that score zero do not take part. -/
theorem Alignment.best_eq_argmax (scored : List Alignment.Scored) :
    Alignment.best scored = (scored.filter (!·.score.isZero)).argmax Alignment.Scored.key := by
  rw [Alignment.best, List.argmax, List.foldl_filter]
  congr 1
  funext kept offered
  cases offered.score.isZero with
  | true => rfl
  | false =>
    cases kept with
    | none => rfl
    | some current =>
      simp only [List.argAux, ← Alignment.Scored.betterThan_iff]
      rfl

/-- An alignment with the score that its coverage has. -/
def Alignment.scoredBy (scorer : Scorer) (count : Nat) (alignment : Alignment) :
    Alignment.Scored :=
  ⟨scorer (alignment.coverage count), alignment⟩

theorem Pattern.align_eq_argmax (scorer : Scorer) (pattern : Pattern) (tokens : List Token) :
    pattern.align scorer tokens =
      (((Alignment.candidates pattern tokens).map (Alignment.scoredBy scorer tokens.length)).filter
        (!·.score.isZero)).argmax Alignment.Scored.key :=
  Alignment.best_eq_argmax _

/-- Of two ways to account for as many tokens, as many of them literal, the one with the wider gap
does not score higher. -/
def GapAverse (scorer : Scorer) : Prop :=
  ∀ narrow wide : Coverage, narrow.total = wide.total → narrow.literal = wide.literal →
    narrow.gap < wide.gap → ¬scorer narrow < scorer wide

theorem GapAverse.rank_le {scorer : Scorer} (averse : GapAverse scorer) {narrow wide : Coverage}
    (total : narrow.total = wide.total) (literal : narrow.literal = wide.literal)
    (gap : narrow.gap ≤ wide.gap) : (scorer wide).rank ≤ (scorer narrow).rank := by
  rcases Nat.lt_or_eq_of_le gap with less | same
  · have notLess := averse narrow wide total literal less
    rw [Confidence.lt_iff_rank] at notLess
    exact not_lt.1 notLess
  · have equal : narrow = wide := by
      rcases narrow with ⟨_, captured, _⟩
      rcases wide with ⟨_, captured', _⟩
      cases literal
      cases same
      simp only [Coverage.total, Nat.add_right_cancel_iff, Nat.add_left_cancel_iff] at total
      rw [total]
    rw [equal]

variable {scorer : Scorer} {definition : PatternDefinition} {pattern : Pattern}
  {tokens : List Token}

theorem PatternDefinition.Aligns.coverage_tokens {alignment : Alignment}
    (aligns : definition.Aligns (tokens.map Token.value) alignment) :
    alignment.coverage tokens.length = alignment.account := by
  rw [← aligns.coverage_eq, List.length_map]

theorem PatternDefinition.Aligns.total_account {alignment : Alignment}
    (aligns : definition.Aligns (tokens.map Token.value) alignment) :
    alignment.account.total = tokens.length := by
  rw [aligns.conserves, List.length_map]

/-- The best alignment is one of those that score above zero. -/
theorem PatternDefinition.align_sound (compiled : definition.compile = .ok pattern)
    {found : Alignment.Scored} (isBest : pattern.align scorer tokens = some found) :
    definition.Aligns (tokens.map Token.value) found.alignment ∧ 0 < found.alignment.literal ∧
      found.score = scorer found.alignment.account ∧ found.score.isZero = false := by
  rw [Pattern.align_eq_argmax] at isBest
  obtain ⟨member, nonZero⟩ := List.mem_filter.1 (List.argmax_mem isBest)
  obtain ⟨alignment, candidate, scored⟩ := List.mem_map.1 member
  obtain ⟨aligns, positive⟩ := aligns_of_mem_candidates compiled candidate
  subst scored
  refine ⟨aligns, positive, ?_, by simpa using nonZero⟩
  rw [Alignment.scoredBy, aligns.coverage_tokens]

/-- What a scorer says of other numbers of tokens does not count. -/
theorem Pattern.align_congr {other : Scorer} (compiled : definition.compile = .ok pattern)
    (same : ∀ coverage : Coverage, coverage.total = tokens.length →
      scorer coverage = other coverage) :
    pattern.align scorer tokens = pattern.align other tokens := by
  have scores : (Alignment.candidates pattern tokens).map (Alignment.scoredBy scorer tokens.length) =
      (Alignment.candidates pattern tokens).map (Alignment.scoredBy other tokens.length) := by
    refine List.map_congr_left fun alignment candidate => ?_
    have aligns := (PatternDefinition.aligns_of_mem_candidates compiled candidate).1
    rw [Alignment.scoredBy, Alignment.scoredBy, aligns.coverage_tokens, same _ aligns.total_account]
  rw [Pattern.align_eq_argmax, Pattern.align_eq_argmax, scores]

theorem PatternDefinition.Aligns.key_scoredBy {alignment : Alignment}
    (aligns : definition.Aligns (tokens.map Token.value) alignment) :
    (alignment.scoredBy scorer tokens.length).key = alignment.worth scorer := by
  rw [Alignment.scoredBy, aligns.coverage_tokens]
  rfl

/-- An alignment that scores above zero has a candidate from the same start that scores above zero
too and is worth no less. -/
theorem PatternDefinition.exists_competitorFrom (compiled : definition.compile = .ok pattern)
    (averse : GapAverse scorer) {start : Nat} (inBounds : start ≤ tokens.length)
    {alignment : Alignment} (found : alignment ∈ definition.alignmentsFrom (tokens.map Token.value) start)
    (positive : 0 < alignment.literal) (nonZero : (scorer alignment.account).isZero = false) :
    ∃ competitor ∈ ((pattern.candidatesFrom tokens start).map
        (Alignment.scoredBy scorer tokens.length)).filter (!·.score.isZero),
      alignment.worth scorer ≤ competitor.key := by
  have aligns := definition.aligns_of_mem_alignmentsFrom inBounds found
  obtain ⟨candidate, member, literal, gap⟩ := exists_candidateFrom compiled inBounds found positive
  have candidateAligns := (aligns_of_mem_candidatesFrom compiled inBounds member).1
  have total := candidateAligns.conserves.trans aligns.conserves.symm
  have notWorse : (scorer alignment.account).rank ≤ (scorer candidate.account).rank :=
    averse.rank_le total literal gap
  refine ⟨candidate.scoredBy scorer tokens.length,
    List.mem_filter.2 ⟨List.mem_map.2 ⟨candidate, member, rfl⟩, ?_⟩, ?_⟩
  · rw [Alignment.scoredBy, candidateAligns.coverage_tokens, Bool.not_eq_true',
      Confidence.isZero_eq_false_iff]
    exact lt_of_lt_of_le ((Confidence.isZero_eq_false_iff _).1 nonZero) notWorse
  · rw [candidateAligns.key_scoredBy, Alignment.worth, Alignment.worth, Alignment.Scored.key,
      Alignment.Scored.key, Prod.Lex.toLex_le_toLex']
    exact ⟨notWorse, fun _ => literal.ge⟩

/-- For a scorer that prefers narrow gaps nothing worth more was dropped. -/
theorem PatternDefinition.Aligns.exists_align_worth_le (compiled : definition.compile = .ok pattern)
    (averse : GapAverse scorer) {alignment : Alignment}
    (aligns : definition.Aligns (tokens.map Token.value) alignment) (positive : 0 < alignment.literal)
    (nonZero : (scorer alignment.account).isZero = false) :
    ∃ found, pattern.align scorer tokens = some found ∧ alignment.worth scorer ≤ found.key := by
  obtain ⟨start, range, fromStart⟩ :=
    List.mem_flatMap.1 ((definition.mem_alignments_iff alignment).2 aligns)
  rw [List.length_map] at range
  have inBounds : start ≤ tokens.length := Nat.lt_succ_iff.1 (List.mem_range.1 range)
  obtain ⟨competitor, competes, noLess⟩ :=
    exists_competitorFrom compiled averse inBounds fromStart positive nonZero
  have amongAll : competitor ∈ ((Alignment.candidates pattern tokens).map
      (Alignment.scoredBy scorer tokens.length)).filter (!·.score.isZero) := by
    rw [Alignment.candidates_eq_flatMap, List.map_flatMap, List.filter_flatMap]
    exact List.mem_flatMap.2 ⟨start, range, competes⟩
  cases isBest : pattern.align scorer tokens with
  | none =>
    rw [Pattern.align_eq_argmax, List.argmax_eq_none] at isBest
    rw [isBest] at amongAll
    cases amongAll
  | some found =>
    rw [Pattern.align_eq_argmax] at isBest
    exact ⟨found, rfl, noLess.trans (List.le_of_mem_argmax amongAll isBest)⟩

/-- For a scorer that prefers narrow gaps nothing better was dropped. -/
theorem PatternDefinition.Aligns.exists_align (compiled : definition.compile = .ok pattern)
    (averse : GapAverse scorer) {alignment : Alignment}
    (aligns : definition.Aligns (tokens.map Token.value) alignment) (positive : 0 < alignment.literal)
    (nonZero : (scorer alignment.account).isZero = false) :
    ∃ found, pattern.align scorer tokens = some found ∧
      ¬found.score < scorer alignment.account := by
  obtain ⟨found, isBest, noLess⟩ := aligns.exists_align_worth_le compiled averse positive nonZero
  have scores : (scorer alignment.account).rank ≤ found.score.rank :=
    Prod.Lex.monotone_fst _ _ noLess
  refine ⟨found, isBest, ?_⟩
  rw [Confidence.lt_iff_rank, not_lt]
  exact scores

end SkillDispatch
