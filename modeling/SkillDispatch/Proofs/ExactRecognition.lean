import SkillDispatch.Proofs.BestFit
import SkillDispatch.Proofs.SearchOrder

set_option autoImplicit false

namespace SkillDispatch

/-- The candidate with the highest share of literal tokens; of equal shares, the one with the most
literal tokens, and of these the first. -/
def Pattern.alignExactly (pattern : Pattern) (tokens : List Token) : Option Alignment :=
  (Alignment.candidates pattern tokens).argmax Alignment.merit

structure ExactMatch where
  score : ℚ
  /-- The index of the pattern that matched. -/
  pattern : Option ℕ
  slots : Slots

namespace Recognition

/-- The patterns that fit, each with its index and its best alignment, in their order. -/
def exactFits (tokens : List Token) (patterns : List Pattern) : List (ℕ × Alignment) :=
  patterns.zipIdx.filterMap fun (pattern, index) =>
    (pattern.alignExactly tokens).map fun alignment => (index, alignment)

/-- Fits are compared by the share of literal tokens. -/
def exactScore (fit : ℕ × Alignment) : ℚ :=
  fit.2.account.share

end Recognition

/-- Finds the first pattern with the highest share of literal tokens. -/
def recognizeExactly (patterns : List Pattern) (utterance : Utterance) : ExactMatch :=
  match (Recognition.exactFits utterance.tokens patterns).argmax Recognition.exactScore with
  | some fit => ⟨Recognition.exactScore fit, some fit.1, fit.2.slots utterance⟩
  | none => ⟨0, none, .empty⟩

theorem PatternDefinition.alignExactly_eq_choice {definition : PatternDefinition}
    {pattern : Pattern} (compiled : definition.compile = .ok pattern) (tokens : List Token) :
    pattern.alignExactly tokens = definition.choice (tokens.map Token.value) :=
  argmax_candidates compiled

namespace Recognition

theorem mem_exactFits_iff (tokens : List Token) (patterns : List Pattern) (fit : ℕ × Alignment) :
    fit ∈ exactFits tokens patterns ↔ ∃ pattern, patterns[fit.1]? = some pattern ∧
      pattern.alignExactly tokens = some fit.2 := by
  rcases fit with ⟨index, alignment⟩
  simp only [exactFits, List.mem_filterMap, Prod.exists, List.mk_mem_zipIdx_iff_getElem?,
    Option.map_eq_some_iff, Prod.mk.injEq]
  constructor
  · rintro ⟨pattern, _, atIndex, _, aligned, rfl, rfl⟩
    exact ⟨pattern, atIndex, aligned⟩
  · rintro ⟨pattern, atIndex, aligned⟩
    exact ⟨pattern, index, atIndex, alignment, aligned, rfl, rfl⟩

theorem exactFits_append_cons (tokens : List Token) (before after : List Pattern)
    {pattern other : Pattern} (same : other.alignExactly tokens = pattern.alignExactly tokens) :
    exactFits tokens (before ++ other :: after) = exactFits tokens (before ++ pattern :: after) := by
  simp only [exactFits, List.zipIdx_append, List.zipIdx_cons, List.filterMap_append,
    List.filterMap_cons, same]

theorem exactScore_nonneg (fit : ℕ × Alignment) : 0 ≤ exactScore fit := by
  rw [exactScore, Coverage.share]
  positivity

variable {scorer : Scorer} {tokens : List Token}

theorem fits_append_cons (index : ℕ) (before after : List Pattern) {pattern other : Pattern}
    (same : other.align scorer tokens = pattern.align scorer tokens) :
    fits scorer tokens index (before ++ other :: after) =
      fits scorer tokens index (before ++ pattern :: after) := by
  induction before generalizing index with
  | nil => rw [List.nil_append, List.nil_append, fits, fits, same]
  | cons first rest ih => rw [List.cons_append, List.cons_append, fits, fits, ih]

end Recognition

variable {scorer : Scorer} {utterance : Utterance} {pattern other : Pattern}

/-- A pattern may be replaced by one with the same best alignment. -/
theorem recognizeExactly_congr
    (same : other.alignExactly utterance.tokens = pattern.alignExactly utterance.tokens)
    (before after : List Pattern) :
    recognizeExactly (before ++ other :: after) utterance =
      recognizeExactly (before ++ pattern :: after) utterance := by
  rw [recognizeExactly, recognizeExactly, Recognition.exactFits_append_cons _ before after same]

theorem recognize_congr
    (same : other.align scorer utterance.tokens = pattern.align scorer utterance.tokens)
    (before after : List Pattern) :
    recognize scorer (before ++ other :: after) utterance =
      recognize scorer (before ++ pattern :: after) utterance := by
  rw [recognize, recognize, Recognition.bestFit_eq_argmax, Recognition.bestFit_eq_argmax,
    Recognition.fits_append_cons 0 before after same]

theorem exists_mem_replaced (Property : Pattern → Prop) {before after : List Pattern}
    {found : Pattern} (member : found ∈ before ++ pattern :: after)
    (replaces : found = pattern → Property other) (holds : Property found) :
    ∃ replaced ∈ before ++ other :: after, Property replaced := by
  rw [List.mem_append, List.mem_cons] at member
  rcases member with inBefore | same | inAfter
  · exact ⟨found, by simp [inBefore], holds⟩
  · exact ⟨other, by simp, replaces same⟩
  · exact ⟨found, by simp [inAfter], holds⟩

/-- With a better best alignment for one of the patterns the score is no lower. -/
theorem recognizeExactly_score_le
    (better : ∀ alignment, pattern.alignExactly utterance.tokens = some alignment →
      ∃ improved, other.alignExactly utterance.tokens = some improved ∧
        alignment.account.share ≤ improved.account.share)
    (before after : List Pattern) :
    (recognizeExactly (before ++ pattern :: after) utterance).score ≤
      (recognizeExactly (before ++ other :: after) utterance).score := by
  have nonneg : 0 ≤ (recognizeExactly (before ++ other :: after) utterance).score := by
    rw [recognizeExactly]
    split
    · exact Recognition.exactScore_nonneg _
    · exact le_refl _
  rw [recognizeExactly]
  split
  · rename_i fit isBest
    obtain ⟨found, atIndex, aligned⟩ :=
      (Recognition.mem_exactFits_iff ..).1 (List.argmax_mem isBest)
    obtain ⟨replaced, member, improved, improvedAligned, noLess⟩ :=
      exists_mem_replaced
        (fun replaced => ∃ improved, replaced.alignExactly utterance.tokens = some improved ∧
          fit.2.account.share ≤ improved.account.share)
        (List.mem_of_getElem? atIndex) (fun same => better fit.2 (same ▸ aligned))
        ⟨fit.2, aligned, le_refl _⟩
    obtain ⟨index, atReplaced⟩ := List.mem_iff_getElem?.1 member
    have competes : (index, improved) ∈ Recognition.exactFits utterance.tokens
        (before ++ other :: after) :=
      (Recognition.mem_exactFits_iff ..).2 ⟨replaced, atReplaced, improvedAligned⟩
    cases isHighest : (Recognition.exactFits utterance.tokens (before ++ other :: after)).argmax
        Recognition.exactScore with
    | none =>
      rw [List.argmax_eq_none.1 isHighest] at competes
      cases competes
    | some highest =>
      have most : Recognition.exactScore (index, improved) ≤ Recognition.exactScore highest :=
        List.le_of_mem_argmax competes isHighest
      rw [recognizeExactly, isHighest]
      exact noLess.trans most
  · exact nonneg

theorem recognize_score_not_lt
    (better : ∀ found, pattern.align scorer utterance.tokens = some found →
      ∃ improved, other.align scorer utterance.tokens = some improved ∧
        ¬improved.score < found.score)
    (before after : List Pattern) :
    ¬(recognize scorer (before ++ other :: after) utterance).score <
      (recognize scorer (before ++ pattern :: after) utterance).score := by
  rw [Confidence.lt_iff_rank, not_lt]
  cases isPattern : (recognize scorer (before ++ pattern :: after) utterance).pattern with
  | none =>
    rw [(recognize_none isPattern).1]
    exact Confidence.zero_rank_le _
  | some index =>
    obtain ⟨found, fit, atIndex, aligned, result, -⟩ := recognize_some isPattern
    obtain ⟨replaced, member, improved, improvedAligned, noLess⟩ :=
      exists_mem_replaced
        (fun replaced => ∃ improved, replaced.align scorer utterance.tokens = some improved ∧
          ¬improved.score < fit.score)
        (List.mem_of_getElem? atIndex) (fun same => better fit (same ▸ aligned))
        ⟨fit, aligned, by rw [Confidence.lt_iff_rank]; exact lt_irrefl _⟩
    rw [Confidence.lt_iff_rank, not_lt] at noLess
    cases isOther : (recognize scorer (before ++ other :: after) utterance).pattern with
    | none =>
      rcases (recognize_none isOther).2 with empty | noneFits
      · rw [recognize, if_pos empty] at isPattern
        cases isPattern
      · rw [noneFits replaced member] at improvedAligned
        cases improvedAligned
    | some otherIndex =>
      obtain ⟨_, highest, -, -, otherResult, best, -⟩ := recognize_some isOther
      have most := best replaced member improved improvedAligned
      rw [Confidence.lt_iff_rank, not_lt] at most
      rw [result, otherResult]
      exact noLess.trans most

variable {definitions : List PatternDefinition} {patterns : List Pattern} {tokens : List Token}

theorem Recognition.fits_eq_map_exactFits (compiled : CompileTo definitions patterns)
    (ordered : SharesInOrder tokens.length) :
    fits literalShare tokens 0 patterns = (exactFits tokens patterns).map fun fit =>
      ⟨fit.1, fit.2.scoredBy literalShare tokens.length⟩ := by
  rw [exactFits]
  generalize 0 = index
  induction compiled generalizing index with
  | nil => rfl
  | @cons definition pattern definitions patterns compiles _ ih =>
    rw [fits, ih, definition.align_eq_choice compiles ordered, List.zipIdx_cons,
      List.filterMap_cons]
    dsimp only
    rw [definition.alignExactly_eq_choice compiles]
    cases definition.choice (tokens.map Token.value) <;> rfl

theorem Recognition.exactScore_le_iff (compiled : CompileTo definitions patterns)
    (ordered : SharesInOrder tokens.length) {first second : ℕ × Alignment}
    (firstFits : first ∈ exactFits tokens patterns)
    (secondFits : second ∈ exactFits tokens patterns) :
    Fit.rank ⟨first.1, first.2.scoredBy literalShare tokens.length⟩ ≤
        Fit.rank ⟨second.1, second.2.scoredBy literalShare tokens.length⟩ ↔
      exactScore first ≤ exactScore second := by
  have account : ∀ fit ∈ exactFits tokens patterns,
      fit.2.coverage tokens.length = fit.2.account ∧
        fit.2.account.literal + fit.2.account.gap ≤ tokens.length := by
    intro fit member
    obtain ⟨pattern, atIndex, aligned⟩ := (mem_exactFits_iff ..).1 member
    obtain ⟨definition, -, compiles⟩ := compiled.definition_at atIndex
    have aligns := (definition.aligns_of_mem_candidates compiles (List.argmax_mem aligned)).1
    exact ⟨aligns.coverage_tokens, aligns.literal_add_gap_le⟩
  obtain ⟨firstCoverage, firstCount⟩ := account first firstFits
  obtain ⟨secondCoverage, secondCount⟩ := account second secondFits
  have shares := ordered second.2.account first.2.account secondCount firstCount
  rw [Confidence.lt_iff_rank] at shares
  rw [← not_lt, ← not_lt, exactScore, exactScore, ← shares, ← firstCoverage, ← secondCoverage]
  rfl

theorem Recognition.exactFits_nil (compiled : CompileTo definitions patterns) :
    exactFits [] patterns = [] := by
  apply List.eq_nil_iff_forall_not_mem.2
  intro fit member
  obtain ⟨pattern, atIndex, aligned⟩ := (mem_exactFits_iff ..).1 member
  obtain ⟨definition, -, compiles⟩ := compiled.definition_at atIndex
  rw [definition.alignExactly_eq_choice compiles, List.map_nil, definition.choice_nil] at aligned
  cases aligned

/-- Where doubles keep the order of the shares, recognition comes to the pattern and the slots that
it comes to with fractions. -/
theorem recognize_eq_exactly (compiled : CompileTo definitions patterns)
    (ordered : SharesInOrder utterance.length) :
    (recognize literalShare patterns utterance).pattern =
        (recognizeExactly patterns utterance).pattern ∧
      (recognize literalShare patterns utterance).slots =
        (recognizeExactly patterns utterance).slots := by
  have sameBest : (Recognition.fits literalShare utterance.tokens 0 patterns).argmax
      Recognition.Fit.rank = ((Recognition.exactFits utterance.tokens patterns).argmax
        Recognition.exactScore).map fun fit =>
          ⟨fit.1, fit.2.scoredBy literalShare utterance.tokens.length⟩ := by
    rw [Recognition.fits_eq_map_exactFits compiled ordered, argmax_map]
    congr 1
    apply argmax_congr_of_le_iff
    intro first firstFits second secondFits
    exact Recognition.exactScore_le_iff compiled ordered firstFits secondFits
  rw [recognize, recognizeExactly, Recognition.bestFit_eq_argmax, Option.toList_none,
    List.nil_append, sameBest]
  split
  · rename_i empty
    have noTokens : utterance.tokens = [] := List.isEmpty_iff.1 empty
    rw [noTokens, Recognition.exactFits_nil compiled]
    exact ⟨rfl, rfl⟩
  · cases (Recognition.exactFits utterance.tokens patterns).argmax Recognition.exactScore <;>
      exact ⟨rfl, rfl⟩

end SkillDispatch
