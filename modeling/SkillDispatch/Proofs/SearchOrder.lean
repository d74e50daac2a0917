import SkillDispatch.Proofs.ExhaustiveSearch
import SkillDispatch.Proofs.LiteralShare

set_option autoImplicit false

/- The choice among alignments. A search that backtracks keeps the first alignment with the highest
share of literal tokens and, of equal shares, with the most literal tokens. The frontiers drop
alignments by their gaps long before shares are compared, and still come to the same choice. -/
namespace SkillDispatch

/-- The share first, and of equal shares the number of literal tokens. -/
def Alignment.merit (alignment : Alignment) : ℚ ×ₗ ℕ :=
  toLex (alignment.account.share, alignment.literal)

/-- The alignment that a search in the documented order chooses. -/
def PatternDefinition.choice (definition : PatternDefinition) (tokens : List String) :
    Option Alignment :=
  ((definition.alignments tokens).filter (0 < ·.literal)).argmax Alignment.merit

/-- With the same literal tokens, a narrower gap is the higher merit. -/
theorem Alignment.merit_le_iff {first second : Alignment} (positive : 0 < first.literal)
    (literal : first.literal = second.literal) :
    first.merit ≤ second.merit ↔ second.gap ≤ first.gap := by
  rcases first with ⟨literal, firstGap, _⟩
  rcases second with ⟨_, secondGap, _⟩
  cases literal
  have cast : (0 : ℚ) < literal := by exact_mod_cast positive
  have firstSum : (0 : ℚ) < literal + firstGap := by positivity
  have secondSum : (0 : ℚ) < literal + secondGap := by positivity
  simp only [merit, Prod.Lex.toLex_le_toLex, le_refl, and_true, ← le_iff_lt_or_eq]
  show (literal : ℚ) / (literal + firstGap) ≤ literal / (literal + secondGap) ↔ _
  rw [div_le_div_iff_of_pos_left cast firstSum secondSum, add_le_add_iff_left, Nat.cast_le]

variable {definition : PatternDefinition} {pattern : Pattern} {tokens : List Token}

/-- The best of some alignments is the first of the narrowest with as many literal tokens. -/
theorem Alignment.argmin_gap_of_argmax_merit {alignments : List Alignment} {best : Alignment}
    (isBest : (alignments.filter (0 < ·.literal)).argmax Alignment.merit = some best) :
    (alignments.filter (·.literal = best.literal)).argmin Alignment.gap = some best := by
  have positive := of_decide_eq_true (List.mem_filter.1 (List.argmax_mem isBest)).2
  have amongEqual := argmax_filter isBest (fun other => decide (other.literal = best.literal))
    (decide_eq_true rfl)
  rw [List.filter_filter] at amongEqual
  have condition : ∀ other ∈ alignments,
      (decide (other.literal = best.literal) && decide (0 < other.literal)) =
        decide (other.literal = best.literal) := by
    intro other _
    rw [← Bool.decide_and, decide_eq_decide]
    omega
  rw [List.filter_congr condition] at amongEqual
  rw [← amongEqual]
  apply argmin_eq_argmax_of_le_iff
  intro first firstMember second secondMember
  have firstLiteral := of_decide_eq_true (List.mem_filter.1 firstMember).2
  have secondLiteral := of_decide_eq_true (List.mem_filter.1 secondMember).2
  exact Alignment.merit_le_iff (firstLiteral ▸ positive) (firstLiteral.trans secondLiteral.symm)

/-- From one start, the best candidate is the first best of all alignments. -/
theorem PatternDefinition.argmax_candidatesFrom (compiled : definition.compile = .ok pattern)
    {start : ℕ} (inBounds : start ≤ tokens.length) :
    (pattern.candidatesFrom tokens start).argmax Alignment.merit =
      ((definition.alignmentsFrom (tokens.map Token.value) start).filter (0 < ·.literal)).argmax
        Alignment.merit := by
  have candidate := mem_candidatesFrom_iff compiled inBounds
  have competes : ∀ alignment ∈ pattern.candidatesFrom tokens start,
      alignment ∈ (definition.alignmentsFrom (tokens.map Token.value) start).filter (0 < ·.literal) := by
    intro alignment member
    obtain ⟨positive, narrowest⟩ := (candidate alignment).1 member
    exact List.mem_filter.2
      ⟨List.mem_of_mem_filter (List.argmin_mem narrowest), decide_eq_true positive⟩
  cases isBest : ((definition.alignmentsFrom (tokens.map Token.value) start).filter (0 < ·.literal)).argmax
      Alignment.merit with
  | none =>
    rw [List.argmax_eq_none] at isBest ⊢
    apply List.eq_nil_iff_forall_not_mem.2
    intro alignment member
    have inNone := competes alignment member
    rw [isBest] at inNone
    cases inNone
  | some best =>
    have positive := of_decide_eq_true (List.mem_filter.1 (List.argmax_mem isBest)).2
    have narrowest := Alignment.argmin_gap_of_argmax_merit isBest
    apply argmax_eq_some_of_lt
    · exact (candidate best).2 ⟨positive, narrowest⟩
    · -- A candidate of equal merit has as many literal tokens, so that it is `best` itself.
      intro alignment member apart
      apply lt_of_le_of_ne (List.le_of_mem_argmax (competes alignment member) isBest)
      intro same
      have literal : alignment.literal = best.literal := congrArg Prod.snd (toLex.injective same)
      have isNarrowest := ((candidate alignment).1 member).2
      rw [literal, narrowest] at isNarrowest
      exact apart (Option.some.inj isNarrowest).symm

theorem PatternDefinition.argmax_candidates (compiled : definition.compile = .ok pattern) :
    (Alignment.candidates pattern tokens).argmax Alignment.merit = definition.choice (tokens.map Token.value) := by
  rw [choice, alignments, List.filter_flatMap, Alignment.candidates_eq_flatMap, List.length_map]
  apply argmax_flatMap_congr
  intro start range
  exact argmax_candidatesFrom compiled (Nat.lt_succ_iff.1 (List.mem_range.1 range))

theorem PatternDefinition.Aligns.literal_add_gap_le {alignment : Alignment}
    (aligns : definition.Aligns (tokens.map Token.value) alignment) :
    alignment.account.literal + alignment.account.gap ≤ tokens.length := by
  have total := aligns.total_account
  simp only [Coverage.total] at total
  omega

theorem PatternDefinition.choice_nil (definition : PatternDefinition) :
    definition.choice [] = none := by
  rw [choice, List.argmax_eq_none, List.filter_eq_nil_iff]
  intro alignment member
  have total := ((definition.mem_alignments_iff alignment).1 member).conserves
  simp only [Coverage.total, Alignment.account, List.length_nil] at total
  simp only [decide_eq_true_iff]
  omega

theorem Alignment.scored_key_le_iff (ordered : SharesInOrder tokens.length)
    {first second : Alignment} (firstAligns : definition.Aligns (tokens.map Token.value) first)
    (secondAligns : definition.Aligns (tokens.map Token.value) second) :
    (first.scoredBy literalShare tokens.length).key ≤
        (second.scoredBy literalShare tokens.length).key ↔ first.merit ≤ second.merit := by
  have shares := ordered first.account second.account
    firstAligns.literal_add_gap_le secondAligns.literal_add_gap_le
  have sharesBack := ordered second.account first.account
    secondAligns.literal_add_gap_le firstAligns.literal_add_gap_le
  rw [Confidence.lt_iff_rank] at shares sharesBack
  have equal : (literalShare first.account).rank = (literalShare second.account).rank ↔
      first.account.share = second.account.share := by
    rw [le_antisymm_iff, le_antisymm_iff, ← not_lt, ← not_lt, ← not_lt, ← not_lt, shares,
      sharesBack]
  simp only [scoredBy, Scored.key, merit, firstAligns.coverage_tokens, secondAligns.coverage_tokens,
    Prod.Lex.toLex_le_toLex, shares, equal]

/-- Under the share of literal tokens, the best alignment of a pattern is the choice. -/
theorem PatternDefinition.align_eq_choice (compiled : definition.compile = .ok pattern)
    (ordered : SharesInOrder tokens.length) :
    pattern.align literalShare tokens =
      (definition.choice (tokens.map Token.value)).map (Alignment.scoredBy literalShare tokens.length) := by
  have sound : ∀ alignment ∈ Alignment.candidates pattern tokens,
      definition.Aligns (tokens.map Token.value) alignment ∧ 0 < alignment.literal := by
    intro alignment member
    exact aligns_of_mem_candidates compiled member
  have nonZero : ∀ scored ∈ (Alignment.candidates pattern tokens).map
      (Alignment.scoredBy literalShare tokens.length), (!scored.score.isZero) = true := by
    intro scored member
    obtain ⟨alignment, candidate, rfl⟩ := List.mem_map.1 member
    obtain ⟨aligns, positive⟩ := sound alignment candidate
    rw [Alignment.scoredBy, aligns.coverage_tokens, Bool.not_eq_true']
    exact ordered.nonZero positive aligns.literal_add_gap_le
  rw [Pattern.align_eq_argmax, List.filter_eq_self.2 nonZero, argmax_map,
    ← argmax_candidates compiled]
  congr 1
  apply argmax_congr_of_le_iff
  intro first firstMember second secondMember
  exact Alignment.scored_key_le_iff ordered (sound first firstMember).1
    (sound second secondMember).1

variable {definitions : List PatternDefinition} {patterns : List Pattern}

/-- The slots of a result are those of the choice for the definition that matched, and without a
match there is no choice for any definition. -/
def ChoiceResult (definitions : List PatternDefinition) (utterance : Utterance)
    (result : Match) : Prop :=
  match result.pattern with
  | none => result = .none ∧
      ∀ definition ∈ definitions, definition.choice utterance.values = none
  | some index => ∃ definition alignment, definitions[index]? = some definition ∧
      definition.choice utterance.values = some alignment ∧
      result.slots = alignment.slots utterance

/-- A song by an artist, as it may be defined. -/
def playSong : PatternDefinition :=
  ⟨[.literal ["play"], .capture "song", .literal ["by"], .capture "artist"]⟩

def playSongPattern : Pattern :=
  ⟨[.literal [⟨"play", ["play"]⟩], .capture "song", .literal [⟨"by", ["by"]⟩], .capture "artist"]⟩

theorem playSong_compile : playSong.compile = .ok playSongPattern := by rfl

/-- Recognition comes to the slots of the choice. -/
theorem recognize_choice (compiled : CompileTo definitions patterns) (utterance : Utterance)
    (ordered : SharesInOrder utterance.length) :
    ChoiceResult definitions utterance (recognize literalShare patterns utterance) := by
  unfold ChoiceResult
  split
  · rename_i noPattern
    obtain ⟨noMatch, reason⟩ := recognize_none noPattern
    refine ⟨noMatch, ?_⟩
    intro definition member
    rcases reason with empty | noneFits
    · have noTokens : utterance.values = [] := by
        rw [Utterance.values, List.isEmpty_iff.1 empty, List.map_nil]
      rw [noTokens]
      exact definition.choice_nil
    · obtain ⟨index, atIndex⟩ := List.mem_iff_getElem?.1 member
      obtain ⟨pattern, atPattern, compiles⟩ := compiled.pattern_at atIndex
      have notAligned := noneFits pattern (List.mem_of_getElem? atPattern)
      rw [definition.align_eq_choice compiles ordered, Option.map_eq_none_iff] at notAligned
      exact notAligned
  · rename_i index isPattern
    obtain ⟨pattern, found, atIndex, aligned, result, -⟩ := recognize_some isPattern
    obtain ⟨definition, atDefinition, compiles⟩ := compiled.definition_at atIndex
    rw [definition.align_eq_choice compiles ordered, Option.map_eq_some_iff] at aligned
    obtain ⟨alignment, isChoice, rfl⟩ := aligned
    rw [result]
    exact ⟨definition, alignment, atDefinition, isChoice, rfl⟩

/-- Of two ways to tell the song from the artist the first one is chosen. -/
theorem recognize_choice_playSong :
    CompileTo [playSong] [playSongPattern] ∧
      SharesInOrder (Utterance.ofText "play stand by me by ben e king").length ∧
      (recognize literalShare [playSongPattern]
        (.ofText "play stand by me by ben e king")).slots.text? "song" = some "stand" ∧
      ChoiceResult [playSong] (.ofText "play stand by me by ben e king")
        (recognize literalShare [playSongPattern] (.ofText "play stand by me by ben e king")) := by
  have compiled : CompileTo [playSong] [playSongPattern] := .cons playSong_compile .nil
  have count : (Utterance.ofText "play stand by me by ben e king").length = 8 := by decide +kernel
  have ordered : SharesInOrder (Utterance.ofText "play stand by me by ben e king").length := by
    rw [count]
    exact sharesInOrder_of_lt (by decide)
  exact ⟨compiled, ordered, by decide +kernel,
    recognize_choice compiled (.ofText "play stand by me by ben e king") ordered⟩

end SkillDispatch
