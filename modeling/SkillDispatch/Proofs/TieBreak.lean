import SkillDispatch.Proofs.ExhaustiveSearch
import SkillDispatch.Skill.Script

set_option autoImplicit false

namespace SkillDispatch

namespace PatternDefinition

/-- An alignment with a literal token that scores above zero. No other one with a literal token
scores higher, and none with the same score has more literal tokens. -/
def Top (scorer : Scorer) (tokens : List String) (definition : PatternDefinition)
    (alignment : Alignment) : Prop :=
  0 < alignment.literal ∧ (scorer alignment.account).isZero = false ∧
    ∀ other ∈ definition.alignments tokens, 0 < other.literal →
      ¬scorer alignment.account < scorer other.account ∧
      ((scorer other.account == scorer alignment.account) = true →
        other.literal ≤ alignment.literal)

instance (scorer : Scorer) (tokens : List String) (definition : PatternDefinition)
    (alignment : Alignment) : Decidable (definition.Top scorer tokens alignment) :=
  inferInstanceAs (Decidable (_ ∧ _ ∧ _))

/-- The first top alignment in the order of the search. -/
def firstTop (scorer : Scorer) (tokens : List String) (definition : PatternDefinition) :
    Option Alignment :=
  (definition.alignments tokens).find? (definition.Top scorer tokens)

/-- From the first start that has a top alignment, the first one of the narrowest. -/
def narrowestTop (scorer : Scorer) (tokens : List String) (definition : PatternDefinition) :
    Option Alignment :=
  (List.range (tokens.length + 1)).findSome? fun start =>
    ((definition.alignmentsFrom tokens start).filter (definition.Top scorer tokens)).argmin
      Alignment.gap

variable {scorer : Scorer} {definition : PatternDefinition} {pattern : Pattern}
  {tokens : List Token}

theorem top_iff (alignment : Alignment) :
    definition.Top scorer (tokens.map Token.value) alignment ↔
      0 < alignment.literal ∧ (scorer alignment.account).isZero = false ∧
        ∀ other, definition.Aligns (tokens.map Token.value) other → 0 < other.literal →
          other.worth scorer ≤ alignment.worth scorer := by
  have compared : ∀ other : Alignment, other.worth scorer ≤ alignment.worth scorer ↔
      ¬scorer alignment.account < scorer other.account ∧
        ((scorer other.account == scorer alignment.account) = true →
          other.literal ≤ alignment.literal) := by
    intro other
    rw [Alignment.worth, Alignment.worth, Alignment.Scored.key, Alignment.Scored.key,
      Prod.Lex.toLex_le_toLex', Confidence.lt_iff_rank, not_lt, Confidence.beq_iff_rank]
  simp only [Top, compared, mem_alignments_iff]

theorem Top.worth_eq {first second : Alignment} (firstTop : definition.Top scorer (tokens.map Token.value) first)
    (secondTop : definition.Top scorer (tokens.map Token.value) second)
    (firstAligns : definition.Aligns (tokens.map Token.value) first)
    (secondAligns : definition.Aligns (tokens.map Token.value) second) :
    first.worth scorer = second.worth scorer := by
  obtain ⟨firstPositive, -, firstBest⟩ := (top_iff first).1 firstTop
  obtain ⟨secondPositive, -, secondBest⟩ := (top_iff second).1 secondTop
  exact le_antisymm (secondBest first firstAligns firstPositive)
    (firstBest second secondAligns secondPositive)

/-- The key of the best alignment is what the alignment is worth. -/
theorem align_key (compiled : definition.compile = .ok pattern) {found : Alignment.Scored}
    (isBest : pattern.align scorer tokens = some found) :
    found.key = found.alignment.worth scorer := by
  obtain ⟨-, -, scored, -⟩ := align_sound compiled isBest
  rw [Alignment.worth, Alignment.Scored.key, Alignment.Scored.key, scored]

/-- No alignment with a literal token is worth more than the best one, even if it scores zero. -/
theorem Aligns.worth_le (compiled : definition.compile = .ok pattern) (averse : GapAverse scorer)
    {found : Alignment.Scored} (isBest : pattern.align scorer tokens = some found)
    {other : Alignment} (aligns : definition.Aligns (tokens.map Token.value) other) (positive : 0 < other.literal) :
    other.worth scorer ≤ found.alignment.worth scorer := by
  cases isZero : (scorer other.account).isZero with
  | false =>
    obtain ⟨same, isSame, noLess⟩ := aligns.exists_align_worth_le compiled averse positive isZero
    rw [isBest] at isSame
    cases isSame
    rw [align_key compiled isBest] at noLess
    exact noLess
  | true =>
    obtain ⟨-, -, scored, nonZero⟩ := align_sound compiled isBest
    rw [Confidence.isZero_iff_rank] at isZero
    rw [scored, Confidence.isZero_eq_false_iff, ← isZero] at nonZero
    exact le_of_lt (Prod.Lex.toLex_lt_toLex.2 (Or.inl nonZero))

theorem top_of_align (compiled : definition.compile = .ok pattern) (averse : GapAverse scorer)
    {found : Alignment.Scored} (isBest : pattern.align scorer tokens = some found) :
    definition.Top scorer (tokens.map Token.value) found.alignment := by
  obtain ⟨-, positive, scored, nonZero⟩ := align_sound compiled isBest
  rw [scored] at nonZero
  refine (top_iff found.alignment).2 ⟨positive, nonZero, ?_⟩
  intro other otherAligns otherPositive
  exact otherAligns.worth_le compiled averse isBest otherPositive

/-- The best alignment comes from the first start that has a top alignment. -/
theorem exists_start_of_align (compiled : definition.compile = .ok pattern)
    (averse : GapAverse scorer) {found : Alignment.Scored}
    (isBest : pattern.align scorer tokens = some found) :
    ∃ earlier start later, List.range (tokens.length + 1) = earlier ++ start :: later ∧
      found.alignment ∈ pattern.candidatesFrom tokens start ∧
      ∀ before ∈ earlier, ∀ other ∈ definition.alignmentsFrom (tokens.map Token.value) before,
        ¬definition.Top scorer (tokens.map Token.value) other := by
  have foundAligns := (align_sound compiled isBest).1
  have foundTop := top_of_align compiled averse isBest
  have foundKey := align_key compiled isBest
  rw [Pattern.align_eq_argmax, Alignment.candidates_eq_flatMap, List.map_flatMap,
    List.filter_flatMap] at isBest
  obtain ⟨earlier, start, later, split, member, worse⟩ := exists_index_of_argmax_flatMap isBest
  refine ⟨earlier, start, later, split, ?_, ?_⟩
  · obtain ⟨alignment, candidate, rfl⟩ := List.mem_map.1 (List.mem_filter.1 member).1
    exact candidate
  · -- A top alignment from an earlier start has a competitor there that is worth as much.
    intro before inEarlier other otherMember otherTop
    have inBounds : before ≤ tokens.length := by
      apply Nat.lt_succ_iff.1
      rw [← List.mem_range, split]
      exact List.mem_append_left _ inEarlier
    obtain ⟨competitor, competes, noLess⟩ :=
      exists_competitorFrom compiled averse inBounds otherMember otherTop.1 otherTop.2.1
    have below := worse before inEarlier competitor competes
    have otherAligns := aligns_of_mem_alignmentsFrom inBounds otherMember
    rw [foundKey, ← otherTop.worth_eq foundTop otherAligns foundAligns] at below
    exact not_le_of_gt below noLess

/-- A candidate that is top is the first of the narrowest top alignments from its start. -/
theorem argmin_top_of_mem_candidatesFrom (compiled : definition.compile = .ok pattern)
    {start : Nat} (inBounds : start ≤ tokens.length) {candidate : Alignment}
    (member : candidate ∈ pattern.candidatesFrom tokens start)
    (top : definition.Top scorer (tokens.map Token.value) candidate) :
    ((definition.alignmentsFrom (tokens.map Token.value) start).filter (definition.Top scorer (tokens.map Token.value))).argmin
      Alignment.gap = some candidate := by
  obtain ⟨-, narrowest⟩ := (mem_candidatesFrom_iff compiled inBounds candidate).1 member
  have isFound := List.mem_of_mem_filter (List.argmin_mem narrowest)
  have aligns := aligns_of_mem_alignmentsFrom inBounds isFound
  have amongTop := argmin_filter narrowest (fun other => definition.Top scorer (tokens.map Token.value) other)
    (decide_eq_true top)
  rw [List.filter_filter] at amongTop
  have condition : ∀ other ∈ definition.alignmentsFrom (tokens.map Token.value) start,
      (decide (definition.Top scorer (tokens.map Token.value) other) &&
        decide (other.literal = candidate.literal)) =
        decide (definition.Top scorer (tokens.map Token.value) other) := by
    intro other isOther
    rw [← Bool.decide_and, decide_eq_decide]
    refine ⟨And.left, fun otherTop => ⟨otherTop, ?_⟩⟩
    have otherAligns := aligns_of_mem_alignmentsFrom inBounds isOther
    have worth := otherTop.worth_eq top otherAligns aligns
    exact congrArg Prod.snd (toLex.injective worth)
  rw [List.filter_congr condition] at amongTop
  exact amongTop

/-- The best alignment is the first of the narrowest from the first start that has a top one. -/
theorem align_eq_narrowestTop (compiled : definition.compile = .ok pattern)
    (averse : GapAverse scorer) :
    pattern.align scorer tokens =
      (definition.narrowestTop scorer (tokens.map Token.value)).map (Alignment.scoredBy scorer tokens.length) := by
  cases isBest : pattern.align scorer tokens with
  | none =>
    symm
    rw [Option.map_eq_none_iff, narrowestTop, List.length_map, List.findSome?_eq_none_iff]
    intro start range
    rw [List.argmin_eq_none, List.filter_eq_nil_iff]
    intro alignment member isTop
    have top := of_decide_eq_true isTop
    have inBounds : start ≤ tokens.length := Nat.lt_succ_iff.1 (List.mem_range.1 range)
    have aligns := aligns_of_mem_alignmentsFrom inBounds member
    obtain ⟨found, isFound, -⟩ := aligns.exists_align compiled averse top.1 top.2.1
    rw [isBest] at isFound
    cases isFound
  | some found =>
    obtain ⟨earlier, start, later, split, member, noneTop⟩ :=
      exists_start_of_align compiled averse isBest
    have inBounds : start ≤ tokens.length := by
      apply Nat.lt_succ_iff.1
      rw [← List.mem_range, split]
      simp
    have top := top_of_align compiled averse isBest
    have narrowest : definition.narrowestTop scorer (tokens.map Token.value) = some found.alignment := by
      rw [narrowestTop, List.length_map, split, List.findSome?_append, List.findSome?_cons,
        argmin_top_of_mem_candidatesFrom compiled inBounds member top]
      apply Option.or_eq_right_of_none
      rw [List.findSome?_eq_none_iff]
      intro before inEarlier
      rw [List.argmin_eq_none, List.filter_eq_nil_iff]
      intro other otherMember isTop
      exact noneTop before inEarlier other otherMember (of_decide_eq_true isTop)
    obtain ⟨aligns, -, scored, -⟩ := align_sound compiled isBest
    rw [narrowest, Option.map_some, Alignment.scoredBy, aligns.coverage_tokens, ← scored]

/-- The first top alignment is passed over only for a narrower one from the same start. -/
theorem exists_firstTop {values : List String} {narrowest : Alignment}
    (isNarrowest : definition.narrowestTop scorer values = some narrowest) :
    ∃ first, definition.firstTop scorer values = some first ∧
      (narrowest = first ∨ narrowest.gap < first.gap ∧ ∃ start ≤ values.length,
        first ∈ definition.alignmentsFrom values start ∧
        narrowest ∈ definition.alignmentsFrom values start) := by
  obtain ⟨first, isFirst, start, range, firstThere, narrowestThere, same | narrower⟩ :=
    exists_find?_of_argmin_findSome? isNarrowest
  · exact ⟨first, isFirst, Or.inl same⟩
  · have inBounds : start ≤ values.length := Nat.lt_succ_iff.1 (List.mem_range.1 range)
    exact ⟨first, isFirst, Or.inr ⟨narrower, start, inBounds, firstThere, narrowestThere⟩⟩

end PatternDefinition

variable {scorer : Scorer} {definitions : List PatternDefinition} {patterns : List Pattern}

/-- The slots of a result are those of the narrowest top alignment of the definition that matched.
It is the first top alignment, or narrower than that and from the same start. Without a match no
definition has a top alignment. -/
def TieResult (scorer : Scorer) (definitions : List PatternDefinition) (utterance : Utterance)
    (result : Match) : Prop :=
  match result.pattern with
  | none => result = .none ∧
      ∀ definition ∈ definitions, definition.narrowestTop scorer utterance.values = none
  | some index => ∃ definition alignment, definitions[index]? = some definition ∧
      definition.narrowestTop scorer utterance.values = some alignment ∧
      result.slots = alignment.slots utterance ∧
      ∃ first, definition.firstTop scorer utterance.values = some first ∧
        (alignment = first ∨ alignment.gap < first.gap ∧
          ∃ start ≤ utterance.values.length,
            first ∈ definition.alignmentsFrom utterance.values start ∧
            alignment ∈ definition.alignmentsFrom utterance.values start)

def playAnything : PatternDefinition := ⟨[.literal ["play"], .capture "song"]⟩

def playAnythingPattern : Pattern := ⟨[.literal [⟨"play", ["play"]⟩], .capture "song"]⟩

theorem playAnything_compile : playAnything.compile = .ok playAnythingPattern := by rfl

/-- Of as many tokens, as many of them literal, the share of literal tokens is the same. -/
theorem strict_gapAverse : GapAverse Script.Scoring.strict.scorer := by
  intro narrow wide total literal _
  have same : Script.Scoring.strict.scorer narrow = Script.Scoring.strict.scorer wide := by
    simp only [Script.Scoring.scorer, total, literal]
  rw [same, Confidence.lt_iff_rank]
  exact lt_irrefl _

/-- With a score that does not tell gaps apart, the first alignment in the order of the search is
passed over for the one that leaves no gap. -/
theorem recognize_passes_over_first :
    playAnything.compile = .ok playAnythingPattern ∧
      GapAverse Script.Scoring.strict.scorer ∧
      (Utterance.ofText "play let it be").isEmpty = false ∧
      ∃ first,
        playAnything.firstTop Script.Scoring.strict.scorer
          (Utterance.ofText "play let it be").values = some first ∧
        (first.slots (.ofText "play let it be")).text? "song" = some "let" ∧
        (recognize Script.Scoring.strict.scorer [playAnythingPattern]
          (.ofText "play let it be")).slots.text? "song" = some "let it be" := by
  refine ⟨playAnything_compile, strict_gapAverse, by decide +kernel, ?_⟩
  exact ⟨⟨1, 2, [("song", ⟨1, 2⟩)]⟩, by decide +kernel, by decide +kernel, by decide +kernel⟩

/-- Recognition comes to the slots of the narrowest top alignment. -/
theorem recognize_tie (compiled : CompileTo definitions patterns) (averse : GapAverse scorer)
    (utterance : Utterance) :
    TieResult scorer definitions utterance (recognize scorer patterns utterance) := by
  unfold TieResult
  split
  · rename_i noPattern
    refine ⟨(recognize_none noPattern).1, ?_⟩
    intro definition member
    obtain ⟨pattern, compiles, notAligned⟩ := compiled.exists_align_eq_none noPattern member
    rw [definition.align_eq_narrowestTop compiles averse, Option.map_eq_none_iff] at notAligned
    exact notAligned
  · rename_i index isPattern
    obtain ⟨pattern, found, atIndex, aligned, result, -⟩ := recognize_some isPattern
    obtain ⟨definition, atDefinition, compiles⟩ := compiled.definition_at atIndex
    rw [definition.align_eq_narrowestTop compiles averse, Option.map_eq_some_iff] at aligned
    obtain ⟨alignment, isNarrowest, rfl⟩ := aligned
    rw [result]
    exact ⟨definition, alignment, atDefinition, isNarrowest, rfl,
      definition.exists_firstTop isNarrowest⟩

/-- All that follows is captured, though a song of one word scores as high. -/
theorem recognize_tie_playAnything :
    CompileTo [playAnything] [playAnythingPattern] ∧
      GapAverse Script.Scoring.strict.scorer ∧
      (playAnything.narrowestTop Script.Scoring.strict.scorer
        (Utterance.ofText "play let it be").values).map Alignment.gap = some 0 ∧
      TieResult Script.Scoring.strict.scorer [playAnything] (.ofText "play let it be")
        (recognize Script.Scoring.strict.scorer [playAnythingPattern]
          (.ofText "play let it be")) := by
  have compiled : CompileTo [playAnything] [playAnythingPattern] :=
    .cons playAnything_compile .nil
  exact ⟨compiled, strict_gapAverse, by decide +kernel,
    recognize_tie compiled strict_gapAverse (.ofText "play let it be")⟩

end SkillDispatch
