import SkillDispatch.Proofs.BestAlignment
import SkillDispatch.Proofs.BestFit

set_option autoImplicit false

namespace SkillDispatch

/-- A score above zero that the scorer gives to an alignment with a literal token. -/
def PatternDefinition.Reaches (scorer : Scorer) (tokens : List String)
    (definition : PatternDefinition) (score : Confidence) : Prop :=
  ∃ alignment, definition.Aligns tokens alignment ∧ 0 < alignment.literal ∧
    scorer alignment.account = score ∧ score.isZero = false

/-- What exhaustive search over several definitions comes to: the highest score of all alignments
and the first definition that reaches it, or no match when no definition reaches a score. -/
def ExhaustiveResult (scorer : Scorer) (tokens : List String)
    (definitions : List PatternDefinition) (result : Match) : Prop :=
  match result.pattern with
  | none => result = .none ∧
      ∀ definition ∈ definitions, ∀ score, ¬definition.Reaches scorer tokens score
  | some index =>
      (∃ definition, definitions[index]? = some definition ∧
        definition.Reaches scorer tokens result.score) ∧
      (∀ other ∈ definitions, ∀ score, other.Reaches scorer tokens score →
        ¬result.score < score) ∧
      ∀ earlier < index, ∀ other, definitions[earlier]? = some other →
        ∀ score, other.Reaches scorer tokens score → score < result.score

/-- The patterns are those of the definitions, in their order. -/
def CompileTo (definitions : List PatternDefinition) (patterns : List Pattern) : Prop :=
  List.Forall₂ (fun definition pattern => definition.compile = .ok pattern) definitions patterns

variable {scorer : Scorer} {definitions : List PatternDefinition} {patterns : List Pattern}

theorem CompileTo.definition_at (compiled : CompileTo definitions patterns) {index : Nat}
    {pattern : Pattern} (atIndex : patterns[index]? = some pattern) :
    ∃ definition, definitions[index]? = some definition ∧ definition.compile = .ok pattern := by
  obtain ⟨inside, same⟩ := List.getElem?_eq_some_iff.1 atIndex
  subst same
  obtain ⟨count, each⟩ := List.forall₂_iff_get.1 compiled
  have insideDefinitions : index < definitions.length := by omega
  exact ⟨_, List.getElem?_eq_getElem insideDefinitions, each index insideDefinitions inside⟩

theorem CompileTo.pattern_at (compiled : CompileTo definitions patterns) {index : Nat}
    {definition : PatternDefinition} (atIndex : definitions[index]? = some definition) :
    ∃ pattern, patterns[index]? = some pattern ∧ definition.compile = .ok pattern := by
  obtain ⟨inside, same⟩ := List.getElem?_eq_some_iff.1 atIndex
  subst same
  obtain ⟨count, each⟩ := List.forall₂_iff_get.1 compiled
  have insidePatterns : index < patterns.length := by omega
  exact ⟨_, List.getElem?_eq_getElem insidePatterns, each index inside insidePatterns⟩

/-- A score that a definition reaches is no higher than that of the best alignment. -/
theorem PatternDefinition.Reaches.exists_align {definition : PatternDefinition} {pattern : Pattern}
    (compiled : definition.compile = .ok pattern) (averse : GapAverse scorer)
    {tokens : List Token} {score : Confidence}
    (reaches : definition.Reaches scorer (tokens.map Token.value) score) :
    ∃ found, pattern.align scorer tokens = some found ∧ ¬found.score < score := by
  obtain ⟨alignment, aligns, positive, scored, nonZero⟩ := reaches
  subst scored
  exact aligns.exists_align compiled averse positive nonZero

theorem PatternDefinition.Reaches.nonZero {definition : PatternDefinition} {tokens : List String}
    {score : Confidence} (reaches : definition.Reaches scorer tokens score) :
    score.isZero = false := by
  obtain ⟨_, _, _, _, nonZero⟩ := reaches
  exact nonZero

theorem PatternDefinition.not_reaches_nil (definition : PatternDefinition) (score : Confidence) :
    ¬definition.Reaches scorer [] score := by
  intro reaches
  obtain ⟨alignment, aligns, positive, -⟩ := reaches
  have total := aligns.conserves
  simp only [Coverage.total, Alignment.account, List.length_nil] at total
  omega

theorem PatternDefinition.align_nil {definition : PatternDefinition} {pattern : Pattern}
    (compiled : definition.compile = .ok pattern) (scorer : Scorer) :
    pattern.align scorer [] = none := by
  cases isBest : pattern.align scorer [] with
  | none => rfl
  | some found =>
    obtain ⟨aligns, positive, scored, nonZero⟩ := align_sound compiled isBest
    have reaches : definition.Reaches scorer [] found.score :=
      ⟨found.alignment, aligns, positive, scored.symm, nonZero⟩
    exact absurd reaches (definition.not_reaches_nil _)

/-- Without a pattern in the result, none of the patterns aligns. -/
theorem CompileTo.exists_align_eq_none (compiled : CompileTo definitions patterns)
    {utterance : Utterance} (noPattern : (recognize scorer patterns utterance).pattern = none)
    {definition : PatternDefinition} (member : definition ∈ definitions) :
    ∃ pattern, definition.compile = .ok pattern ∧
      pattern.align scorer utterance.tokens = none := by
  obtain ⟨index, atIndex⟩ := List.mem_iff_getElem?.1 member
  obtain ⟨pattern, atPattern, compiles⟩ := compiled.pattern_at atIndex
  refine ⟨pattern, compiles, ?_⟩
  rcases (recognize_none noPattern).2 with empty | noneFits
  · have noTokens : utterance.tokens = [] := List.isEmpty_iff.1 empty
    rw [noTokens]
    exact PatternDefinition.align_nil compiles scorer
  · exact noneFits pattern (List.mem_of_getElem? atPattern)

/-- Without a pattern in the result, no definition reaches a score. -/
theorem CompileTo.not_reaches (compiled : CompileTo definitions patterns)
    (averse : GapAverse scorer) {utterance : Utterance}
    (noPattern : (recognize scorer patterns utterance).pattern = none)
    {definition : PatternDefinition} (member : definition ∈ definitions) (score : Confidence) :
    ¬definition.Reaches scorer utterance.values score := by
  intro reaches
  obtain ⟨pattern, compiles, notAligned⟩ := compiled.exists_align_eq_none noPattern member
  obtain ⟨found, aligned, -⟩ := reaches.exists_align compiles averse
  rw [notAligned] at aligned
  cases aligned

/-- The definition of the pattern in the result reaches its score. -/
theorem CompileTo.exists_reaches (compiled : CompileTo definitions patterns)
    {utterance : Utterance} {index : Nat}
    (isPattern : (recognize scorer patterns utterance).pattern = some index) :
    ∃ definition, definitions[index]? = some definition ∧
      definition.Reaches scorer utterance.values (recognize scorer patterns utterance).score := by
  obtain ⟨pattern, found, atIndex, aligned, result, -⟩ := recognize_some isPattern
  obtain ⟨definition, atDefinition, compiles⟩ := compiled.definition_at atIndex
  obtain ⟨aligns, positive, scored, nonZero⟩ := definition.align_sound compiles aligned
  rw [result]
  exact ⟨definition, atDefinition, found.alignment, aligns, positive, scored.symm, nonZero⟩

/-- No definition reaches a higher score than that of the result. -/
theorem CompileTo.reaches_le (compiled : CompileTo definitions patterns)
    (averse : GapAverse scorer) {utterance : Utterance} {index : Nat}
    (isPattern : (recognize scorer patterns utterance).pattern = some index)
    {definition : PatternDefinition} (member : definition ∈ definitions) {score : Confidence}
    (reaches : definition.Reaches scorer utterance.values score) :
    ¬(recognize scorer patterns utterance).score < score := by
  obtain ⟨-, found, -, -, result, notBetter, -⟩ := recognize_some isPattern
  obtain ⟨index, atIndex⟩ := List.mem_iff_getElem?.1 member
  obtain ⟨pattern, atPattern, compiles⟩ := compiled.pattern_at atIndex
  obtain ⟨other, aligned, noHigher⟩ := reaches.exists_align compiles averse
  have bound := notBetter pattern (List.mem_of_getElem? atPattern) other aligned
  rw [result]
  rw [Confidence.lt_iff_rank, not_lt] at noHigher bound ⊢
  exact noHigher.trans bound

theorem CompileTo.reaches_lt (compiled : CompileTo definitions patterns)
    (averse : GapAverse scorer) {utterance : Utterance} {index earlier : Nat}
    (isPattern : (recognize scorer patterns utterance).pattern = some index)
    (before : earlier < index) {definition : PatternDefinition}
    (atEarlier : definitions[earlier]? = some definition) {score : Confidence}
    (reaches : definition.Reaches scorer utterance.values score) :
    score < (recognize scorer patterns utterance).score := by
  obtain ⟨-, found, -, -, result, -, worse⟩ := recognize_some isPattern
  obtain ⟨pattern, atPattern, compiles⟩ := compiled.pattern_at atEarlier
  obtain ⟨other, aligned, noHigher⟩ := reaches.exists_align compiles averse
  have below := worse earlier before pattern atPattern other aligned
  rw [result]
  rw [Confidence.lt_iff_rank] at noHigher below ⊢
  exact lt_of_le_of_lt (not_lt.1 noHigher) below

/-- A request for music, as it may be defined. -/
def playMusic : PatternDefinition :=
  ⟨[.literal ["play", "put on"], .optional [.literal ["some"]], .capture "music"]⟩

def playMusicPattern : Pattern :=
  ⟨[.literal [⟨"play", ["play"]⟩, ⟨"put on", ["put", "on"]⟩],
    .optional [.literal [⟨"some", ["some"]⟩]], .capture "music"]⟩

theorem playMusic_compile : playMusic.compile = .ok playMusicPattern := by rfl

/-- Certain if there is no gap, and half as much if there is one. -/
def wholeOrPart : Scorer := fun coverage =>
  if coverage.literal = 0 then .zero
  else if coverage.gap = 0 then .certain
  else ⟨0.5, by decide, by decide⟩

theorem wholeOrPart_gapAverse : GapAverse wholeOrPart := by
  intro narrow wide _ literal gap
  have wideGap : wide.gap ≠ 0 := by omega
  by_cases noLiteral : wide.literal = 0
  · simp only [wholeOrPart, literal, noLiteral, if_true]
    decide
  · by_cases narrowGap : narrow.gap = 0
    · simp only [wholeOrPart, literal, noLiteral, wideGap, narrowGap, if_true, if_false]
      decide
    · simp only [wholeOrPart, literal, noLiteral, wideGap, narrowGap, if_false]
      decide

/-- Recognition comes to the result of exhaustive search. -/
theorem recognize_exhaustive (compiled : CompileTo definitions patterns)
    (averse : GapAverse scorer) (utterance : Utterance) :
    ExhaustiveResult scorer utterance.values definitions
      (recognize scorer patterns utterance) := by
  unfold ExhaustiveResult
  split
  · rename_i noPattern
    refine ⟨(recognize_none noPattern).1, ?_⟩
    intro definition member score
    exact compiled.not_reaches averse noPattern member score
  · rename_i index isPattern
    refine ⟨compiled.exists_reaches isPattern, ?_, ?_⟩
    · intro definition member score reaches
      exact compiled.reaches_le averse isPattern member reaches
    · intro earlier before definition atEarlier score reaches
      exact compiled.reaches_lt averse isPattern before atEarlier reaches

/-- The longer word and the optional element are taken, and one token before them is gap. -/
theorem recognize_exhaustive_playMusic :
    CompileTo [playMusic] [playMusicPattern] ∧ GapAverse wholeOrPart ∧
      (recognize wholeOrPart [playMusicPattern] (.ofText "now put on some jazz")).pattern =
        some 0 ∧
      ExhaustiveResult wholeOrPart (Utterance.ofText "now put on some jazz").values [playMusic]
        (recognize wholeOrPart [playMusicPattern] (.ofText "now put on some jazz")) := by
  have compiled : CompileTo [playMusic] [playMusicPattern] := .cons playMusic_compile .nil
  exact ⟨compiled, wholeOrPart_gapAverse, by decide +kernel,
    recognize_exhaustive compiled wholeOrPart_gapAverse (.ofText "now put on some jazz")⟩

end SkillDispatch
