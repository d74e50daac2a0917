import SkillDispatch.Proofs.ExhaustiveSearch

set_option autoImplicit false

namespace SkillDispatch

/-- Elements without their choices: each literal accepts one of its words, and the body of an
optional element either stands in its place or is left out. -/
inductive Element.ExpandsTo : List Element → List Element → Prop
  | nil : ExpandsTo [] []
  | literal {element : Element} {rest expansion : List Element} {word : String}
      (kind : element.kind = "literal") (member : word ∈ element.words)
      (tail : ExpandsTo rest expansion) :
      ExpandsTo (element :: rest) ({ element with words := [word] } :: expansion)
  | taken {element : Element} {rest body expansion : List Element}
      (kind : element.kind = "optional") (inner : ExpandsTo element.elements body)
      (tail : ExpandsTo rest expansion) :
      ExpandsTo (element :: rest) (body ++ expansion)
  | skipped {element : Element} {rest expansion : List Element}
      (kind : element.kind = "optional") (tail : ExpandsTo rest expansion) :
      ExpandsTo (element :: rest) expansion
  | kept {element : Element} {rest expansion : List Element}
      (notLiteral : element.kind ≠ "literal") (notOptional : element.kind ≠ "optional")
      (tail : ExpandsTo rest expansion) :
      ExpandsTo (element :: rest) (element :: expansion)

def PatternDefinition.ExpandsTo (definition expansion : PatternDefinition) : Prop :=
  Element.ExpandsTo definition.elements expansion.elements

variable {tokens : List String}

theorem Element.ExpandsTo.of_kept {element : Element} {rest elements : List Element}
    (expands : Element.ExpandsTo (element :: rest) elements)
    (notLiteral : element.kind ≠ "literal") (notOptional : element.kind ≠ "optional") :
    ∃ expansion, Element.ExpandsTo rest expansion ∧ elements = element :: expansion := by
  cases expands with
  | literal kind => exact absurd kind notLiteral
  | taken kind => exact absurd kind notOptional
  | skipped kind => exact absurd kind notOptional
  | kept _ _ tail => exact ⟨_, tail, rfl⟩

/-- A laying of an expansion is one of the elements themselves. -/
theorem Element.ExpandsTo.lays {elements expansion : List Element}
    (expands : Element.ExpandsTo elements expansion) {start : Nat} {laying : Laying}
    (lays : Element.Lays tokens expansion start laying) :
    Element.Lays tokens elements start laying := by
  induction expands generalizing start laying with
  | nil => exact lays
  | literal kind member _ ih =>
    cases lays with
    | literal _ single stands remaining =>
      rw [List.mem_singleton.1 single] at stands remaining ⊢
      exact .literal kind member stands (ih remaining)
    | capture other => exact absurd (kind.symm.trans other) (by decide)
    | wildcard other => exact absurd (kind.symm.trans other) (by decide)
    | taken other => exact absurd (kind.symm.trans other) (by decide)
    | skipped other => exact absurd (kind.symm.trans other) (by decide)
  | taken kind _ _ innerIh ih =>
    obtain ⟨head, tail, headLays, tailLays, rfl⟩ := lays.exists_of_append
    exact .taken kind (innerIh headLays) (ih tailLays)
  | skipped kind _ ih => exact .skipped kind (ih lays)
  | kept notLiteral notOptional _ ih =>
    cases lays with
    | literal kind => exact absurd kind notLiteral
    | capture kind named some inBounds remaining =>
      exact .capture kind named some inBounds (ih remaining)
    | wildcard kind any inBounds remaining => exact .wildcard kind any inBounds (ih remaining)
    | taken kind => exact absurd kind notOptional
    | skipped kind => exact absurd kind notOptional

/-- A laying makes its choices, which are those of an expansion. -/
theorem Element.Lays.exists_expansion {elements : List Element} {start : Nat} {laying : Laying}
    (lays : Element.Lays tokens elements start laying) :
    ∃ expansion, Element.ExpandsTo elements expansion ∧
      Element.Lays tokens expansion start laying := by
  induction lays with
  | nil start => exact ⟨[], .nil, .nil start⟩
  | literal kind member stands _ ih =>
    obtain ⟨expansion, expands, remaining⟩ := ih
    exact ⟨_, .literal kind member expands,
      .literal kind (List.mem_singleton_self _) stands remaining⟩
  | capture kind named some inBounds _ ih =>
    obtain ⟨expansion, expands, remaining⟩ := ih
    exact ⟨_, .kept (by simp [kind]) (by simp [kind]) expands,
      .capture kind named some inBounds remaining⟩
  | wildcard kind any inBounds _ ih =>
    obtain ⟨expansion, expands, remaining⟩ := ih
    exact ⟨_, .kept (by simp [kind]) (by simp [kind]) expands,
      .wildcard kind any inBounds remaining⟩
  | taken kind _ _ innerIh ih =>
    obtain ⟨body, bodyExpands, bodyLays⟩ := innerIh
    obtain ⟨expansion, expands, remaining⟩ := ih
    exact ⟨_, .taken kind bodyExpands expands, bodyLays.append remaining⟩
  | skipped kind _ ih =>
    obtain ⟨expansion, expands, remaining⟩ := ih
    exact ⟨expansion, .skipped kind expands, remaining⟩

theorem PatternDefinition.aligns_iff_expansion (definition : PatternDefinition)
    (alignment : Alignment) :
    definition.Aligns tokens alignment ↔
      ∃ expansion, definition.ExpandsTo expansion ∧ expansion.Aligns tokens alignment := by
  constructor
  · intro aligns
    obtain ⟨start, laying, inBounds, lays, rfl⟩ := aligns
    obtain ⟨elements, expands, expansionLays⟩ := lays.exists_expansion
    exact ⟨⟨elements⟩, expands, start, laying, inBounds, expansionLays, rfl⟩
  · intro someAligns
    obtain ⟨expansion, expands, start, laying, inBounds, lays, rfl⟩ := someAligns
    exact ⟨start, laying, inBounds, expands.lays lays, rfl⟩

/-- The scores that a definition reaches are those that its expansions reach. -/
theorem PatternDefinition.reaches_iff_expansion (scorer : Scorer) (definition : PatternDefinition)
    (score : Confidence) :
    definition.Reaches scorer tokens score ↔
      ∃ expansion, definition.ExpandsTo expansion ∧ expansion.Reaches scorer tokens score := by
  constructor
  · intro reaches
    obtain ⟨alignment, aligns, reached⟩ := reaches
    obtain ⟨expansion, expands, expansionAligns⟩ := (definition.aligns_iff_expansion _).1 aligns
    exact ⟨expansion, expands, alignment, expansionAligns, reached⟩
  · intro someReaches
    obtain ⟨expansion, expands, alignment, aligns, reached⟩ := someReaches
    exact ⟨alignment, (definition.aligns_iff_expansion _).2 ⟨expansion, expands, aligns⟩, reached⟩

/-- An expansion compiles where the elements do, also when fewer slots are in use before it. -/
theorem Element.Compiles.expansion {taken : List String} {elements : List Element}
    {parts : List Part} {after : List String}
    (compiled : Element.Compiles taken elements parts after) {fewer : List String}
    (subset : fewer ⊆ taken) {expansion : List Element}
    (expands : Element.ExpandsTo elements expansion) :
    ∃ expansionParts left, Element.Compiles fewer expansion expansionParts left ∧
      left ⊆ after := by
  induction compiled generalizing fewer expansion with
  | nil taken =>
    cases expands
    exact ⟨[], fewer, .nil fewer, subset⟩
  | literal kind words tokens _ ih =>
    cases expands with
    | literal _ member tail =>
      obtain ⟨expansionParts, left, compiles, within⟩ := ih subset tail
      refine ⟨_, left, .literal kind (by simp) ?_ compiles, within⟩
      intro word single
      rw [List.mem_singleton.1 single]
      exact tokens _ member
    | taken other => exact absurd (kind.symm.trans other) (by decide)
    | skipped other => exact absurd (kind.symm.trans other) (by decide)
    | kept notLiteral => exact absurd kind notLiteral
  | @capture taken element rest parts after slot kind named fresh _ ih =>
    obtain ⟨expansion, tail, rfl⟩ := expands.of_kept (by simp [kind]) (by simp [kind])
    have fewerWithSlot : fewer ++ [slot] ⊆ taken ++ [slot] :=
      List.append_subset.2
        ⟨List.subset_append_of_subset_left _ subset, List.subset_append_right ..⟩
    obtain ⟨expansionParts, left, compiles, within⟩ := ih fewerWithSlot tail
    exact ⟨_, left, .capture kind named (fun member => fresh (subset member)) compiles, within⟩
  | wildcard kind _ ih =>
    obtain ⟨expansion, tail, rfl⟩ := expands.of_kept (by simp [kind]) (by simp [kind])
    obtain ⟨expansionParts, left, compiles, within⟩ := ih subset tail
    exact ⟨_, left, .wildcard kind compiles, within⟩
  | optional kind _ inner _ innerIh ih =>
    cases expands with
    | literal other => exact absurd (kind.symm.trans other) (by decide)
    | taken _ body tail =>
      obtain ⟨bodyParts, between, bodyCompiles, bodyWithin⟩ := innerIh subset body
      obtain ⟨expansionParts, left, compiles, within⟩ := ih bodyWithin tail
      exact ⟨_, left, bodyCompiles.append compiles, within⟩
    | skipped _ tail =>
      -- The slots of the body stay in use for the elements, but not for this expansion.
      rw [inner.after_eq] at ih
      exact ih (List.subset_append_of_subset_left _ subset) tail
    | kept _ notOptional => exact absurd kind notOptional

theorem Element.Compiles.exists_expansion {taken : List String} {elements : List Element}
    {parts : List Part} {after : List String}
    (compiled : Element.Compiles taken elements parts after) :
    ∃ expansion, Element.ExpandsTo elements expansion := by
  induction compiled with
  | nil taken => exact ⟨[], .nil⟩
  | literal kind words _ _ ih =>
    obtain ⟨word, member⟩ := List.exists_mem_of_ne_nil _ words
    obtain ⟨expansion, expands⟩ := ih
    exact ⟨_, .literal kind member expands⟩
  | capture kind _ _ _ ih =>
    obtain ⟨expansion, expands⟩ := ih
    exact ⟨_, .kept (by simp [kind]) (by simp [kind]) expands⟩
  | wildcard kind _ ih =>
    obtain ⟨expansion, expands⟩ := ih
    exact ⟨_, .kept (by simp [kind]) (by simp [kind]) expands⟩
  | optional kind _ _ _ _ ih =>
    obtain ⟨expansion, expands⟩ := ih
    exact ⟨expansion, .skipped kind expands⟩

/-- A definition that is empty or makes a pattern. -/
def PatternDefinition.MakesSense (definition : PatternDefinition) : Prop :=
  definition.elements = [] ∨ ∃ pattern, definition.compile = .ok pattern

theorem PatternDefinition.ExpandsTo.makesSense {definition expansion : PatternDefinition}
    {pattern : Pattern} (expands : definition.ExpandsTo expansion)
    (compiled : definition.compile = .ok pattern) : expansion.MakesSense := by
  obtain ⟨-, after, parts⟩ := (definition.compile_eq_ok_iff pattern).1 compiled
  obtain ⟨expansionParts, left, compiles, -⟩ := parts.expansion (List.Subset.refl []) expands
  by_cases empty : expansion.elements = []
  · exact Or.inl empty
  · exact Or.inr ⟨⟨expansionParts⟩, (expansion.compile_eq_ok_iff _).2 ⟨empty, left, compiles⟩⟩

/-- What recognition makes of a definition alone. Nothing matches one that has no pattern. -/
def PatternDefinition.alone (scorer : Scorer) (utterance : Utterance)
    (definition : PatternDefinition) : Match :=
  match definition.compile with
  | .ok pattern => recognize scorer [pattern] utterance
  | .error _ => .none

/-- The highest score that a definition reaches, or no match. -/
inductive HighestMatch (scorer : Scorer) (tokens : List String) (definition : PatternDefinition)
    (result : Match) : Prop
  | found (isMatch : result.isMatch = true)
      (reaches : definition.Reaches scorer tokens result.score)
      (noHigher : ∀ score, definition.Reaches scorer tokens score → ¬result.score < score)
  | missing (isNone : result = .none)
      (unreached : ∀ score, ¬definition.Reaches scorer tokens score)

theorem PatternDefinition.not_reaches_of_empty {scorer : Scorer} {definition : PatternDefinition}
    (empty : definition.elements = []) (score : Confidence) :
    ¬definition.Reaches scorer tokens score := by
  intro reaches
  obtain ⟨alignment, ⟨start, laying, -, lays, rfl⟩, positive, -⟩ := reaches
  rw [empty] at lays
  cases lays
  exact absurd positive (Nat.lt_irrefl 0)

theorem PatternDefinition.alone_highest {scorer : Scorer} {definition : PatternDefinition}
    (makesSense : definition.MakesSense) (averse : GapAverse scorer) (utterance : Utterance) :
    HighestMatch scorer utterance.values definition (definition.alone scorer utterance) := by
  rcases makesSense with empty | ⟨pattern, compiles⟩
  · refine .missing ?_ (PatternDefinition.not_reaches_of_empty empty)
    simp [alone, PatternDefinition.compile, empty]
  · have compiled : CompileTo [definition] [pattern] := .cons compiles .nil
    have result : definition.alone scorer utterance = recognize scorer [pattern] utterance := by
      simp only [alone, compiles]
    rw [result]
    cases isPattern : (recognize scorer [pattern] utterance).pattern with
    | none =>
      exact .missing (recognize_none isPattern).1
        (compiled.not_reaches averse isPattern (List.mem_singleton_self _))
    | some index =>
      obtain ⟨found, atIndex, reaches⟩ := compiled.exists_reaches isPattern
      rw [List.mem_singleton.1 (List.mem_of_getElem? atIndex)] at reaches
      refine .found (by simp [Match.isMatch, isPattern, reaches.nonZero]) reaches ?_
      intro score reached
      exact compiled.reaches_le averse isPattern (List.mem_singleton_self _) reached

namespace HighestMatch

variable {scorer : Scorer} {definition : PatternDefinition} {result : Match}

theorem isMatch_iff (highest : HighestMatch scorer tokens definition result) :
    result.isMatch = true ↔ ∃ score, definition.Reaches scorer tokens score := by
  cases highest with
  | found isMatch reaches => exact ⟨fun _ => ⟨_, reaches⟩, fun _ => isMatch⟩
  | missing isNone unreached =>
    subst isNone
    constructor
    · intro isMatch
      cases isMatch
    · intro reached
      obtain ⟨score, reaches⟩ := reached
      exact absurd reaches (unreached score)

theorem eq_none (highest : HighestMatch scorer tokens definition result)
    (unreached : ∀ score, ¬definition.Reaches scorer tokens score) : result = .none := by
  cases highest with
  | found _ reaches => exact absurd reaches (unreached _)
  | missing isNone => exact isNone

variable {expansion : PatternDefinition} {expansionResult : Match}

theorem noHigher (highest : HighestMatch scorer tokens definition result)
    (expansionHighest : HighestMatch scorer tokens expansion expansionResult)
    (expands : definition.ExpandsTo expansion) : ¬result.score < expansionResult.score := by
  cases expansionHighest with
  | found _ reached =>
    have reaches := (definition.reaches_iff_expansion scorer _).2 ⟨expansion, expands, reached⟩
    cases highest with
    | found _ _ bound => exact bound _ reaches
    | missing _ unreached => exact absurd reaches (unreached _)
  | missing isNone =>
    subst isNone
    rw [Confidence.lt_iff_rank]
    exact not_lt.2 (Confidence.zero_rank_le _)

/-- An expansion that reaches the score of the definition has it as its own. -/
theorem score_eq (highest : HighestMatch scorer tokens definition result)
    (expansionHighest : HighestMatch scorer tokens expansion expansionResult)
    (expands : definition.ExpandsTo expansion)
    (reached : expansion.Reaches scorer tokens result.score) :
    expansionResult.score = result.score := by
  have notHigher := highest.noHigher expansionHighest expands
  cases expansionHighest with
  | found _ reaches bound =>
    have notLower := bound _ reached
    rw [Confidence.lt_iff_rank, not_lt] at notHigher notLower
    exact Confidence.eq_of_rank_eq (le_antisymm notHigher notLower) reaches.nonZero
  | missing _ unreached => exact absurd reached (unreached _)

end HighestMatch

/-- What a definition alone comes to next to its expansions alone: the highest of their scores, and
a match if one of them matches. No expansion fails to compile, but some may be empty. -/
structure ExpansionLaw (scorer : Scorer) (utterance : Utterance)
    (definition : PatternDefinition) : Prop where
  makesSense : ∀ expansion, definition.ExpandsTo expansion → expansion.MakesSense
  noHigher : ∀ expansion, definition.ExpandsTo expansion →
    ¬(definition.alone scorer utterance).score < (expansion.alone scorer utterance).score
  attained : ∃ expansion, definition.ExpandsTo expansion ∧
    (expansion.alone scorer utterance).score = (definition.alone scorer utterance).score
  isMatch_iff : (definition.alone scorer utterance).isMatch = true ↔
    ∃ expansion, definition.ExpandsTo expansion ∧
      (expansion.alone scorer utterance).isMatch = true

variable {scorer : Scorer} {definition : PatternDefinition} {pattern : Pattern}

theorem PatternDefinition.exists_expansion_score (compiled : definition.compile = .ok pattern)
    (averse : GapAverse scorer) (utterance : Utterance) :
    ∃ expansion, definition.ExpandsTo expansion ∧
      (expansion.alone scorer utterance).score = (definition.alone scorer utterance).score := by
  have highest := alone_highest (Or.inr ⟨pattern, compiled⟩) averse utterance
  cases highest with
  | found isMatch reaches bound =>
    obtain ⟨expansion, expands, reached⟩ := (definition.reaches_iff_expansion scorer _).1 reaches
    have expansionHighest := alone_highest (expands.makesSense compiled) averse utterance
    exact ⟨expansion, expands,
      HighestMatch.score_eq (.found isMatch reaches bound) expansionHighest expands reached⟩
  | missing isNone unreached =>
    obtain ⟨-, after, parts⟩ := (definition.compile_eq_ok_iff pattern).1 compiled
    obtain ⟨elements, elementsExpand⟩ := parts.exists_expansion
    have expands : definition.ExpandsTo ⟨elements⟩ := elementsExpand
    have expansionHighest := alone_highest (expands.makesSense compiled) averse utterance
    refine ⟨⟨elements⟩, expands, ?_⟩
    rw [isNone, expansionHighest.eq_none]
    intro score reached
    exact unreached score ((definition.reaches_iff_expansion scorer score).2 ⟨_, expands, reached⟩)

/-- Recognition takes literals and optional elements as choices: a definition comes to the best
that its expansions come to. -/
theorem recognize_expansions (compiled : definition.compile = .ok pattern)
    (averse : GapAverse scorer) (utterance : Utterance) :
    ExpansionLaw scorer utterance definition := by
  have highest :=
    PatternDefinition.alone_highest (Or.inr ⟨pattern, compiled⟩) averse utterance
  have expansionHighest : ∀ expansion, definition.ExpandsTo expansion →
      HighestMatch scorer utterance.values expansion (expansion.alone scorer utterance) := by
    intro expansion expands
    exact PatternDefinition.alone_highest (expands.makesSense compiled) averse utterance
  refine ⟨?_, ?_, definition.exists_expansion_score compiled averse utterance, ?_⟩
  · intro expansion expands
    exact expands.makesSense compiled
  · intro expansion expands
    exact highest.noHigher (expansionHighest expansion expands) expands
  · rw [highest.isMatch_iff]
    constructor
    · intro someReached
      obtain ⟨score, reaches⟩ := someReached
      obtain ⟨expansion, expands, reached⟩ := (definition.reaches_iff_expansion scorer _).1 reaches
      exact ⟨expansion, expands,
        (expansionHighest expansion expands).isMatch_iff.2 ⟨score, reached⟩⟩
    · intro someMatch
      obtain ⟨expansion, expands, isMatch⟩ := someMatch
      obtain ⟨score, reached⟩ := (expansionHighest expansion expands).isMatch_iff.1 isMatch
      exact ⟨score, (definition.reaches_iff_expansion scorer _).2 ⟨expansion, expands, reached⟩⟩

/-- The match needs the longer word and the optional element. -/
theorem recognize_expansions_playMusic :
    playMusic.compile = .ok playMusicPattern ∧ GapAverse wholeOrPart ∧
      (playMusic.alone wholeOrPart (.ofText "now put on some jazz")).isMatch = true ∧
      ExpansionLaw wholeOrPart (.ofText "now put on some jazz") playMusic := by
  exact ⟨playMusic_compile, wholeOrPart_gapAverse, by decide +kernel,
    recognize_expansions playMusic_compile wholeOrPart_gapAverse (.ofText "now put on some jazz")⟩

end SkillDispatch
