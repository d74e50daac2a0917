import SkillDispatch.Proofs.FirstBest
import SkillDispatch.Proofs.FrontierSearch

set_option autoImplicit false

namespace SkillDispatch

open Text

def Pattern.candidatesFrom (pattern : Pattern) (tokens : List Token) (start : Nat) :
    List Alignment :=
  Alignment.ofFrontier start
    ((Part.solveEach tokens pattern.parts (.afterLastPart tokens.length)).frontierAt start)

theorem Alignment.candidates_eq_flatMap (pattern : Pattern) (tokens : List Token) :
    Alignment.candidates pattern tokens =
      (List.range (tokens.length + 1)).flatMap (pattern.candidatesFrom tokens) :=
  rfl

/-- A frontier gives one alignment for each number of literal tokens above zero. -/
theorem Alignment.mem_ofFrontier_iff (start : Nat) (frontier : Frontier) (alignment : Alignment) :
    alignment ∈ Alignment.ofFrontier start frontier ↔ 0 < alignment.literal ∧
      ∃ suffix, frontier.get? alignment.literal = some suffix ∧
        alignment = ⟨alignment.literal, start + suffix.gap, suffix.captures⟩ := by
  have kept : ∀ (suffix? : Option Suffix) (literal : Nat),
      (suffix?, literal) ∈ frontier.zipIdx.drop 1 ↔
        0 < literal ∧ frontier[literal]? = some suffix? := by
    intro suffix? literal
    rw [List.drop_one, List.tail_zipIdx, List.mk_mem_zipIdx_iff_le_and_getElem?_sub,
      List.getElem?_tail]
    apply and_congr_right
    intro positive
    rw [show literal - (0 + 1) + 1 = literal by omega]
  have read : ∀ (literal : Nat) (suffix : Suffix),
      frontier.get? literal = some suffix ↔ frontier[literal]? = some (some suffix) := by
    intro literal suffix
    rw [Frontier.get?, List.getD_eq_getElem?_getD]
    cases frontier[literal]? <;> simp
  simp only [Alignment.ofFrontier, List.mem_filterMap, Prod.exists, kept, Option.map_eq_some_iff,
    read]
  constructor
  · rintro ⟨_, literal, ⟨positive, entry⟩, suffix, rfl, rfl⟩
    exact ⟨positive, suffix, entry, rfl⟩
  · rintro ⟨positive, suffix, entry, same⟩
    exact ⟨_, alignment.literal, ⟨positive, entry⟩, suffix, rfl, same.symm⟩

/-- The alignments from a start are the ways from there, with a gap in front of them. -/
theorem PatternDefinition.alignmentsFrom_eq_map_ways (definition : PatternDefinition)
    (tokens : List String) (start : Nat) :
    definition.alignmentsFrom tokens start =
      (Element.ways tokens definition.elements
        (fun position => [⟨0, tokens.length - position, []⟩]) start).map
          (Laying.underWildcard 0 start).before := by
  simp only [PatternDefinition.alignmentsFrom, Element.ways, List.map_singleton, List.map_flatMap]
  rw [List.map_eq_flatMap]
  apply List.flatMap_congr
  intro laying _
  simp [Laying.alignment, Laying.before, Laying.underWildcard, Nat.add_assoc]

theorem PatternDefinition.narrowest_alignmentsFrom (definition : PatternDefinition)
    (tokens : List String) (start literal : Nat) :
    Suffix.narrowest literal (definition.alignmentsFrom tokens start) =
      (Suffix.narrowest literal (Element.ways tokens definition.elements
        (fun position => [⟨0, tokens.length - position, []⟩]) start)).map fun suffix =>
          ⟨start + suffix.gap, suffix.captures⟩ := by
  rw [PatternDefinition.alignmentsFrom_eq_map_ways, Suffix.narrowest_map_before]
  simp [Laying.underWildcard]

/-- The number of literal tokens and the suffix make an alignment, so nothing is lost. -/
theorem Suffix.narrowest_eq_some_iff (ways : List Alignment) (alignment : Alignment) :
    narrowest alignment.literal ways = some alignment.suffix ↔
      (ways.filter (·.literal = alignment.literal)).argmin Alignment.gap = some alignment := by
  rw [narrowest, Option.map_eq_some_iff]
  constructor
  · rintro ⟨way, isNarrowest, same⟩
    have member := List.mem_filter.1 (List.argmin_mem isNarrowest)
    have literal := of_decide_eq_true member.2
    rcases way with ⟨_, gap, captures⟩
    rcases alignment with ⟨_, _, _⟩
    cases literal
    cases same
    exact isNarrowest
  · intro isNarrowest
    exact ⟨alignment, isNarrowest, rfl⟩

variable {definition : PatternDefinition} {pattern : Pattern} {tokens : List Token}

/-- The candidates from a start are the first ones of the narrowest alignments from there. -/
theorem PatternDefinition.mem_candidatesFrom_iff (compiled : definition.compile = .ok pattern)
    {start : Nat} (inBounds : start ≤ tokens.length) (alignment : Alignment) :
    alignment ∈ pattern.candidatesFrom tokens start ↔ 0 < alignment.literal ∧
      ((definition.alignmentsFrom (tokens.map Token.value) start).filter (·.literal = alignment.literal)).argmin
        Alignment.gap = some alignment := by
  obtain ⟨-, after, parts⟩ := (definition.compile_eq_ok_iff pattern).1 compiled
  have holds := parts.solveEach_holds (Column.Holds.afterLastPart tokens.length) start inBounds
  rw [Pattern.candidatesFrom, Alignment.mem_ofFrontier_iff, holds alignment.literal,
    ← Suffix.narrowest_eq_some_iff, PatternDefinition.narrowest_alignmentsFrom, List.length_map,
    Option.map_eq_some_iff]
  apply and_congr_right
  intro _
  apply exists_congr
  intro suffix
  apply and_congr_right
  intro _
  rcases alignment with ⟨literal, gap, captures⟩
  simp only [Alignment.suffix, Alignment.mk.injEq, Suffix.mk.injEq, true_and, eq_comm]

theorem PatternDefinition.aligns_of_mem_alignmentsFrom {start : Nat}
    (inBounds : start ≤ tokens.length) {alignment : Alignment}
    (member : alignment ∈ definition.alignmentsFrom (tokens.map Token.value) start) :
    definition.Aligns (tokens.map Token.value) alignment := by
  rw [← definition.mem_alignments_iff, alignments, List.length_map]
  exact List.mem_flatMap.2 ⟨start, List.mem_range.2 (Nat.lt_succ_iff.2 inBounds), member⟩

theorem PatternDefinition.aligns_of_mem_candidatesFrom (compiled : definition.compile = .ok pattern)
    {start : Nat} (inBounds : start ≤ tokens.length) {alignment : Alignment}
    (member : alignment ∈ pattern.candidatesFrom tokens start) :
    definition.Aligns (tokens.map Token.value) alignment ∧ 0 < alignment.literal := by
  obtain ⟨positive, narrowest⟩ := (mem_candidatesFrom_iff compiled inBounds alignment).1 member
  have found := List.mem_of_mem_filter (List.argmin_mem narrowest)
  exact ⟨aligns_of_mem_alignmentsFrom inBounds found, positive⟩

theorem PatternDefinition.aligns_of_mem_candidates (compiled : definition.compile = .ok pattern)
    {alignment : Alignment} (member : alignment ∈ Alignment.candidates pattern tokens) :
    definition.Aligns (tokens.map Token.value) alignment ∧ 0 < alignment.literal := by
  rw [Alignment.candidates_eq_flatMap, List.mem_flatMap] at member
  obtain ⟨start, range, fromStart⟩ := member
  have inBounds : start ≤ tokens.length := Nat.lt_succ_iff.1 (List.mem_range.1 range)
  exact aligns_of_mem_candidatesFrom compiled inBounds fromStart

/-- For every alignment with a literal token there is a candidate from the same start with as many
of them, and with no wider gap. -/
theorem PatternDefinition.exists_candidateFrom (compiled : definition.compile = .ok pattern)
    {start : Nat} (inBounds : start ≤ tokens.length) {alignment : Alignment}
    (found : alignment ∈ definition.alignmentsFrom (tokens.map Token.value) start)
    (positive : 0 < alignment.literal) :
    ∃ candidate ∈ pattern.candidatesFrom tokens start,
      candidate.literal = alignment.literal ∧ candidate.gap ≤ alignment.gap := by
  have competes : alignment ∈ (definition.alignmentsFrom (tokens.map Token.value) start).filter
      (·.literal = alignment.literal) := List.mem_filter.2 ⟨found, decide_eq_true rfl⟩
  cases narrowest : ((definition.alignmentsFrom (tokens.map Token.value) start).filter
      (·.literal = alignment.literal)).argmin Alignment.gap with
  | none =>
    rw [List.argmin_eq_none.1 narrowest] at competes
    cases competes
  | some candidate =>
    have literal := of_decide_eq_true (List.mem_filter.1 (List.argmin_mem narrowest)).2
    refine ⟨candidate, (mem_candidatesFrom_iff compiled inBounds candidate).2 ⟨?_, ?_⟩, literal,
      List.le_of_mem_argmin competes narrowest⟩
    · rw [literal]
      exact positive
    · rw [literal]
      exact narrowest

end SkillDispatch
