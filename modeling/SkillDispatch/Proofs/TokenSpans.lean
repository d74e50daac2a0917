import SkillDispatch.Proofs.MaximalRuns
import SkillDispatch.Slot
import SkillDispatch.Utterance

set_option autoImplicit false

namespace SkillDispatch

open Text

namespace Text

/-- A byte at which a character begins, or the end of the text. -/
def IsBoundary (chars : List Char) (byte : Nat) : Prop :=
  ∃ before after, chars = before ++ after ∧ byteLength before = byte

/-- Of two beginnings of a text the shorter one is a beginning of the longer one. -/
theorem exists_between {chars before rest longBefore after : List Char}
    (split : chars = before ++ rest) (longSplit : chars = longBefore ++ after)
    (ordered : byteLength before ≤ byteLength longBefore) :
    ∃ between, longBefore = before ++ between ∧ rest = between ++ after := by
  rcases List.append_eq_append_iff.1 (split.symm.trans longSplit) with
    between | ⟨between, grown, restSplit⟩
  · exact between
  · have noneBetween : between = [] := by
      apply byteLength_eq_zero
      rw [grown, byteLength_append] at ordered
      omega
    rw [noneBetween, List.append_nil] at grown
    rw [noneBetween, List.nil_append] at restSplit
    exact ⟨[], by rw [grown, List.append_nil], restSplit.symm⟩

theorem IsBoundary.exists_between {chars : List Char} {first second : Nat}
    (firstBoundary : IsBoundary chars first) (secondBoundary : IsBoundary chars second)
    (ordered : first ≤ second) :
    ∃ before between after, chars = before ++ between ++ after ∧ byteLength before = first ∧
      byteLength before + byteLength between = second := by
  obtain ⟨before, rest, split, rfl⟩ := firstBoundary
  obtain ⟨longBefore, after, longSplit, rfl⟩ := secondBoundary
  obtain ⟨between, grown, -⟩ := Text.exists_between split longSplit ordered
  refine ⟨before, between, after, ?_, rfl, ?_⟩
  · rw [longSplit, grown]
  · rw [grown, byteLength_append]

end Text

/-- Every token begins and ends at a boundary of the text. -/
theorem tokenize_boundaries {text : String} {token : Token} (member : token ∈ tokenize text) :
    IsBoundary text.toList token.span.start ∧ IsBoundary text.toList token.span.stop ∧
      token.span.start ≤ token.span.stop := by
  obtain ⟨⟨start, word⟩, inRuns, -, isToken⟩ := exists_run_of_mem_tokenize member
  obtain ⟨before, after, split, begins⟩ := runs_stand inRuns
  rw [isToken]
  rw [Nat.zero_add] at begins
  cases begins
  refine ⟨⟨before, word ++ after, ?_, rfl⟩, ⟨before ++ word, after, split, ?_⟩,
    Nat.le_add_right _ _⟩
  · rw [split, List.append_assoc]
  · exact byteLength_append ..

theorem tokenize_apart (text : String) :
    (tokenize text).Pairwise fun first second => first.span.stop < second.span.start := by
  have apart := (runs_apart 0 text.toList).filter Run.isToken
  rw [List.pairwise_iff_getElem] at apart ⊢
  intro first second firstInside secondInside before
  simp only [tokenize, List.length_mapIdx, List.getElem_mapIdx] at firstInside secondInside ⊢
  exact apart first second firstInside secondInside before

namespace Utterance

/-- A slot value is the piece of the utterance from its first token to its last one. -/
structure Cuts (utterance : Utterance) (value : SlotValue) : Prop where
  first : ∃ token, utterance.tokens[value.tokens.start]? = some token ∧
    token.span.start = value.span.start
  last : ∃ token, utterance.tokens[value.tokens.stop - 1]? = some token ∧
    token.span.stop = value.span.stop
  text : ∃ before after, utterance.text.toList = before ++ value.text.toList ++ after ∧
    value.span = ⟨byteLength before, byteLength before + byteLength value.text.toList⟩

theorem boundaries (utterance : Utterance) {token : Token} (member : token ∈ utterance.tokens) :
    IsBoundary utterance.text.toList token.span.start ∧
      IsBoundary utterance.text.toList token.span.stop ∧ token.span.start ≤ token.span.stop :=
  tokenize_boundaries (utterance.tokens_eq ▸ member)

theorem start_le_stop (utterance : Utterance) {first last : Nat} (ordered : first ≤ last)
    (firstInside : first < utterance.tokens.length) (lastInside : last < utterance.tokens.length) :
    utterance.tokens[first].span.start ≤ utterance.tokens[last].span.stop := by
  have firstOrdered := (utterance.boundaries (List.getElem_mem firstInside)).2.2
  have lastOrdered := (utterance.boundaries (List.getElem_mem lastInside)).2.2
  rcases Nat.lt_or_eq_of_le ordered with before | same
  · have apart := tokenize_apart utterance.text
    rw [← utterance.tokens_eq] at apart
    have follows := List.pairwise_iff_getElem.1 apart _ _ firstInside lastInside before
    omega
  · subst same
    exact firstOrdered

theorem exists_cut (utterance : Utterance) {range : Span} (some : range.start < range.stop)
    (inBounds : range.stop ≤ utterance.length) :
    ∃ span, utterance.byteSpan? range = .some span ∧
      utterance.Cuts ⟨utterance.textAt span, range, span⟩ := by
  have stopInside : range.stop - 1 < utterance.tokens.length := by
    have length : utterance.length = utterance.tokens.length := rfl
    omega
  have startInside : range.start < utterance.tokens.length := by omega
  have firstAt := List.getElem?_eq_getElem startInside
  have lastAt := List.getElem?_eq_getElem stopInside
  have firstBoundary := (utterance.boundaries (List.getElem_mem startInside)).1
  have lastBoundary := (utterance.boundaries (List.getElem_mem stopInside)).2.1
  have ordered := utterance.start_le_stop (Nat.le_sub_one_of_lt some) startInside stopInside
  obtain ⟨before, between, after, split, start, stop⟩ :=
    firstBoundary.exists_between lastBoundary ordered
  have cut : utterance.textAt ⟨utterance.tokens[range.start].span.start,
      utterance.tokens[range.stop - 1].span.stop⟩ = String.ofList between := by
    rw [textAt, ← start, ← stop, split, slice_append]
  refine ⟨⟨utterance.tokens[range.start].span.start, utterance.tokens[range.stop - 1].span.stop⟩,
    ?_, ⟨_, firstAt, rfl⟩, ⟨_, lastAt, rfl⟩, before, after, ?_, ?_⟩
  · rw [byteSpan?, if_pos some, firstAt, lastAt]
  · rw [cut, String.toList_ofList, split]
  · rw [cut, String.toList_ofList, stop, start]

theorem byteSpan?_eq_none (utterance : Utterance) {range : Span}
    (outside : ¬(range.start < range.stop ∧ range.stop ≤ utterance.length)) :
    utterance.byteSpan? range = none := by
  unfold byteSpan?
  by_cases some : range.start < range.stop
  · have beyond : utterance.tokens[range.stop - 1]? = none := by
      have length : utterance.length = utterance.tokens.length := rfl
      exact List.getElem?_eq_none (by omega)
    rw [if_pos some, beyond]
    cases utterance.tokens[range.start]? <;> rfl
  · rw [if_neg some]

end Utterance

end SkillDispatch
