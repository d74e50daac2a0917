import SkillDispatch.Proofs.ProgramSafety
import SkillDispatch.Proofs.TokenPieces

set_option autoImplicit false

namespace SkillDispatch

open Text

/-- Beginnings of a text with as many bytes are the same. -/
theorem Text.append_inj_of_byteLength {before rest other more : List Char}
    (same : before ++ rest = other ++ more) (length : byteLength before = byteLength other) :
    before = other := by
  obtain ⟨between, grown, -⟩ := Text.exists_between same rfl (Nat.le_of_eq length.symm)
  have none : between = [] := by
    apply byteLength_eq_zero
    rw [grown, byteLength_append] at length
    omega
  rw [grown, none, List.append_nil]

/-- A piece of a text that begins with one run and ends with another has the tokens of the text that
come after those before the one and up to the other. -/
theorem MaximalRun.tokensOf_between {chars before firstWord rest front lastWord after : List Char}
    (first : MaximalRun chars before firstWord rest) (last : MaximalRun chars front lastWord after)
    {between : List Char} (grown : front ++ lastWord = before ++ between) :
    (tokensOf (runs 0 between)).map
        (Token.after (tokensOf (runs 0 before)).length (byteLength before)) =
      ((tokensOf (runs 0 chars)).take (tokensOf (runs 0 (front ++ lastWord))).length).drop
        (tokensOf (runs 0 before)).length := by
  rw [last.stands, tokensOf_parted (last.parted_after _), List.take_left, grown,
    tokensOf_parted (first.parted_before _), List.drop_left]

namespace Utterance

/-- What a range of tokens cuts out of an utterance. -/
structure CutsOut (utterance : Utterance) (range span : Span) (piece : String) : Prop where
  /-- The piece goes from the first token to the last one. -/
  cuts : utterance.Cuts ⟨piece, range, span⟩
  boundaries : IsBoundary utterance.text.toList span.start ∧
    IsBoundary utterance.text.toList span.stop
  /-- By itself the piece has the tokens of the range, as far from its own beginning as the others
  are from the beginning of the piece. -/
  tokens : (tokenize piece).map (Token.after range.start span.start) =
    (utterance.tokens.take range.stop).drop range.start

/-- What is looked up for a range of tokens. -/
structure RangeLaw (utterance : Utterance) (range : Span) : Prop where
  /-- Nothing is looked up or cut where there is nothing, or within a character. -/
  spanOf_eq : utterance.spanOf range = .ok (utterance.byteSpan? range)
  textOf_eq : utterance.textOf range = .ok (utterance.slice? range)
  span_none : utterance.byteSpan? range = none ↔
    range.stop ≤ range.start ∨ utterance.length < range.stop
  slice_none : utterance.slice? range = none ↔
    range.stop ≤ range.start ∨ utterance.length < range.stop
  cuts : ∀ span, utterance.byteSpan? range = some span →
    ∃ piece, utterance.slice? range = some piece ∧ utterance.CutsOut range span piece

/-- Cut out between the tokens of a range, a piece has these tokens. -/
theorem Cuts.tokens_eq {utterance : Utterance} {value : SlotValue} (cuts : utterance.Cuts value)
    (some : value.tokens.start < value.tokens.stop) :
    (tokenize value.text).map (Token.after value.tokens.start value.span.start) =
      (utterance.tokens.take value.tokens.stop).drop value.tokens.start := by
  obtain ⟨⟨first, firstAt, firstStart⟩, ⟨last, lastAt, lastStop⟩, before, after, split, isSpan⟩ := cuts
  rw [utterance.tokens_eq] at firstAt lastAt ⊢
  obtain ⟨firstBefore, firstWord, rest, firstRun, firstSpan, startCount, -⟩ :=
    exists_maximalRun_of_getElem? firstAt
  obtain ⟨front, lastWord, lastAfter, lastRun, lastSpan, -, stopCount⟩ :=
    exists_maximalRun_of_getElem? lastAt
  have firstStands : firstBefore ++ (firstWord ++ rest) =
      before ++ (value.text.toList ++ after) := by
    rw [← List.append_assoc, ← List.append_assoc, ← firstRun.stands, split]
  have starts : firstBefore = before := by
    apply append_inj_of_byteLength firstStands
    rw [firstSpan, isSpan] at firstStart
    exact firstStart
  have lastStands : front ++ lastWord ++ lastAfter = before ++ value.text.toList ++ after := by
    rw [← lastRun.stands, split]
  have stops : front ++ lastWord = before ++ value.text.toList := by
    apply append_inj_of_byteLength lastStands
    rw [lastSpan, isSpan] at lastStop
    rw [byteLength_append, byteLength_append]
    exact lastStop
  have between := firstRun.tokensOf_between lastRun (starts ▸ stops)
  rw [startCount, stopCount, Nat.sub_add_cancel (Nat.lt_of_le_of_lt (Nat.zero_le _) some),
    starts] at between
  rw [isSpan]
  exact between

/-- A range that is not empty and within the tokens has a piece. -/
theorem exists_cutsOut (utterance : Utterance) {range : Span} (some : range.start < range.stop)
    (inside : range.stop ≤ utterance.length) :
    ∃ span, utterance.byteSpan? range = .some span ∧ utterance.Cuttable span ∧
      utterance.CutsOut range span (utterance.textAt span) := by
  obtain ⟨span, isSpan, cuts⟩ := utterance.exists_cut some inside
  obtain ⟨same, isSame, cuttable⟩ := utterance.exists_cuttable some inside
  cases isSpan.symm.trans isSame
  exact ⟨span, isSpan, cuttable, cuts, ⟨cuttable.start, cuttable.stop⟩, cuts.tokens_eq some⟩

theorem textOf_eq (utterance : Utterance) (range : Span) :
    utterance.textOf range = .ok (utterance.slice? range) := by
  rw [textOf, utterance.spanOf_eq, slice?]
  by_cases both : range.start < range.stop ∧ range.stop ≤ utterance.length
  · obtain ⟨span, isSpan, cuttable⟩ := utterance.exists_cuttable both.1 both.2
    rw [isSpan]
    dsimp only [Bind.bind, Except.bind]
    rw [cuttable.piece_eq]
    rfl
  · rw [utterance.byteSpan?_eq_none both]
    rfl

/-- There are no bytes exactly for the ranges that are empty or go beyond the tokens. -/
theorem byteSpan?_eq_none_iff (utterance : Utterance) (range : Span) :
    utterance.byteSpan? range = none ↔
      range.stop ≤ range.start ∨ utterance.length < range.stop := by
  by_cases both : range.start < range.stop ∧ range.stop ≤ utterance.length
  · obtain ⟨span, isSpan, -⟩ := utterance.exists_cut both.1 both.2
    rw [isSpan]
    constructor
    · nofun
    · omega
  · rw [utterance.byteSpan?_eq_none both]
    constructor
    · omega
    · exact fun _ => rfl

/-- The law holds of every range, also of one that stops before it starts. -/
theorem range_law (utterance : Utterance) (range : Span) : utterance.RangeLaw range where
  spanOf_eq := utterance.spanOf_eq range
  textOf_eq := utterance.textOf_eq range
  span_none := utterance.byteSpan?_eq_none_iff range
  slice_none := by
    rw [slice?, Option.map_eq_none_iff]
    exact utterance.byteSpan?_eq_none_iff range
  cuts := by
    intro span isSpan
    have inBounds : range.start < range.stop ∧ range.stop ≤ utterance.length := by
      have some := mt (utterance.byteSpan?_eq_none_iff range).2 (by rw [isSpan]; nofun)
      omega
    obtain ⟨same, isSame, -, cutsOut⟩ := utterance.exists_cutsOut inBounds.1 inBounds.2
    cases isSpan.symm.trans isSame
    exact ⟨_, by rw [slice?, isSpan, Option.map_some], cutsOut⟩

-- What separates tokens goes with the piece, and an apostrophe that stands alone is no token of it.
example : (Utterance.ofText "say ' «Café ’ au lait»!").slice? ⟨1, 4⟩ = some "Café ’ au lait" := by
  decide +kernel

end Utterance

end SkillDispatch
