import SkillDispatch.Program.Slots
import SkillDispatch.Proofs.ProgramAlignment
import SkillDispatch.Proofs.Soundness

set_option autoImplicit false

namespace SkillDispatch

open Text

namespace Text

theorem atBoundary_iff (chars : List Char) (byte : Nat) :
    atBoundary chars byte = true ↔ IsBoundary chars byte := by
  induction chars generalizing byte with
  | nil =>
    rw [atBoundary, beq_iff_eq, IsBoundary]
    constructor
    · rintro rfl
      exact ⟨[], [], rfl, rfl⟩
    · rintro ⟨before, after, split, length⟩
      rw [(List.append_eq_nil_iff.1 split.symm).1] at length
      exact length.symm
  | cons c chars ih =>
    rw [atBoundary, Bool.or_eq_true, Bool.and_eq_true, beq_iff_eq, decide_eq_true_iff, ih]
    constructor
    · rintro (rfl | ⟨fits, before, after, rfl, length⟩)
      · exact ⟨[], c :: chars, rfl, rfl⟩
      · refine ⟨c :: before, after, rfl, ?_⟩
        rw [byteLength_cons, length]
        omega
    · rintro ⟨before, after, split, length⟩
      cases before with
      | nil => exact Or.inl length.symm
      | cons first before =>
        obtain ⟨rfl, rfl⟩ := List.cons.inj split
        rw [byteLength_cons] at length
        exact Or.inr ⟨by omega, before, after, rfl, by omega⟩

end Text

namespace Utterance

/-- The bytes of any range are looked up without a crash. -/
theorem spanOf_eq (utterance : Utterance) (range : Span) :
    utterance.spanOf range = .ok (utterance.byteSpan? range) := by
  by_cases both : range.start < range.stop ∧ range.stop ≤ utterance.length
  · have length : utterance.length = utterance.tokens.length := rfl
    have startInside : range.start < utterance.tokens.length := by omega
    have lastInside : range.stop - 1 < utterance.tokens.length := by omega
    have firstAt := List.getElem?_eq_getElem startInside
    have lastAt := List.getElem?_eq_getElem lastInside
    rw [spanOf, byteSpan?, if_pos both, if_pos both.1, Checked.entry_eq firstAt]
    dsimp only [Bind.bind, Except.bind]
    rw [Checked.minus_eq (by omega)]
    dsimp only
    rw [Checked.entry_eq lastAt, firstAt, lastAt]
    rfl
  · rw [utterance.byteSpan?_eq_none both, spanOf, if_neg both]
    rfl

structure Cuttable (utterance : Utterance) (span : Span) : Prop where
  ordered : span.start ≤ span.stop
  start : IsBoundary utterance.text.toList span.start
  stop : IsBoundary utterance.text.toList span.stop

theorem Cuttable.piece_eq {utterance : Utterance} {span : Span}
    (cuttable : utterance.Cuttable span) : utterance.piece span = .ok (utterance.textAt span) := by
  have start := (atBoundary_iff ..).2 cuttable.start
  have stop := (atBoundary_iff ..).2 cuttable.stop
  exact if_pos ⟨cuttable.ordered, start, stop⟩

/-- Every range of tokens can be cut out of the text. -/
theorem exists_cuttable (utterance : Utterance) {range : Span} (some : range.start < range.stop)
    (inside : range.stop ≤ utterance.length) :
    ∃ span, utterance.byteSpan? range = .some span ∧ utterance.Cuttable span := by
  obtain ⟨span, isSpan, cuts⟩ := utterance.exists_cut some inside
  obtain ⟨before, after, split, isPiece⟩ := cuts.text
  dsimp only at split isPiece
  refine ⟨span, isSpan, ?_, ?_, ?_⟩
  · rw [isPiece]
    exact Nat.le_add_right _ _
  · rw [isPiece, split, List.append_assoc]
    exact ⟨before, _, rfl, rfl⟩
  · rw [isPiece, split]
    exact ⟨before ++ _, after, rfl, byteLength_append _ _⟩

end Utterance

namespace Program

variable {program : Program} {pattern : Pattern} {scorer : Scorer} {tokens : List Token}

/-- A capture has a slot of the program, and one token or more. -/
structure InBounds (program : Program) (count : Nat) (capture : Nat × Span) : Prop where
  slot : capture.1 < program.slots.length
  some : capture.2.start < capture.2.stop
  inside : capture.2.stop ≤ count

/-- The captures of the best alignment take one token or more. -/
theorem align_captures {scored : Alignment.Scored}
    (aligned : pattern.align scorer tokens = some scored) :
    ∀ capture ∈ scored.alignment.captures,
      capture.2.start < capture.2.stop ∧ capture.2.stop ≤ tokens.length := by
  rw [Pattern.align_eq_argmax] at aligned
  have member := List.mem_of_mem_filter (List.argmax_mem aligned)
  obtain ⟨alignment, candidate, rfl⟩ := List.mem_map.1 member
  rw [Alignment.candidates_eq_flatMap, List.mem_flatMap] at candidate
  obtain ⟨start, range, fromStart⟩ := candidate
  have inside : start ≤ tokens.length := Nat.lt_succ_iff.1 (List.mem_range.1 range)
  obtain ⟨-, suffix, isSuffix, same⟩ := (Alignment.mem_ofFrontier_iff ..).1 fromStart
  have within := Part.solveEach_within pattern.parts (Column.within_afterLastPart tokens.length)
    start inside
  have captures : alignment.captures = suffix.captures := congrArg Alignment.captures same
  show ∀ capture ∈ alignment.captures, _
  rw [captures]
  exact (within _ suffix isSuffix).2

theorem forall_inBounds {captures : List (Nat × Span)} {named : List (String × Span)} {count : Nat}
    (names : List.Forall₂ (NamesSlot program.slots) captures named)
    (ranges : ∀ capture ∈ named, capture.2.start < capture.2.stop ∧ capture.2.stop ≤ count) :
    ∀ capture ∈ captures, program.InBounds count capture := by
  induction names with
  | nil =>
    intro capture member
    cases member
  | cons head _ ih =>
    obtain ⟨here, later⟩ := List.forall_mem_cons.1 ranges
    rw [← head.range] at here
    have slotInside := (List.getElem?_eq_some_iff.1 head.slot).1
    exact List.forall_mem_cons.2 ⟨⟨slotInside, here.1, here.2⟩, ih later⟩

theorem Found.Names.inBounds {found : Found} {scored : Alignment.Scored}
    (names : found.Names program.slots scored)
    (aligned : pattern.align scorer tokens = some scored) :
    ∀ capture ∈ found.captures, program.InBounds tokens.length capture :=
  forall_inBounds names.captures (align_captures aligned)

/-- A capture is bound without a crash, and not left out. -/
theorem bind_eq (utterance : Utterance) (bound : Slots) {capture : Nat × Span}
    {named : String × Span} (bounds : program.InBounds utterance.length capture)
    (names : NamesSlot program.slots capture named) :
    program.bind utterance bound capture = .ok (utterance.bind bound named) := by
  obtain ⟨span, isSpan, cuttable⟩ := utterance.exists_cuttable bounds.some bounds.inside
  rw [bind, utterance.spanOf_eq, isSpan]
  dsimp only [Bind.bind, Except.bind]
  rw [Checked.entry_eq names.slot]
  dsimp only
  rw [cuttable.piece_eq, Utterance.bind, Utterance.cut?, ← names.range, isSpan]
  rfl

/-- Captures are bound one by one without a crash, and none is left out. -/
theorem foldlM_bind_eq (utterance : Utterance) {captures : List (Nat × Span)}
    {named : List (String × Span)} (names : List.Forall₂ (NamesSlot program.slots) captures named)
    (bounds : ∀ capture ∈ captures, program.InBounds utterance.length capture) (bound : Slots) :
    captures.foldlM (program.bind utterance) bound =
      .ok (named.foldl utterance.bind bound) := by
  induction names generalizing bound with
  | nil => rfl
  | cons head _ ih =>
    obtain ⟨here, later⟩ := List.forall_mem_cons.1 bounds
    rw [List.foldlM_cons, List.foldl_cons, bind_eq utterance bound here head]
    exact ih later _

/-- The slots of the best alignment are bound without a crash. -/
theorem Found.Names.slotsOf_eq {utterance : Utterance} {found : Found}
    {scored : Alignment.Scored} (names : found.Names program.slots scored)
    (bounds : ∀ capture ∈ found.captures, program.InBounds utterance.length capture) :
    program.slotsOf utterance found = .ok (scored.alignment.slots utterance) := by
  rw [Alignment.slots_eq_foldl]
  exact foldlM_bind_eq utterance names.captures bounds .empty

/-- A run through a program ends without a crash, in an alignment whose captures have a token or
more. -/
structure Aligns (program : Program) (pattern : Pattern) (scorer : Scorer) (tokens : List Token) :
    Prop where
  result : ∃ result, program.AlignsTo tokens scorer result ∧
    Option.Rel (Found.Names program.slots) result (pattern.align scorer tokens)
  inBounds : ∀ found, program.AlignsTo tokens scorer (some found) →
    ∀ capture ∈ found.captures, program.InBounds tokens.length capture

/-- Every capture of an alignment is cut out of the text, and all slots are bound. -/
structure Binds (program : Program) (pattern : Pattern) (scorer : Scorer) (utterance : Utterance) :
    Prop where
  cuttable : ∀ found, program.AlignsTo utterance.tokens scorer (some found) →
    ∀ capture ∈ found.captures, ∃ span, utterance.spanOf capture.2 = .ok (some span) ∧
      utterance.Cuttable span ∧ utterance.piece span = .ok (utterance.textAt span)
  slots : ∀ found, program.AlignsTo utterance.tokens scorer (some found) →
    ∃ scored, pattern.align scorer utterance.tokens = some scored ∧
      program.slotsOf utterance found = .ok (scored.alignment.slots utterance)

theorem Sound.exists_of_alignsTo (sound : program.Sound pattern) {found : Found}
    (isFound : program.AlignsTo tokens scorer (some found)) :
    ∃ scored, pattern.align scorer tokens = some scored ∧ found.Names program.slots scored := by
  obtain ⟨result, isResult, same⟩ := exists_alignsTo sound scorer tokens
  cases isFound.unique isResult
  cases aligned : pattern.align scorer tokens with
  | none =>
    rw [aligned] at same
    cases same
  | some scored =>
    rw [aligned] at same
    cases same with
    | some names => exact ⟨scored, rfl, names⟩

theorem Sound.aligns (sound : program.Sound pattern) (scorer : Scorer) (tokens : List Token) :
    program.Aligns pattern scorer tokens where
  result := exists_alignsTo sound scorer tokens
  inBounds := by
    intro found isFound
    obtain ⟨scored, aligned, names⟩ := sound.exists_of_alignsTo isFound
    exact names.inBounds aligned

theorem Sound.binds (sound : program.Sound pattern) (scorer : Scorer) (utterance : Utterance) :
    program.Binds pattern scorer utterance := by
  constructor
  · intro found isFound capture member
    have bounds := (sound.aligns scorer utterance.tokens).inBounds found isFound capture member
    obtain ⟨span, isSpan, cuttable⟩ :=
      utterance.exists_cuttable bounds.some bounds.inside
    refine ⟨span, ?_, cuttable, cuttable.piece_eq⟩
    rw [utterance.spanOf_eq, isSpan]
  · intro found isFound
    obtain ⟨scored, aligned, names⟩ := sound.exists_of_alignsTo isFound
    exact ⟨scored, aligned, names.slotsOf_eq (names.inBounds aligned)⟩

end Program

/-- Every pattern has a program, whose jumps go forward and stay within it. On any tokens the search
through it ends without a crash, with the best alignment of the pattern, and its calls nest no deeper
than the program is long; the captures take one token or more, and all of them are cut out of the
text. -/
theorem program_safe (pattern : Pattern) (scorer : Scorer) :
    ∃ program, pattern.program = .ok program ∧ Op.Forward program.ops ∧
      (∀ tokens, program.Aligns pattern scorer tokens) ∧
      ∀ utterance, program.Binds pattern scorer utterance := by
  obtain ⟨program, isProgram, sound⟩ := pattern.exists_program
  exact ⟨program, isProgram, sound.forward, sound.aligns scorer, sound.binds scorer⟩

end SkillDispatch
