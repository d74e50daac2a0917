import SkillDispatch.Proofs.CharacterPieces

set_option autoImplicit false

namespace SkillDispatch.Unicode

open Text

/-- The letters of a character: its lowercase, decomposed and without marks. -/
def bareLetters (c : Char) : List Char :=
  ((lowercase c).flatMap decompose).filter fun d => !isMark d

/-- A character that is a letter of itself. -/
structure Bare (c : Char) : Prop where
  unmarked : isMark c = false
  small : isCapital c = false
  whole : decompose c = [c]

theorem Bare.bareLetters_eq {c : Char} (bare : Bare c) : bareLetters c = [c] := by
  rw [bareLetters, lowercase_of_not_capital bare.small, List.flatMap_singleton, bare.whole]
  simp [bare.unmarked]

theorem bareLetters_of_not_capital {c : Char} (small : isCapital c = false) :
    bareLetters c = (decompose c).filter fun d => !isMark d := by
  rw [bareLetters, lowercase_of_not_capital small, List.flatMap_singleton]

/-- Every character but the dotted i has one small letter, which is a mark if the character is. -/
theorem exists_small (c : Char) (notDotted : c ≠ '\u0130') :
    ∃ small, lowercase c = [small] ∧ small.toNat = smallIn capitalRuns c.toNat ∧
      isCapital small = false ∧ isMark small = isMark c := by
  cases capital : isCapital c with
  | false =>
    obtain ⟨-, same⟩ := smallIn_of_not_capital capital
    exact ⟨c, lowercase_of_not_capital capital, same.symm, capital, rfl⟩
  | true =>
    obtain ⟨small, lower, isSmall, member⟩ := lowercase_of_capital capital notDotted
    obtain ⟨unmarked, notCapital⟩ := small_plain member
    refine ⟨small, lower, isSmall, notCapital, ?_⟩
    rw [unmarked, eq_comm, Bool.eq_false_iff]
    intro mark
    rw [not_capital_of_mark mark] at capital
    cases capital

theorem bareLetters_dotted : bareLetters '\u0130' = ['i'] := by
  decide +kernel

theorem bareLetters_eq_nil_iff (c : Char) : bareLetters c = [] ↔ isMark c = true := by
  by_cases dotted : c = '\u0130'
  · rw [dotted, bareLetters_dotted]
    decide +kernel
  · obtain ⟨small, lower, -, -, marks⟩ := exists_small c dotted
    rw [bareLetters, lower, List.flatMap_singleton, List.filter_eq_nil_iff, ← marks,
      (decompose_splits small).marks, List.all_eq_true]
    simp

theorem bare_of_mem_bareLetters {c d : Char} (member : d ∈ bareLetters c) : Bare d := by
  by_cases dotted : c = '\u0130'
  · rw [dotted, bareLetters_dotted, List.mem_singleton] at member
    subst member
    exact ⟨by decide +kernel, by decide +kernel, by decide +kernel⟩
  · obtain ⟨small, lower, -, notCapital, -⟩ := exists_small c dotted
    rw [bareLetters, lower, List.flatMap_singleton, List.mem_filter, Bool.not_eq_true'] at member
    have splits := decompose_splits small
    exact ⟨member.2, splits.small notCapital d member.1 member.2, splits.whole d member.1⟩

/-! ### The letters of a decomposition -/

theorem decompositionIn_of_mem {low : Nat} {table : List (Nat × List Nat)}
    (apart : CodeRanges.apartFrom low (table.map fun entry => (entry.1, entry.1)) = true)
    {code : Nat} {pieces : List Nat} (entry : (code, pieces) ∈ table) :
    decompositionIn table code = pieces := by
  induction table generalizing low with
  | nil => cases entry
  | cons head rest ih =>
    obtain ⟨composed, itsPieces⟩ := head
    obtain ⟨-, -, later⟩ := CodeRanges.apartFrom_cons apart
    rw [decompositionIn]
    rcases List.mem_cons.1 entry with same | inRest
    · cases same
      rw [if_neg (Nat.lt_irrefl code), if_pos rfl]
    · have above := CodeRanges.le_of_apartFrom later (code, code)
        (List.mem_map.2 ⟨(code, pieces), inRest, rfl⟩)
      rw [if_neg (by omega), if_neg (by omega), ih later inRest]

/-- Looks up a capital by the end of its run. -/
def smallAt (runs : List CapitalRun) (code : Nat) : Nat :=
  match runs.find? fun run => Nat.ble code run.last with
  | some run =>
    if Nat.ble run.first code && Nat.beq ((code - run.first) % run.stride) 0 then
      run.small + (code - run.first)
    else code
  | none => code

theorem smallAt_eq {low : Nat} {runs : List CapitalRun}
    (apart : CodeRanges.apartFrom low (runs.map CapitalRun.bounds) = true) (code : Nat) :
    smallAt runs code = smallIn runs code := by
  induction runs generalizing low with
  | nil => rfl
  | cons run rest ih =>
    obtain ⟨-, ordered, later⟩ := CodeRanges.apartFrom_cons apart
    rw [smallIn, smallAt, List.find?_cons]
    by_cases inside : code ≤ run.last
    · have ends : Nat.ble code run.last = true := Nat.ble_eq_true_of_le inside
      rw [ends, if_pos inside]
      by_cases below : code < run.first
      · have starts : Nat.ble run.first code = false := by
          rw [Bool.eq_false_iff, ne_eq, Nat.ble_eq]
          omega
        simp only [starts, Bool.false_and, Bool.false_eq_true, if_false, if_pos below]
      · have starts : Nat.ble run.first code = true := Nat.ble_eq_true_of_le (by omega)
        simp only [starts, Bool.true_and, Nat.beq_eq, if_neg below]
    · have ends : Nat.ble code run.last = false := by
        rw [Bool.eq_false_iff, ne_eq, Nat.ble_eq]
        exact inside
      have notBelow : ¬code < run.first := by omega
      rw [ends, if_neg notBelow, if_neg inside, ← ih later]
      rfl

def unmarkedCodes (codes : List Nat) : List Nat :=
  codes.filter fun code => !markBits.testBit code

/-- Checks that the small letter of a capital decomposes into the small letters of its pieces. -/
def lowersPieces (table : List (Nat × List Nat)) (code : Nat) (pieces : List Nat) : Bool :=
  let small := smallAt capitalRuns code
  let letters := (unmarkedCodes pieces).map (smallAt capitalRuns)
  (letters.all fun letter => !composedBits.testBit letter) &&
    match table.find? fun entry => Nat.beq entry.1 small with
    | some entry => unmarkedCodes entry.2 == letters
    | none => !composedBits.testBit small && letters == [small]

/-- Checks this for the capitals of one table, whose small letters another table lists. -/
def lowersEach (table smalls : List (Nat × List Nat)) : Bool :=
  table.all fun (code, pieces) =>
    !capitalBits.testBit code || Nat.beq code '\u0130'.toNat || lowersPieces smalls code pieces

theorem tables_lowered :
    (lowersEach latinDecompositions latinDecompositions = true ∧
      lowersEach scriptDecompositions scriptDecompositions = true ∧
      lowersEach latinAdditionalDecompositions latinAdditionalDecompositions = true ∧
      lowersEach greekExtendedDecompositions greekExtendedDecompositions = true ∧
      lowersEach symbolDecompositions latinDecompositions = true) ∧
    (lowersEach ideographDecompositions [] = true ∧
      lowersEach supplementaryDecompositions [] = true ∧
      lowersEach ideographSupplementDecompositions [] = true) := by
  decide +kernel

theorem decompositions_lowered {code : Nat} {pieces : List Nat}
    (entry : (code, pieces) ∈ decompositions) :
    ∃ smalls, smalls ⊆ decompositions ∧
      (!capitalBits.testBit code || Nat.beq code '\u0130'.toNat ||
        lowersPieces smalls code pieces) = true := by
  obtain ⟨⟨latins, scripts, additionals, greeks, symbols⟩, ideographs, supplements, others⟩ :=
    tables_lowered
  have each : ∀ {table smalls : List (Nat × List Nat)}, lowersEach table smalls = true →
      (code, pieces) ∈ table → smalls ⊆ decompositions →
      ∃ smalls, smalls ⊆ decompositions ∧
        (!capitalBits.testBit code || Nat.beq code '\u0130'.toNat ||
          lowersPieces smalls code pieces) = true :=
    fun checked member subset => ⟨_, subset, List.all_eq_true.1 checked _ member⟩
  have latin : latinDecompositions ⊆ decompositions := fun _ member => by
    simp only [decompositions, List.mem_append, member, true_or]
  have script : scriptDecompositions ⊆ decompositions := fun _ member => by
    simp only [decompositions, List.mem_append, member, true_or, or_true]
  have additional : latinAdditionalDecompositions ⊆ decompositions := fun _ member => by
    simp only [decompositions, List.mem_append, member, true_or, or_true]
  have greek : greekExtendedDecompositions ⊆ decompositions := fun _ member => by
    simp only [decompositions, List.mem_append, member, true_or, or_true]
  have nothing : [] ⊆ decompositions := List.nil_subset _
  have split := entry
  rw [decompositions] at split
  simp only [List.mem_append] at split
  rcases split with ((((((member | member) | member) | member) | member) | member) | member) | member
  · exact each latins member latin
  · exact each scripts member script
  · exact each additionals member additional
  · exact each greeks member greek
  · exact each symbols member latin
  · exact each ideographs member nothing
  · exact each supplements member nothing
  · exact each others member nothing

theorem map_ofNat_unmarkedCodes {codes : List Nat}
    (characters : ∀ code ∈ codes, (Char.ofNat code).toNat = code) :
    (unmarkedCodes codes).map Char.ofNat =
      (codes.map Char.ofNat).filter fun c => !isMark c := by
  rw [unmarkedCodes, List.filter_map]
  congr 1
  apply List.filter_congr
  intro code member
  rw [Function.comp_apply, isMark_eq, characters code member]

theorem decompose_of_mem {c : Char} {codes : List Nat}
    (entry : (c.toNat, codes) ∈ decompositions) : decompose c = codes.map Char.ofNat := by
  have apart : CodeRanges.apartFrom 0 (decompositions.map fun entry => (entry.1, entry.1)) =
      true := by decide +kernel
  have key := (testBit_codeBits (decompositions.map Prod.fst) c.toNat).2
    (List.mem_map_of_mem (f := Prod.fst) entry)
  have notHangul := testBit_of_disjoint set_facts.syllables key
  have notSyllable : ¬(0xAC00 ≤ c.toNat ∧ c.toNat < 0xAC00 + 11172) := by
    rintro ⟨first, last⟩
    rw [testBit_spanBits, decide_eq_true first, decide_eq_true (by omega)] at notHangul
    cases notHangul
  rw [decompose, if_neg notSyllable, decompositionIn_of_mem apart entry]

/-- The letters of a listed capital are the lowercase of the letters that it decomposes into. -/
theorem bareLetters_of_listed {c : Char} (capital : isCapital c = true) (notDotted : c ≠ '\u0130')
    {codes : List Nat} (entry : (c.toNat, codes) ∈ decompositions) :
    bareLetters c = ((unmarkedCodes codes).map (smallIn capitalRuns)).map Char.ofNat ∧
      ∀ letter ∈ (unmarkedCodes codes).map (smallIn capitalRuns),
        composedBits.testBit letter = false := by
  obtain ⟨smalls, subset, checked⟩ := decompositions_lowered entry
  have isDotted : Nat.beq c.toNat '\u0130'.toNat = false := by
    rw [Bool.eq_false_iff, ne_eq, Nat.beq_eq, Char.toNat_inj]
    exact notDotted
  rw [← isCapital_eq, capital, isDotted, Bool.not_true, Bool.false_or, Bool.false_or, lowersPieces,
    Bool.and_eq_true, List.all_eq_true] at checked
  simp only [smallAt_eq capitalRuns_apart, funext (smallAt_eq capitalRuns_apart),
    Bool.not_eq_true'] at checked
  refine ⟨?_, checked.1⟩
  obtain ⟨small, lower, isSmall, member⟩ := lowercase_of_capital capital notDotted
  obtain ⟨unmarked, -⟩ := small_plain member
  rw [bareLetters, lower, List.flatMap_singleton]
  have result := checked.2
  split at result
  · rename_i found listed
    have at_ := List.find?_some listed
    have inTable := subset (List.mem_of_find?_eq_some listed)
    rw [Nat.beq_eq, ← isSmall] at at_
    obtain ⟨code, pieces⟩ := found
    cases at_
    rw [decompose_of_mem inTable, ← map_ofNat_unmarkedCodes (toNat_of_listed inTable)]
    exact congrArg _ (beq_iff_eq.1 result)
  · rw [Bool.and_eq_true, Bool.not_eq_true', beq_iff_eq, ← isSmall] at result
    rw [decompose_of_not_composed result.1, result.2]
    simp [unmarked, Char.ofNat_toNat]

/-- An unmarked piece whose lowercase stays whole has this as its one letter. -/
theorem bareLetters_of_piece {piece : Char} (whole : decompose piece = [piece])
    (unmarked : isMark piece = false)
    (lowered : composedBits.testBit (smallIn capitalRuns piece.toNat) = false) :
    bareLetters piece = [Char.ofNat (smallIn capitalRuns piece.toNat)] := by
  have notDotted : piece ≠ '\u0130' := by
    rintro rfl
    exact absurd whole (by decide +kernel)
  obtain ⟨small, lower, isSmall, -, marks⟩ := exists_small piece notDotted
  rw [← isSmall] at lowered
  rw [bareLetters, lower, List.flatMap_singleton, decompose_of_not_composed lowered, ← isSmall,
    Char.ofNat_toNat]
  simp [marks, unmarked]

theorem flatMap_bareLetters_eq_map {pieces : List Char} (letter : Char → Char)
    (each : ∀ piece ∈ pieces, isMark piece = false → bareLetters piece = [letter piece]) :
    pieces.flatMap bareLetters = (pieces.filter fun c => !isMark c).map letter := by
  induction pieces with
  | nil => rfl
  | cons c rest ih =>
    obtain ⟨here, later⟩ := List.forall_mem_cons.1 each
    rw [List.flatMap_cons, ih later]
    cases mark : isMark c with
    | true =>
      rw [(bareLetters_eq_nil_iff c).2 mark, List.filter_cons_of_neg (by simp [mark])]
      rfl
    | false =>
      rw [here mark, List.filter_cons_of_pos (by simp [mark]), List.map_cons]
      rfl

theorem flatMap_bareLetters_decompose (c : Char) :
    (decompose c).flatMap bareLetters = bareLetters c := by
  have splits := decompose_splits c
  cases capital : isCapital c with
  | false =>
    rw [bareLetters_of_not_capital capital, flatMap_bareLetters_eq_map id, List.map_id]
    intro piece member unmarked
    exact Bare.bareLetters_eq
      ⟨unmarked, splits.small capital piece member unmarked, splits.whole piece member⟩
  | true =>
    by_cases dotted : c = '\u0130'
    · subst dotted
      decide +kernel
    rcases decompose_cases c with same | ⟨codes, entry, listed⟩ | ⟨first, last, -⟩
    · rw [same, List.flatMap_singleton]
    · obtain ⟨letters, whole⟩ := bareLetters_of_listed capital dotted entry
      have lowered : ∀ piece ∈ decompose c, isMark piece = false →
          bareLetters piece = [Char.ofNat (smallIn capitalRuns piece.toNat)] := by
        intro piece member unmarked
        refine bareLetters_of_piece (splits.whole piece member) unmarked (whole _ ?_)
        rw [listed] at member
        obtain ⟨code, inCodes, rfl⟩ := List.mem_map.1 member
        have back := toNat_of_listed entry code inCodes
        rw [back]
        apply List.mem_map_of_mem
        rw [unmarkedCodes, List.mem_filter, ← back, ← isMark_eq, unmarked, back]
        exact ⟨inCodes, rfl⟩
      rw [letters, flatMap_bareLetters_eq_map _ lowered, listed,
        ← map_ofNat_unmarkedCodes (toNat_of_listed entry), List.map_map, List.map_map]
      apply List.map_congr_left
      intro code member
      have back := toNat_of_listed entry code (List.mem_filter.1 member).1
      rw [Function.comp_apply, Function.comp_apply, back]
    · have hangul : hangulBits.testBit c.toNat = true := by
        rw [hangulBits, Nat.testBit_or, testBit_spanBits 0xAC00, decide_eq_true first,
          decide_eq_true last]
        exact Bool.or_true _
      rw [(set_facts.hangul.letter hangul).notCapital] at capital
      cases capital

end SkillDispatch.Unicode
