import SkillDispatch.Proofs.CharacterSets

set_option autoImplicit false

namespace SkillDispatch.Unicode

open Text

theorem decompositionIn_cases (table : List (Nat × List Nat)) (code : Nat) :
    decompositionIn table code = [code] ∨ (code, decompositionIn table code) ∈ table := by
  induction table with
  | nil => exact Or.inl rfl
  | cons entry rest ih =>
    obtain ⟨composed, pieces⟩ := entry
    rw [decompositionIn]
    split
    · exact Or.inl rfl
    · split
      · rename_i here
        subst here
        exact Or.inr (List.mem_cons_self ..)
      · exact ih.imp id (List.mem_cons_of_mem _)

/-- A character stays whole, is listed with its pieces, or is a Hangul syllable. -/
theorem decompose_cases (c : Char) :
    decompose c = [c] ∨
      (∃ pieces, (c.toNat, pieces) ∈ decompositions ∧ decompose c = pieces.map Char.ofNat) ∨
      (0xAC00 ≤ c.toNat ∧ c.toNat ≤ 0xD7A3 ∧
        decompose c = (hangulLetters (c.toNat - 0xAC00)).map Char.ofNat) := by
  by_cases syllable : 0xAC00 ≤ c.toNat ∧ c.toNat < 0xAC00 + 11172
  · refine Or.inr (Or.inr ⟨syllable.1, by omega, ?_⟩)
    rw [decompose, if_pos syllable]
  · have listed : decompose c = (decompositionIn decompositions c.toNat).map Char.ofNat := by
      rw [decompose, if_neg syllable]
    rcases decompositionIn_cases decompositions c.toNat with same | entry
    · rw [same, List.map_singleton, Char.ofNat_toNat] at listed
      exact Or.inl listed
    · exact Or.inr (Or.inl ⟨_, entry, listed⟩)

theorem decompose_of_not_composed {c : Char} (whole : composedBits.testBit c.toNat = false) :
    decompose c = [c] := by
  rw [composedBits, listedBits, Nat.testBit_or, Bool.or_eq_false_iff, Bool.eq_false_iff, ne_eq,
    testBit_codeBits, testBit_spanBits] at whole
  rcases decompose_cases c with same | ⟨pieces, entry, -⟩ | ⟨first, last, -⟩
  · exact same
  · exact absurd (List.mem_map_of_mem entry) whole.1
  · rw [decide_eq_true first, decide_eq_true last] at whole
    cases whole.2

/-- What a character and the pieces that it decomposes into have in common. -/
structure Splits (c : Char) (pieces : List Char) : Prop where
  nonempty : pieces ≠ []
  /-- Nothing decomposes twice. -/
  whole : ∀ piece ∈ pieces, decompose piece = [piece]
  sigma : 'Σ' ∈ pieces → c = 'Σ'
  marks : isMark c = pieces.all isMark
  /-- A letter that is small is made of small letters. -/
  small : isCapital c = false → ∀ piece ∈ pieces, isMark piece = false → isCapital piece = false
  /-- A character of a token begins with one. -/
  first : isTokenChar c = true → ∃ first rest, pieces = first :: rest ∧ isTokenChar first = true
  /-- What separates tokens in it are marks that casing looks through. -/
  inside : isTokenChar c = true → ∀ piece ∈ pieces, isTokenChar piece = false →
    isMark piece = true ∧ isCaseIgnorable piece = true
  outside : isTokenChar c = false → ∀ piece ∈ pieces, isTokenChar piece = false
  alphanumeric : isAlphanumeric c = pieces.any isAlphanumeric
  ignorable : isCaseIgnorable c = pieces.all isCaseIgnorable
  cased : ∀ piece ∈ pieces, isCaseIgnorable piece = false → isCased piece = isCased c

/-- What counts of a character when texts are split and folded. -/
structure Traits where
  mark : Bool
  capital : Bool
  cased : Bool
  ignorable : Bool
  alphanumeric : Bool
  token : Bool
  composed : Bool

def traits (c : Char) : Traits where
  mark := isMark c
  capital := isCapital c
  cased := isCased c
  ignorable := isCaseIgnorable c
  alphanumeric := isAlphanumeric c
  token := isTokenChar c
  composed := composedBits.testBit c.toNat

/-- Checks what a character and its pieces have in common. -/
def Traits.splits (whole : Traits) (pieces : List Traits) : Bool :=
  (pieces.all fun piece =>
    !piece.composed && (whole.capital || piece.mark || !piece.capital) &&
      (piece.ignorable || piece.cased == whole.cased)) &&
  (whole.mark == pieces.all mark) &&
  (if whole.token then
    (pieces.take 1).any token && pieces.all fun piece =>
      piece.token || piece.mark && piece.ignorable
  else !pieces.any token && !pieces.isEmpty) &&
  (whole.alphanumeric == pieces.any alphanumeric) &&
  (whole.ignorable == pieces.all ignorable)

theorem Splits.of_traits {c : Char} {pieces : List Char} (noSigma : 'Σ' ∉ pieces)
    (checked : (traits c).splits (pieces.map traits) = true) : Splits c pieces := by
  simp only [Traits.splits, traits, Bool.and_eq_true, List.all_map, List.any_map, ← List.map_take,
    List.isEmpty_map, Function.comp_def, beq_iff_eq] at checked
  obtain ⟨⟨⟨⟨each, marks⟩, tokens⟩, alphanumeric⟩, ignorable⟩ := checked
  simp only [List.all_eq_true, Bool.and_eq_true, Bool.not_eq_true', Bool.or_eq_true, beq_iff_eq]
    at each
  have token : isTokenChar c = true →
      (∃ first rest, pieces = first :: rest ∧ isTokenChar first = true) ∧
        ∀ piece ∈ pieces, isTokenChar piece = false →
          isMark piece = true ∧ isCaseIgnorable piece = true := by
    intro token
    rw [if_pos token, Bool.and_eq_true, List.all_eq_true] at tokens
    constructor
    · cases pieces with
      | nil => cases tokens.1
      | cons first rest => exact ⟨first, rest, rfl, by simpa using tokens.1⟩
    · intro piece member separates
      have inside := tokens.2 piece member
      rwa [separates, Bool.false_or, Bool.and_eq_true] at inside
  have separator : isTokenChar c = false →
      pieces ≠ [] ∧ ∀ piece ∈ pieces, isTokenChar piece = false := by
    intro separates
    have notToken : ¬isTokenChar c = true := by rw [separates]; exact Bool.false_ne_true
    rw [if_neg notToken, Bool.and_eq_true, Bool.not_eq_true', Bool.not_eq_true',
      List.any_eq_false] at tokens
    refine ⟨fun empty => ?_, fun piece member => Bool.eq_false_iff.2 (tokens.1 piece member)⟩
    rw [empty] at tokens
    cases tokens.2
  exact
    { nonempty := by
        intro empty
        cases kind : isTokenChar c with
        | false => exact (separator kind).1 empty
        | true =>
          obtain ⟨⟨first, rest, isCons, -⟩, -⟩ := token kind
          rw [isCons] at empty
          cases empty
      whole := fun piece member => decompose_of_not_composed (each piece member).1.1
      sigma := fun member => absurd member noSigma
      marks := marks
      small := by
        intro notCapital piece member unmarked
        rcases (each piece member).1.2 with (capital | mark) | small
        · rw [notCapital] at capital
          cases capital
        · rw [unmarked] at mark
          cases mark
        · exact small
      first := fun kind => (token kind).1
      inside := fun kind => (token kind).2
      outside := fun kind => (separator kind).2
      alphanumeric := alphanumeric
      ignorable := ignorable
      cased := by
        intro piece member seen
        rcases (each piece member).2 with ignored | cased
        · rw [seen] at ignored
          cases ignored
        · exact cased }

theorem Splits.whole_character {c : Char} (same : decompose c = [c]) : Splits c [c] where
  nonempty := List.cons_ne_nil _ _
  whole := fun piece member => by rwa [List.mem_singleton.1 member]
  sigma := fun member => (List.mem_singleton.1 member).symm
  marks := by simp
  small := fun notCapital piece member _ => by rwa [List.mem_singleton.1 member]
  first := fun token => ⟨c, [], rfl, token⟩
  inside := fun token piece member separates => by
    rw [List.mem_singleton.1 member, token] at separates
    cases separates
  outside := fun separates piece member => by rwa [List.mem_singleton.1 member]
  alphanumeric := by simp
  ignorable := by simp
  cased := fun piece member _ => by rw [List.mem_singleton.1 member]

/-- A letter without case, which is no mark. -/
structure CaselessLetter (c : Char) : Prop where
  alphanumeric : isAlphanumeric c = true
  unmarked : isMark c = false
  notCapital : isCapital c = false
  seen : isCaseIgnorable c = false
  uncased : isCased c = false

theorem CaselessLetter.token {c : Char} (letter : CaselessLetter c) : isTokenChar c = true := by
  rw [isTokenChar, letter.alphanumeric, Bool.true_or, Bool.true_or]

theorem CaselessLetters.letter {set : Nat} (caseless : CaselessLetters set) {c : Char}
    (member : set.testBit c.toNat = true) : CaselessLetter c := by
  have none := testBit_of_disjoint caseless.others member
  simp only [Nat.testBit_or, Bool.or_eq_false_iff, ← isMark_eq, ← isCapital_eq,
    ← isCaseIgnorable_eq, ← isCased_eq] at none
  exact
    { alphanumeric := (isAlphanumeric_eq c).trans (testBit_of_subset caseless.letters member)
      unmarked := none.1.1.1
      notCapital := none.1.1.2
      seen := none.1.2
      uncased := none.2 }

theorem hangulLetters_bounds (syllable : Nat) (inside : syllable < 11172) :
    hangulLetters syllable ≠ [] ∧
      ∀ letter ∈ hangulLetters syllable, 0x1100 ≤ letter ∧ letter ≤ 0x11C2 := by
  simp only [hangulLetters]
  split
  · refine ⟨List.cons_ne_nil _ _, ?_⟩
    simp only [List.mem_cons, List.not_mem_nil, or_false, forall_eq_or_imp, forall_eq]
    omega
  · refine ⟨List.cons_ne_nil _ _, ?_⟩
    simp only [List.mem_cons, List.not_mem_nil, or_false, forall_eq_or_imp, forall_eq]
    omega

/-- Letters without case that stay whole have all in common with such a letter. -/
theorem Splits.of_caseless {c : Char} {pieces : List Char} (letter : CaselessLetter c)
    (nonempty : pieces ≠ []) (letters : ∀ piece ∈ pieces, CaselessLetter piece)
    (whole : ∀ piece ∈ pieces, decompose piece = [piece]) : Splits c pieces := by
  obtain ⟨first, rest, rfl⟩ := List.exists_cons_of_ne_nil nonempty
  have firstLetter := letters first (List.mem_cons_self ..)
  exact
    { nonempty := nonempty
      whole := whole
      sigma := fun member => by
        have notCapital := (letters 'Σ' member).notCapital
        exact absurd notCapital (by decide +kernel)
      marks := by rw [letter.unmarked, List.all_cons, firstLetter.unmarked, Bool.false_and]
      small := fun _ piece member _ => (letters piece member).notCapital
      first := fun _ => ⟨first, rest, rfl, firstLetter.token⟩
      inside := fun _ piece member separates => by
        rw [(letters piece member).token] at separates
        cases separates
      outside := fun separates => by
        rw [letter.token] at separates
        cases separates
      alphanumeric := by
        rw [letter.alphanumeric, List.any_cons, firstLetter.alphanumeric, Bool.true_or]
      ignorable := by rw [letter.seen, List.all_cons, firstLetter.seen, Bool.false_and]
      cased := fun piece member _ => by rw [(letters piece member).uncased, letter.uncased] }

/-! ### The entries of the table -/

theorem toNat_of_listed {code : Nat} {codes : List Nat} (entry : (code, codes) ∈ decompositions) :
    ∀ piece ∈ codes, (Char.ofNat piece).toNat = piece := by
  have all : (decompositions.all fun entry => entry.2.all isCharacter) = true := by decide +kernel
  intro piece member
  have valid := List.all_eq_true.1 all (code, codes) entry
  exact toNat_ofNat (isValidChar_of_isCharacter (List.all_eq_true.1 valid piece member))

def below (limit bits : Nat) : Nat := bits % (1 <<< limit)

/-- The traits of a code point below a limit, read from the parts of the sets below it. -/
def traitsBelow (limit code : Nat) : Traits where
  mark := (below limit markBits).testBit code
  capital := (below limit capitalBits).testBit code
  cased := (below limit casedBits).testBit code
  ignorable := (below limit ignorableBits).testBit code
  alphanumeric := (below limit alphanumericBits).testBit code
  token := (below limit tokenBits).testBit code
  composed := (below limit composedBits).testBit code

theorem traitsBelow_eq {limit : Nat} {c : Char} (inside : c.toNat < limit) :
    traitsBelow limit c.toNat = traits c := by
  have same : ∀ bits, (below limit bits).testBit c.toNat = bits.testBit c.toNat := by
    intro bits
    rw [below, Nat.one_shiftLeft, Nat.testBit_mod_two_pow, decide_eq_true inside, Bool.true_and]
  simp only [traitsBelow, traits, same, isMark_eq, isCapital_eq, isCased_eq, isCaseIgnorable_eq,
    isAlphanumeric_eq, isTokenChar_eq]

/-- Checks what a code point and its pieces have in common, if all of them are below a limit. -/
def splitsBelow (limit code : Nat) (pieces : List Nat) : Bool :=
  Nat.blt code limit &&
  (pieces.all fun piece => Nat.blt piece limit && !(Nat.beq piece 'Σ'.toNat)) &&
  (traitsBelow limit code).splits (pieces.map (traitsBelow limit))

theorem Splits.of_splitsBelow {limit : Nat} {c : Char} {codes : List Nat}
    (back : ∀ piece ∈ codes, (Char.ofNat piece).toNat = piece)
    (checked : splitsBelow limit c.toNat codes = true) : Splits c (codes.map Char.ofNat) := by
  simp only [splitsBelow, Bool.and_eq_true, List.all_eq_true, Nat.blt_eq, Bool.not_eq_true']
    at checked
  obtain ⟨⟨inside, each⟩, common⟩ := checked
  have pieces : codes.map (traitsBelow limit) = (codes.map Char.ofNat).map traits := by
    rw [List.map_map]
    apply List.map_congr_left
    intro piece member
    have pieceInside := (each piece member).1
    rw [← back piece member] at pieceInside
    rw [Function.comp_apply, ← traitsBelow_eq pieceInside, back piece member]
  refine Splits.of_traits ?_ ?_
  · rw [List.mem_map]
    rintro ⟨piece, member, isSigma⟩
    have isCode := back piece member
    have notSigma := (each piece member).2
    rw [isSigma] at isCode
    rw [← isCode] at notSigma
    cases notSigma
  · rw [← pieces, ← traitsBelow_eq inside]
    exact common

theorem Splits.of_ideograph {c : Char} {codes : List Nat}
    (entry : (c.toNat, codes) ∈ ideographPairs)
    (back : ∀ piece ∈ codes, (Char.ofNat piece).toNat = piece) :
    Splits c (codes.map Char.ofNat) := by
  have isPiece : ∀ piece ∈ codes, unifiedBits.testBit piece = true := fun piece member =>
    (testBit_codeBits ..).2 (List.mem_flatMap.2 ⟨_, entry, member⟩)
  have isComposed : (codeBits (ideographPairs.map Prod.fst)).testBit c.toNat = true :=
    (testBit_codeBits ..).2 (List.mem_map_of_mem (f := Prod.fst) entry)
  have single : codes.length = 1 := by
    have kept := (List.mem_filter.1 entry).2
    exact Nat.eq_of_beq_eq_true kept
  refine Splits.of_caseless (set_facts.ideographs.letter ?_) ?_ ?_ ?_
  · rw [ideographBits, Nat.testBit_or, isComposed, Bool.true_or]
  · intro empty
    rw [List.map_eq_nil_iff.1 empty] at single
    cases single
  · intro letter member
    obtain ⟨piece, inCodes, rfl⟩ := List.mem_map.1 member
    apply set_facts.ideographs.letter
    rw [back piece inCodes, ideographBits, Nat.testBit_or, isPiece piece inCodes, Bool.or_true]
  · intro letter member
    obtain ⟨piece, inCodes, rfl⟩ := List.mem_map.1 member
    apply decompose_of_not_composed
    rw [back piece inCodes]
    exact testBit_of_disjoint set_facts.unified (isPiece piece inCodes)

def letterDecompositions : List (Nat × List Nat) :=
  latinDecompositions ++ scriptDecompositions ++ latinAdditionalDecompositions ++
  greekExtendedDecompositions ++ symbolDecompositions

/-- The entries among the ideographs that are no pairs: presentation forms of Hebrew letters. -/
def presentationDecompositions : List (Nat × List Nat) :=
  ideographDecompositions.filter fun entry => !(Nat.beq entry.2.length 1)

/-- Checks a table, below a limit that its entries have in common. -/
def splitsEach (limit : Nat) (table : List (Nat × List Nat)) : Bool :=
  table.all fun (code, pieces) => splitsBelow limit code pieces

-- One evaluation for all tables, as for the sets.
theorem tables_split :
    splitsEach 0x3100 letterDecompositions = true ∧
      splitsEach 0xFB4F presentationDecompositions = true ∧
      splitsEach 0x1D1C1 supplementaryDecompositions = true ∧
      (ideographSupplementDecompositions.all fun entry => Nat.beq entry.2.length 1) = true := by
  decide +kernel

/-- Each entry is a pair of ideographs, or passes the check. -/
theorem decompositions_cases {code : Nat} {pieces : List Nat}
    (entry : (code, pieces) ∈ decompositions) :
    (code, pieces) ∈ ideographPairs ∨ ∃ limit, splitsBelow limit code pieces = true := by
  obtain ⟨letters, presentation, supplementary, singles⟩ := tables_split
  have passes : ∀ {limit : Nat} {table : List (Nat × List Nat)}, splitsEach limit table = true →
      (code, pieces) ∈ table → ∃ limit, splitsBelow limit code pieces = true :=
    fun checked member => ⟨_, List.all_eq_true.1 checked _ member⟩
  have pair : (code, pieces) ∈ ideographDecompositions ++ ideographSupplementDecompositions →
      pieces.length = 1 → (code, pieces) ∈ ideographPairs := fun member single =>
    List.mem_filter.2 ⟨member, (Nat.beq_eq ..).mpr single⟩
  have tables : decompositions = letterDecompositions ++ ideographDecompositions ++
      supplementaryDecompositions ++ ideographSupplementDecompositions := rfl
  rw [tables, List.mem_append, List.mem_append, List.mem_append] at entry
  rcases entry with ((letter | compatible) | supplement) | ideograph
  · exact Or.inr (passes letters letter)
  · by_cases single : pieces.length = 1
    · exact Or.inl (pair (List.mem_append_left _ compatible) single)
    · have form : (code, pieces) ∈ presentationDecompositions := by
        refine List.mem_filter.2 ⟨compatible, ?_⟩
        rw [Bool.not_eq_true', Bool.eq_false_iff, ne_eq, Nat.beq_eq]
        exact single
      exact Or.inr (passes presentation form)
  · exact Or.inr (passes supplementary supplement)
  · have single := (Nat.beq_eq ..).mp (List.all_eq_true.1 singles _ ideograph)
    exact Or.inl (pair (List.mem_append_right _ ideograph) single)

theorem splits_of_listed {c : Char} {codes : List Nat}
    (entry : (c.toNat, codes) ∈ decompositions) : Splits c (codes.map Char.ofNat) := by
  have back := toNat_of_listed entry
  rcases decompositions_cases entry with pair | ⟨limit, checked⟩
  · exact .of_ideograph pair back
  · exact .of_splitsBelow back checked

theorem decompose_splits (c : Char) : Splits c (decompose c) := by
  rcases decompose_cases c with same | ⟨codes, entry, listed⟩ | ⟨first, last, letters⟩
  · rw [same]
    exact Splits.whole_character same
  · rw [listed]
    exact splits_of_listed entry
  · obtain ⟨nonempty, bounds⟩ := hangulLetters_bounds (c.toNat - 0xAC00) (by omega)
    have jamo : ∀ piece ∈ decompose c, (spanBits 0x1100 0x11C2).testBit piece.toNat = true := by
      intro piece member
      rw [letters] at member
      obtain ⟨code, inLetters, rfl⟩ := List.mem_map.1 member
      have range := bounds code inLetters
      rw [toNat_ofNat (Or.inl (by omega)), testBit_spanBits, decide_eq_true range.1,
        decide_eq_true range.2]
      rfl
    refine Splits.of_caseless (set_facts.hangul.letter ?_) ?_ ?_ ?_
    · rw [hangulBits, Nat.testBit_or, testBit_spanBits 0xAC00, decide_eq_true first,
        decide_eq_true last]
      exact Bool.or_true _
    · rw [letters]
      exact fun empty => nonempty (List.map_eq_nil_iff.1 empty)
    · intro piece member
      apply set_facts.hangul.letter
      rw [hangulBits, Nat.testBit_or, jamo piece member, Bool.true_or]
    · intro piece member
      exact decompose_of_not_composed (testBit_of_disjoint set_facts.jamo (jamo piece member))

end SkillDispatch.Unicode
