import SkillDispatch.Proofs.CodeSets
import SkillDispatch.Token

set_option autoImplicit false

/- The character data as sets of code points. What a table says is the test of one bit, and what
tables have to do with each other is an equation between sets: which marks are reordered, what casing
sees of them, and what stays fixed in lowercase. -/
namespace SkillDispatch.Unicode

open Text

theorem toNat_ofNat {code : Nat} (valid : code.isValidChar) : (Char.ofNat code).toNat = code := by
  rw [Char.ofNat, dif_pos valid]
  rfl

def markBits : Nat := markRanges.bits

def casedBits : Nat := casedRanges.bits

def ignorableBits : Nat := caseIgnorableRanges.bits

def alphanumericBits : Nat := alphabeticRanges.bits ||| numericRanges.bits

def tokenBits : Nat := alphanumericBits ||| codeBits ['\''.toNat, '’'.toNat]

/-- The code points that have a class of their own. -/
def classRanges : CodeRanges :=
  combiningClasses.map fun (first, last, _) => (first, last)

/-! ### Capitals -/

def CapitalRun.capitals (run : CapitalRun) : List Nat :=
  ((List.range (run.last + 1 - run.first)).filter (· % run.stride = 0)).map (run.first + ·)

def CapitalRun.smalls (run : CapitalRun) : List Nat :=
  ((List.range (run.last + 1 - run.first)).filter (· % run.stride = 0)).map (run.small + ·)

def CapitalRun.bounds (run : CapitalRun) : Nat × Nat := (run.first, run.last)

def capitalBits : Nat :=
  codeBits ('\u0130'.toNat :: capitalRuns.flatMap CapitalRun.capitals)

def smallCodes : List Nat := capitalRuns.flatMap CapitalRun.smalls

/-! ### Compositions -/

/-- The code points that are listed with what they decompose into. -/
def listedBits : Nat :=
  codeBits (decompositions.map Prod.fst)

def composedBits : Nat :=
  listedBits ||| spanBits 0xAC00 0xD7A3

/-- Hangul syllables and the letters that they are composed of. -/
def hangulBits : Nat :=
  spanBits 0x1100 0x11C2 ||| spanBits 0xAC00 0xD7A3

/-- The compatibility ideographs, each of which stands for one unified ideograph. -/
def ideographPairs : List (Nat × List Nat) :=
  (ideographDecompositions ++ ideographSupplementDecompositions).filter fun entry =>
    Nat.beq entry.2.length 1

def unifiedBits : Nat :=
  codeBits (ideographPairs.flatMap Prod.snd)

def ideographBits : Nat :=
  codeBits (ideographPairs.map Prod.fst) ||| unifiedBits

/-! ### What holds of the sets -/

structure CaselessLetters (set : Nat) : Prop where
  letters : set ||| alphanumericBits = alphanumericBits
  others : set &&& (markBits ||| capitalBits ||| ignorableBits ||| casedBits) = 0

/-- What the sets have to do with each other. -/
structure SetFacts : Prop where
  /-- What is put into canonical order is a mark, -/
  marks : classRanges.bits ||| markBits = markBits
  /-- and casing takes nothing of it for a letter. -/
  uncased : (classRanges.bits &&& casedBits) ||| ignorableBits = ignorableBits
  /-- Small letters are no marks and no capitals. -/
  smalls : codeBits smallCodes &&& (markBits ||| capitalBits) = 0
  capitals : markBits &&& capitalBits = 0
  hangul : CaselessLetters hangulBits
  ideographs : CaselessLetters ideographBits
  /-- What syllables and ideographs decompose into does not decompose. -/
  jamo : spanBits 0x1100 0x11C2 &&& composedBits = 0
  unified : unifiedBits &&& composedBits = 0
  syllables : listedBits &&& spanBits 0xAC00 0xD7A3 = 0

-- One evaluation for all equations: each set is computed once.
theorem set_facts : SetFacts := by
  have facts : (classRanges.bits ||| markBits = markBits ∧
      (classRanges.bits &&& casedBits) ||| ignorableBits = ignorableBits) ∧
      (codeBits smallCodes &&& (markBits ||| capitalBits) = 0 ∧ markBits &&& capitalBits = 0) ∧
      (hangulBits ||| alphanumericBits = alphanumericBits ∧
        hangulBits &&& (markBits ||| capitalBits ||| ignorableBits ||| casedBits) = 0) ∧
      (ideographBits ||| alphanumericBits = alphanumericBits ∧
        ideographBits &&& (markBits ||| capitalBits ||| ignorableBits ||| casedBits) = 0) ∧
      spanBits 0x1100 0x11C2 &&& composedBits = 0 ∧ unifiedBits &&& composedBits = 0 ∧
      listedBits &&& spanBits 0xAC00 0xD7A3 = 0 := by
    decide +kernel
  obtain ⟨⟨marks, uncased⟩, ⟨smalls, capitals⟩, ⟨hangul, hangulOthers⟩,
    ⟨ideographs, ideographOthers⟩, jamo, unified, syllables⟩ := facts
  exact ⟨marks, uncased, smalls, capitals, ⟨hangul, hangulOthers⟩, ⟨ideographs, ideographOthers⟩,
    jamo, unified, syllables⟩

theorem tables_apart :
    CodeRanges.apartFrom 0 markRanges = true ∧ CodeRanges.apartFrom 0 casedRanges = true ∧
      CodeRanges.apartFrom 0 caseIgnorableRanges = true ∧
      CodeRanges.apartFrom 0 alphabeticRanges = true ∧
      CodeRanges.apartFrom 0 numericRanges = true ∧
      CodeRanges.apartFrom 0 (capitalRuns.map CapitalRun.bounds) = true := by
  decide +kernel

theorem isMark_eq (c : Char) : isMark c = markBits.testBit c.toNat :=
  CodeRanges.has_eq_testBit tables_apart.1 _

theorem isCased_eq (c : Char) : isCased c = casedBits.testBit c.toNat :=
  CodeRanges.has_eq_testBit tables_apart.2.1 _

theorem isCaseIgnorable_eq (c : Char) : isCaseIgnorable c = ignorableBits.testBit c.toNat :=
  CodeRanges.has_eq_testBit tables_apart.2.2.1 _

theorem isAlphabetic_eq (c : Char) : isAlphabetic c = alphabeticRanges.bits.testBit c.toNat :=
  CodeRanges.has_eq_testBit tables_apart.2.2.2.1 _

theorem isNumeric_eq (c : Char) : isNumeric c = numericRanges.bits.testBit c.toNat :=
  CodeRanges.has_eq_testBit tables_apart.2.2.2.2.1 _

theorem isAlphanumeric_eq (c : Char) : isAlphanumeric c = alphanumericBits.testBit c.toNat := by
  rw [isAlphanumeric, isAlphabetic_eq, isNumeric_eq, alphanumericBits, Nat.testBit_or]

theorem isTokenChar_eq (c : Char) : isTokenChar c = tokenBits.testBit c.toNat := by
  have apostrophes : (codeBits ['\''.toNat, '’'.toNat]).testBit c.toNat =
      (decide (c = '\'') || decide (c = '’')) := by
    rw [Bool.eq_iff_iff, testBit_codeBits]
    simp only [List.mem_cons, List.not_mem_nil, or_false, Char.toNat_inj, Bool.or_eq_true,
      decide_eq_true_iff]
  rw [isTokenChar, isAlphanumeric_eq, tokenBits, Nat.testBit_or, apostrophes, Bool.or_assoc]

/-! ### Combining classes -/

theorem testBit_of_classIn {ranges : List (Nat × Nat × Nat)} {code : Nat}
    (moves : classIn ranges code ≠ 0) :
    (CodeRanges.bits (ranges.map fun (first, last, _) => (first, last))).testBit code = true := by
  induction ranges with
  | nil => exact absurd rfl moves
  | cons range rest ih =>
    obtain ⟨first, last, value⟩ := range
    rw [List.map_cons, CodeRanges.bits, Nat.testBit_or, testBit_spanBits]
    rw [classIn] at moves
    split at moves
    · exact absurd rfl moves
    · rename_i start
      split at moves
      · rename_i inside
        rw [decide_eq_true (show first ≤ code by omega), decide_eq_true inside]
        rfl
      · rw [ih moves, Bool.or_true]

theorem isMark_of_class {c : Char} (moves : combiningClass c ≠ 0) : isMark c = true := by
  rw [isMark_eq]
  exact testBit_of_subset set_facts.marks (testBit_of_classIn moves)

/-- Of what is put into canonical order, casing takes nothing for a letter. -/
theorem not_cased_of_class {c : Char} (moves : combiningClass c ≠ 0)
    (seen : isCaseIgnorable c = false) : isCased c = false := by
  rw [Bool.eq_false_iff]
  intro cased
  rw [isCaseIgnorable_eq] at seen
  rw [isCased_eq] at cased
  have both : (classRanges.bits &&& casedBits).testBit c.toNat = true := by
    rw [Nat.testBit_and, classRanges, testBit_of_classIn moves, cased]
    rfl
  rw [testBit_of_subset set_facts.uncased both] at seen
  cases seen

/-! ### Lowercase -/

theorem CapitalRun.mem_capitals_iff (run : CapitalRun) (code : Nat) :
    code ∈ run.capitals ↔
      run.first ≤ code ∧ code ≤ run.last ∧ (code - run.first) % run.stride = 0 := by
  simp only [capitals, List.mem_map, List.mem_filter, List.mem_range, decide_eq_true_iff]
  constructor
  · rintro ⟨more, ⟨inside, onStride⟩, rfl⟩
    rw [Nat.add_sub_cancel_left]
    exact ⟨by omega, by omega, onStride⟩
  · rintro ⟨start, inside, onStride⟩
    exact ⟨code - run.first, ⟨by omega, onStride⟩, by omega⟩

theorem CapitalRun.small_mem_smalls {run : CapitalRun} {code : Nat} (capital : code ∈ run.capitals) :
    run.small + (code - run.first) ∈ run.smalls := by
  obtain ⟨start, inside, onStride⟩ := (run.mem_capitals_iff code).1 capital
  refine List.mem_map.2 ⟨code - run.first, List.mem_filter.2 ⟨?_, decide_eq_true onStride⟩, rfl⟩
  exact List.mem_range.2 (by omega)

/-- A code point is no capital and stays as it is, or it is one and goes to a small letter. -/
theorem smallIn_cases {low : Nat} {runs : List CapitalRun}
    (apart : CodeRanges.apartFrom low (runs.map CapitalRun.bounds) = true) (code : Nat) :
    (code ∉ runs.flatMap CapitalRun.capitals ∧ smallIn runs code = code) ∨
      (code ∈ runs.flatMap CapitalRun.capitals ∧
        smallIn runs code ∈ runs.flatMap CapitalRun.smalls) := by
  induction runs generalizing low with
  | nil => exact Or.inl ⟨nofun, rfl⟩
  | cons run rest ih =>
    obtain ⟨-, ordered, later⟩ := CodeRanges.apartFrom_cons apart
    have notLater : code ≤ run.last → code ∉ rest.flatMap CapitalRun.capitals := by
      intro inside member
      obtain ⟨other, inRest, capital⟩ := List.mem_flatMap.1 member
      have above := CodeRanges.le_of_apartFrom later other.bounds (List.mem_map_of_mem inRest)
      have start : other.first ≤ code := ((other.mem_capitals_iff code).1 capital).1
      have first : other.bounds.1 = other.first := rfl
      omega
    rw [List.flatMap_cons, List.flatMap_cons, List.mem_append, List.mem_append,
      run.mem_capitals_iff, smallIn]
    split
    · rename_i below
      exact Or.inl ⟨not_or.2 ⟨fun here => by omega, notLater (by omega)⟩, rfl⟩
    · rename_i start
      split
      · rename_i inside
        split
        · rename_i onStride
          have here : run.first ≤ code ∧ code ≤ run.last ∧ (code - run.first) % run.stride = 0 :=
            ⟨by omega, inside, onStride⟩
          exact Or.inr ⟨Or.inl here,
            Or.inl (CapitalRun.small_mem_smalls ((run.mem_capitals_iff code).2 here))⟩
        · rename_i offStride
          exact Or.inl ⟨not_or.2 ⟨fun here => offStride here.2.2, notLater inside⟩, rfl⟩
      · rename_i beyond
        rcases ih later with ⟨notCapital, same⟩ | ⟨capital, small⟩
        · exact Or.inl ⟨not_or.2 ⟨fun here => beyond here.2.1, notCapital⟩, same⟩
        · exact Or.inr ⟨Or.inr capital, Or.inr small⟩

theorem capitalRuns_apart :
    CodeRanges.apartFrom 0 (capitalRuns.map CapitalRun.bounds) = true :=
  tables_apart.2.2.2.2.2

/-- Whether a code point is that of a character. -/
def isCharacter (code : Nat) : Bool :=
  decide (code < 0xD800) || decide (0xDFFF < code) && decide (code < 0x110000)

theorem isValidChar_of_isCharacter {code : Nat} (character : isCharacter code = true) :
    code.isValidChar := by
  rwa [isCharacter, Bool.or_eq_true, Bool.and_eq_true, decide_eq_true_iff, decide_eq_true_iff,
    decide_eq_true_iff] at character

theorem smallCodes_valid {code : Nat} (member : code ∈ smallCodes) : code.isValidChar := by
  have all : smallCodes.all isCharacter = true := by decide +kernel
  exact isValidChar_of_isCharacter (List.all_eq_true.1 all code member)

def isCapital (c : Char) : Bool := capitalBits.testBit c.toNat

theorem isCapital_eq (c : Char) : isCapital c = capitalBits.testBit c.toNat := rfl

theorem smallIn_of_not_capital {c : Char} (notCapital : isCapital c = false) :
    c ≠ '\u0130' ∧ smallIn capitalRuns c.toNat = c.toNat := by
  have absent : c.toNat ∉ '\u0130'.toNat :: capitalRuns.flatMap CapitalRun.capitals := by
    rwa [isCapital, capitalBits, Bool.eq_false_iff, ne_eq, testBit_codeBits] at notCapital
  refine ⟨fun dotted => absent (dotted ▸ List.mem_cons_self ..), ?_⟩
  rcases smallIn_cases capitalRuns_apart c.toNat with ⟨-, same⟩ | ⟨capital, -⟩
  · exact same
  · exact absurd (List.mem_cons_of_mem _ capital) absent

theorem lowercase_of_not_capital {c : Char} (notCapital : isCapital c = false) :
    lowercase c = [c] := by
  obtain ⟨notDotted, same⟩ := smallIn_of_not_capital notCapital
  rw [lowercase, if_neg notDotted, same, Char.ofNat_toNat]

theorem lowercase_of_capital {c : Char} (capital : isCapital c = true) (notDotted : c ≠ '\u0130') :
    ∃ small, lowercase c = [small] ∧ small.toNat = smallIn capitalRuns c.toNat ∧
      small.toNat ∈ smallCodes := by
  rw [isCapital, capitalBits, testBit_codeBits] at capital
  rcases List.mem_cons.1 capital with dotted | inRuns
  · exact absurd (Char.toNat_inj.1 dotted) notDotted
  rcases smallIn_cases capitalRuns_apart c.toNat with ⟨absent, -⟩ | ⟨-, small⟩
  · exact absurd inRuns absent
  · have valid := toNat_ofNat (smallCodes_valid small)
    exact ⟨_, if_neg notDotted, valid, valid.symm ▸ small⟩

theorem small_plain {small : Char} (member : small.toNat ∈ smallCodes) :
    isMark small = false ∧ isCapital small = false := by
  have neither := testBit_of_disjoint set_facts.smalls ((testBit_codeBits ..).2 member)
  rw [Nat.testBit_or, Bool.or_eq_false_iff] at neither
  exact ⟨(isMark_eq small).trans neither.1, neither.2⟩

theorem not_capital_of_mark {c : Char} (mark : isMark c = true) : isCapital c = false := by
  exact testBit_of_disjoint set_facts.capitals ((isMark_eq c).symm.trans mark)

end SkillDispatch.Unicode
