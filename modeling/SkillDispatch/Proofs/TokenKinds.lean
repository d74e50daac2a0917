import SkillDispatch.Proofs.CharacterSets
import SkillDispatch.Proofs.TokenLaw
import SkillDispatch.Unicode.Digit

set_option autoImplicit false

/- Kinds of tokens. A number is described as a token of digits only and a word as one with a letter in
it, but one test decides: whether all characters are numerals. There are numerals that are no digits,
and some of these are letters; and an apostrophe is neither numeral nor letter. So some tokens are not
what their kind says. -/
namespace SkillDispatch

open Unicode

/-! ### Digits, numerals and letters -/

theorem digit_facts :
    (CodeRanges.apartFrom 0 digitRanges = true ∧
      digitRanges.bits ||| numericRanges.bits = numericRanges.bits) ∧
      digitRanges.bits &&& alphabeticRanges.bits = 0 := by
  decide +kernel

theorem isDigit_eq (c : Char) : isDigit c = digitRanges.bits.testBit c.toNat :=
  CodeRanges.has_eq_testBit digit_facts.1.1 _

theorem isNumeric_of_isDigit {c : Char} (digit : isDigit c = true) : isNumeric c = true := by
  rw [isDigit_eq] at digit
  rw [isNumeric_eq]
  exact testBit_of_subset digit_facts.1.2 digit

theorem isAlphabetic_of_isDigit {c : Char} (digit : isDigit c = true) : isAlphabetic c = false := by
  rw [isDigit_eq] at digit
  rw [isAlphabetic_eq]
  exact testBit_of_disjoint digit_facts.2 digit

/-- One of the two apostrophes that may stand in a token. -/
def isApostrophe (c : Char) : Bool :=
  c = '\'' || c = '’'

theorem isNumeric_of_isApostrophe {c : Char} (apostrophe : isApostrophe c = true) :
    isNumeric c = false := by
  rw [isApostrophe, Bool.or_eq_true, decide_eq_true_iff, decide_eq_true_iff] at apostrophe
  rcases apostrophe with rfl | rfl <;> decide +kernel

/-- A character of a token that is neither numeral nor letter is an apostrophe. -/
theorem isApostrophe_of_isTokenChar {c : Char} (token : isTokenChar c = true)
    (notNumeral : isNumeric c = false) (notLetter : isAlphabetic c = false) :
    isApostrophe c = true := by
  rw [isTokenChar, isAlphanumeric, notNumeral, notLetter] at token
  simpa [isApostrophe] using token

/-! ### What a token is made of -/

namespace Token

def onlyDigits (token : Token) : Bool := token.surface.toList.all isDigit

def onlyNumerals (token : Token) : Bool := token.surface.toList.all isNumeric

def hasLetter (token : Token) : Bool := token.surface.toList.any isAlphabetic

def hasApostrophe (token : Token) : Bool := token.surface.toList.any isApostrophe

/-- The kind is the one that the descriptions of the kinds give: a number is made of digits only, and
a word has a letter in it. -/
structure AsDescribed (token : Token) : Prop where
  number : token.kind = .number ↔ token.onlyDigits = true
  word : token.kind = .word ↔ token.hasLetter = true

theorem onlyNumerals_of_onlyDigits {token : Token} (digits : token.onlyDigits = true) :
    token.onlyNumerals = true := by
  rw [onlyDigits, List.all_eq_true] at digits
  exact List.all_eq_true.2 fun c member => isNumeric_of_isDigit (digits c member)

theorem hasLetter_of_onlyDigits {token : Token} (digits : token.onlyDigits = true) :
    token.hasLetter = false := by
  rw [onlyDigits, List.all_eq_true] at digits
  refine List.any_eq_false.2 fun c member => ?_
  rw [isAlphabetic_of_isDigit (digits c member)]
  exact Bool.false_ne_true

theorem onlyNumerals_of_hasApostrophe {token : Token} (apostrophe : token.hasApostrophe = true) :
    token.onlyNumerals = false := by
  obtain ⟨c, member, isApostrophe⟩ := List.any_eq_true.1 apostrophe
  refine List.all_eq_false.2 ⟨c, member, ?_⟩
  rw [isNumeric_of_isApostrophe isApostrophe]
  exact Bool.false_ne_true

section

variable {text : String} {token : Token} (member : token ∈ tokenize text)
include member

theorem kind_eq_number_iff : token.kind = .number ↔ token.onlyNumerals = true := by
  rw [tokenize_kind member, kindOf, onlyNumerals]
  cases token.surface.toList.all isNumeric <;> simp

theorem kind_eq_word_iff : token.kind = .word ↔ token.onlyNumerals = false := by
  rw [tokenize_kind member, kindOf, onlyNumerals]
  cases token.surface.toList.all isNumeric <;> simp

theorem surface_token : ∀ c ∈ token.surface.toList, isTokenChar c = true := by
  obtain ⟨before, word, after, maximal, isToken⟩ := exists_maximalRun_of_mem_tokenize member
  have surface : token.surface.toList = word := by
    rw [isToken]
    exact String.toList_ofList
  rw [surface]
  exact maximal.token

/-- Without a letter, what keeps a token from being made of numerals is an apostrophe. -/
theorem hasApostrophe_of_not_hasLetter (notNumerals : token.onlyNumerals = false)
    (notLetter : token.hasLetter = false) : token.hasApostrophe = true := by
  obtain ⟨c, inToken, notNumeral⟩ := List.all_eq_false.1 notNumerals
  have noLetter := List.any_eq_false.1 notLetter c inToken
  exact List.any_eq_true.2 ⟨c, inToken, isApostrophe_of_isTokenChar (surface_token member c inToken)
    (Bool.eq_false_iff.2 notNumeral) (Bool.eq_false_iff.2 noLetter)⟩

end

/-- What decides the kind of a token, and where this is not what the descriptions say. -/
structure KindLaw (token : Token) : Prop where
  /-- One test decides: a number is made of numerals only, and anything else is a word. -/
  number : token.kind = .number ↔ token.onlyNumerals = true
  word : token.kind = .word ↔ token.onlyNumerals = false
  /-- The description of numbers fails where a numeral is no digit. -/
  number_described : (token.kind = .number ↔ token.onlyDigits = true) ↔
    ¬(token.onlyNumerals = true ∧ token.onlyDigits = false)
  /-- The description of words fails where a numeral is a letter, and where an apostrophe stands with
  numerals that are none. -/
  word_described : (token.kind = .word ↔ token.hasLetter = true) ↔
    ¬(token.onlyNumerals = true ∧ token.hasLetter = true) ∧
      ¬(token.hasApostrophe = true ∧ token.hasLetter = false)
  /-- Both hold of digits alone, and of a letter with anything that is not a numeral. -/
  described : token.AsDescribed ↔
    token.onlyDigits = true ∨ token.hasLetter = true ∧ token.onlyNumerals = false

end Token

theorem tokenize_kinds {text : String} {token : Token} (member : token ∈ tokenize text) :
    token.KindLaw where
  number := Token.kind_eq_number_iff member
  word := Token.kind_eq_word_iff member
  number_described := by
    have numerals : token.onlyDigits = true → token.onlyNumerals = true :=
      Token.onlyNumerals_of_onlyDigits
    rw [Token.kind_eq_number_iff member]
    grind
  word_described := by
    have notNumerals : token.hasApostrophe = true → token.onlyNumerals = false :=
      Token.onlyNumerals_of_hasApostrophe
    have apostrophe := Token.hasApostrophe_of_not_hasLetter member
    rw [Token.kind_eq_word_iff member]
    grind
  described := by
    have numerals : token.onlyDigits = true → token.onlyNumerals = true :=
      Token.onlyNumerals_of_onlyDigits
    have notLetter : token.onlyDigits = true → token.hasLetter = false :=
      Token.hasLetter_of_onlyDigits
    constructor
    · rintro ⟨number, word⟩
      rw [Token.kind_eq_number_iff member] at number
      rw [Token.kind_eq_word_iff member] at word
      grind
    · intro either
      constructor
      · rw [Token.kind_eq_number_iff member]
        grind
      · rw [Token.kind_eq_word_iff member]
        grind

/-- The token of ten minutes, as they are written with a prime. -/
def tenMinutes : Token :=
  ⟨"10'", "10'", 0, ⟨0, 3⟩, .word⟩

theorem tokenize_kinds_tenMinutes :
    tenMinutes ∈ tokenize "10'" ∧ tenMinutes.KindLaw ∧ ¬tenMinutes.AsDescribed := by
  have member : tenMinutes ∈ tokenize "10'" := by decide +kernel
  have law := tokenize_kinds member
  have neither : tenMinutes.onlyDigits = false ∧ tenMinutes.hasLetter = false := by decide +kernel
  refine ⟨member, law, ?_⟩
  rw [law.described, neither.1, neither.2]
  simp

/-- A letter numeral is a number with a letter, a fraction a number without a digit, and digits with an
apostrophe are a word without a letter. -/
theorem kinds_not_described :
    (∃ token ∈ tokenize "Ⅷ", token.kind = .number ∧ token.hasLetter = true) ∧
      (∃ token ∈ tokenize "½", token.kind = .number ∧ token.onlyDigits = false ∧
        token.hasLetter = false) ∧
      (∃ token ∈ tokenize "10'", token.kind = .word ∧ token.hasLetter = false) ∧
      ¬∀ text, ∀ token ∈ tokenize text, token.AsDescribed := by
  have romanEight : ∃ token ∈ tokenize "Ⅷ", token.kind = .number ∧ token.hasLetter = true := by
    decide +kernel
  refine ⟨romanEight, by decide +kernel, by decide +kernel, fun described => ?_⟩
  obtain ⟨token, member, number, letter⟩ := romanEight
  have word : token.kind = .word := (described "Ⅷ" token member).word.2 letter
  rw [number] at word
  cases word

end SkillDispatch
