import Mathlib.Data.List.Basic
import SkillDispatch.Json.Decoder

set_option autoImplicit false

namespace SkillDispatch.Json

open Decimal

/-! ### Texts as lexemes -/

/-- The lexemes that a text consists of, with white space between them or not. -/
inductive Lexed : List Char → List Lexeme → Prop
  | done {text : List Char} (blank : text.dropWhile isSpace = []) : Lexed text []
  | next {text rest after : List Char} {c : Char} {lexeme : Lexeme} {more : List Lexeme}
    (starts : text.dropWhile isSpace = c :: rest) (scanned : scan c rest = (lexeme, after))
    (tail : Lexed after more) : Lexed text (lexeme :: more)

namespace Lexed

variable {text rest after : List Char} {c : Char} {lexeme : Lexeme} {more found : List Lexeme}

theorem cons (notSpace : isSpace c = false) (scanned : scan c rest = (lexeme, after))
    (tail : Lexed after more) : Lexed (c :: rest) (lexeme :: more) :=
  .next (List.dropWhile_cons_of_neg (Bool.eq_false_iff.1 notSpace)) scanned tail

theorem blank_append (blank : after.dropWhile isSpace = []) (tail : Lexed text found) :
    Lexed (after ++ text) found := by
  have same : (after ++ text).dropWhile isSpace = text.dropWhile isSpace := by
    rw [List.dropWhile_append, blank]
    rfl
  cases tail with
  | done none => exact .done (same.trans none)
  | next starts scanned tail => exact .next (same.trans starts) scanned tail

theorem lexemesIn_eq (lexed : Lexed text found) {steps : Nat} (enough : found.length ≤ steps) :
    lexemesIn steps text = found := by
  induction lexed generalizing steps with
  | done blank =>
    cases steps with
    | zero => rfl
    | succ steps => rw [lexemesIn, blank]
  | next starts scanned _ ih =>
    rw [List.length_cons] at enough
    obtain ⟨fewer, rfl⟩ := Nat.exists_eq_add_of_le' (Nat.le_trans (Nat.le_add_left 1 _) enough)
    rw [lexemesIn, starts]
    dsimp only
    rw [scanned, ih (Nat.le_of_succ_le_succ enough)]

theorem lexemes_eq (lexed : Lexed text found) (enough : found.length ≤ text.length) :
    lexemes text = found :=
  lexed.lexemesIn_eq enough

end Lexed

/-! ### Names -/

def isPlain (c : Char) : Bool :=
  c ≠ '"' && c ≠ '\\' && 0x20 ≤ c.toNat

theorem pieces_plain {name : List Char} (plain : ∀ c ∈ name, isPlain c = true) (rest : List Char) :
    pieces (name ++ '"' :: rest) = (name.map .char, .ok rest) := by
  induction name with
  | nil => rfl
  | cons c name ih =>
    obtain ⟨here, later⟩ := List.forall_mem_cons.1 plain
    simp only [isPlain, Bool.and_eq_true, decide_eq_true_iff] at here
    obtain ⟨⟨notQuote, notEscape⟩, printable⟩ := here
    have visible : ¬c.toNat < 0x20 := by omega
    rw [List.cons_append, pieces.eq_def]
    split <;> simp_all

theorem assemble_chars (closed : Bool) (name : List Char) :
    assemble closed (name.map .char) = some name := by
  induction name with
  | nil => rfl
  | cons c name ih => rw [List.map_cons, assemble, ih, Option.map_some]

theorem scan_name {name : List Char} (plain : ∀ c ∈ name, isPlain c = true) (rest : List Char) :
    scan '"' (name ++ '"' :: rest) = (.string (some (String.ofList name)), rest) := by
  show scanString _ = _
  rw [scanString, pieces_plain plain]
  dsimp only
  rw [assemble_chars]
  rfl

/-! ### Numbers -/

/-- A text that does not go on with a number. -/
def EndsNumber (text : List Char) : Prop :=
  ∀ c ∈ text.head?, ¬('0' ≤ c ∧ c ≤ '9') ∧ c ≠ '.' ∧ c ≠ 'e' ∧ c ≠ 'E'

variable {tail : List Char}

theorem digits_append (ends : EndsNumber tail) (text : List Char) :
    digits (text ++ tail) = ((digits text).1, (digits text).2 ++ tail) := by
  induction text with
  | nil =>
    cases tail with
    | nil => rfl
    | cons c rest =>
      have notDigit := (ends c rfl).1
      exact if_neg notDigit
  | cons c text ih =>
    rw [List.cons_append, digits, digits]
    split
    · rw [ih]
    · rfl

theorem scanFraction_of_ne {text : List Char} (notPoint : ∀ c ∈ text.head?, c ≠ '.') :
    scanFraction text = .ok ([], text) := by
  unfold scanFraction
  split
  · exact absurd rfl (notPoint _ rfl)
  · rfl

theorem scanFraction_append (ends : EndsNumber tail) {text rest : List Char} {found : List Nat}
    (scanned : scanFraction text = .ok (found, rest)) :
    scanFraction (text ++ tail) = .ok (found, rest ++ tail) := by
  cases text with
  | nil =>
    cases scanned
    exact scanFraction_of_ne fun c first => (ends c first).2.1
  | cons c text =>
    by_cases point : c = '.'
    · subst point
      rw [scanFraction] at scanned
      rw [List.cons_append, scanFraction, digits_append ends]
      rcases isFound : digits text with ⟨_ | ⟨digit, more⟩, after⟩
      · rw [isFound] at scanned
        cases scanned
      · rw [isFound] at scanned
        cases scanned
        rfl
    · have notPoint : ∀ more, ∀ d ∈ (c :: more).head?, d ≠ '.' := by
        rintro more d ⟨⟩
        exact point
      rw [scanFraction_of_ne (notPoint text)] at scanned
      cases scanned
      exact scanFraction_of_ne (notPoint (text ++ tail))

theorem scanPower_append (ends : EndsNumber tail) {negative : Bool} {text rest : List Char}
    {exponent : Option Exponent} (scanned : scanPower negative text = .ok (exponent, rest)) :
    scanPower negative (text ++ tail) = .ok (exponent, rest ++ tail) := by
  rw [scanPower] at scanned
  rw [scanPower, digits_append ends]
  rcases isFound : digits text with ⟨_ | ⟨digit, more⟩, after⟩
  · rw [isFound] at scanned
    cases scanned
  · rw [isFound] at scanned
    cases scanned
    rfl

theorem scanExponent_of_ne {text : List Char} (notPower : ∀ c ∈ text.head?, c ≠ 'e' ∧ c ≠ 'E') :
    scanExponent text = .ok (none, text) := by
  cases text with
  | nil => rfl
  | cons c text =>
    have here := notPower c rfl
    unfold scanExponent
    simp [here]

theorem scanExponent_unsigned {c d : Char} (power : (c = 'e' || c = 'E') = true) (plus : d ≠ '+')
    (minus : d ≠ '-') (text : List Char) :
    scanExponent (c :: d :: text) = scanPower false (d :: text) := by
  unfold scanExponent
  refine (if_pos power).trans ?_
  split
  · rename_i signed
    exact absurd (List.cons.inj signed).1 plus
  · rename_i signed
    exact absurd (List.cons.inj signed).1 minus
  · rfl

theorem scanExponent_append (ends : EndsNumber tail) {text rest : List Char}
    {exponent : Option Exponent} (scanned : scanExponent text = .ok (exponent, rest)) :
    scanExponent (text ++ tail) = .ok (exponent, rest ++ tail) := by
  cases text with
  | nil =>
    cases scanned
    exact scanExponent_of_ne fun c first => (ends c first).2.2
  | cons c text =>
    by_cases power : c = 'e' ∨ c = 'E'
    · cases text with
      | nil =>
        rcases power with rfl | rfl <;> cases scanned
      | cons d text =>
        have isPower : (c = 'e' || c = 'E') = true := by simpa using power
        by_cases plus : d = '+'
        · subst plus
          rw [scanExponent, if_pos isPower] at scanned
          rw [List.cons_append, List.cons_append, scanExponent, if_pos isPower]
          exact scanPower_append ends scanned
        · by_cases minus : d = '-'
          · subst minus
            rw [scanExponent, if_pos isPower] at scanned
            rw [List.cons_append, List.cons_append, scanExponent, if_pos isPower]
            exact scanPower_append ends scanned
          · rw [scanExponent_unsigned isPower plus minus] at scanned
            rw [List.cons_append, List.cons_append, scanExponent_unsigned isPower plus minus]
            exact scanPower_append ends scanned
    · have notPower : ∀ more, ∀ d ∈ (c :: more).head?, d ≠ 'e' ∧ d ≠ 'E' := by
        rintro more d ⟨⟩
        exact not_or.1 power
      rw [scanExponent_of_ne (notPower text)] at scanned
      cases scanned
      exact scanExponent_of_ne (notPower (text ++ tail))

/-- Digits before the point: one at least, and no zero in front of others. -/
def IsWhole (digits : List Nat) : Prop :=
  digits ≠ [] ∧ ∀ digit more, digits ≠ 0 :: digit :: more

/-- A number is read in three pieces. -/
theorem scanNumber_eq_ok_iff {negative : Bool} {text rest : List Char} {literal : Literal} :
    scanNumber negative text = .ok (literal, rest) ↔
      ∃ whole fraction exponent behind further, digits text = (whole, behind) ∧ IsWhole whole ∧
        scanFraction behind = .ok (fraction, further) ∧
        scanExponent further = .ok (exponent, rest) ∧
        literal = ⟨negative, whole, fraction, exponent⟩ := by
  rw [scanNumber]
  rcases isWhole : digits text with ⟨whole, behind⟩
  constructor
  · intro scanned
    split at scanned
    · cases scanned
    · cases scanned
    · rename_i some noZero same
      cases same
      rcases isFraction : scanFraction behind with fault | ⟨fraction, further⟩
      · rw [isFraction] at scanned
        cases scanned
      · rw [isFraction] at scanned
        dsimp only [bind, Except.bind] at scanned
        rcases isExponent : scanExponent further with fault | ⟨exponent, after⟩
        · rw [isExponent] at scanned
          cases scanned
        · rw [isExponent] at scanned
          cases scanned
          exact ⟨whole, fraction, exponent, behind, further, rfl, ⟨some, noZero⟩, isFraction,
            isExponent, rfl⟩
  · rintro ⟨_, fraction, exponent, _, further, ⟨⟩, ⟨some, noZero⟩, isFraction, isExponent, rfl⟩
    split
    · rename_i same
      cases same
      exact absurd rfl some
    · rename_i same
      cases same
      exact absurd rfl (noZero _ _)
    · rename_i same
      cases same
      rw [isFraction]
      dsimp only [bind, Except.bind]
      rw [isExponent]
      rfl

/-- A number is read in the same way in front of anything that ends it. -/
theorem scanNumber_append (ends : EndsNumber tail) {negative : Bool} {text rest : List Char}
    {literal : Literal} (scanned : scanNumber negative text = .ok (literal, rest)) :
    scanNumber negative (text ++ tail) = .ok (literal, rest ++ tail) := by
  obtain ⟨whole, fraction, exponent, behind, further, isWhole, some, isFraction, isExponent, rfl⟩ :=
    scanNumber_eq_ok_iff.1 scanned
  refine scanNumber_eq_ok_iff.2 ⟨whole, fraction, exponent, behind ++ tail, further ++ tail, ?_, some,
    scanFraction_append ends isFraction, scanExponent_append ends isExponent, rfl⟩
  rw [digits_append ends, isWhole]

theorem scan_digit {c : Char} (digit : '0' ≤ c ∧ c ≤ '9') (text : List Char) :
    scan c text =
      orBroken ((scanNumber false (c :: text)).map fun (literal, rest) => (.number literal, rest)) := by
  unfold scan
  split
  case h_12 => exact if_pos digit
  all_goals exact absurd digit (by decide)

theorem orBroken_eq_number_iff {result : Except Break (Literal × List Char)} {literal : Literal}
    {rest : List Char} :
    orBroken (result.map fun (literal, rest) => (.number literal, rest)) = (.number literal, rest) ↔
      result = .ok (literal, rest) := by
  rcases result with fault | ⟨found, after⟩
  · constructor <;> nofun
  · constructor <;> rintro ⟨⟩ <;> rfl

theorem eq_number_of_orBroken {result : Except Break (List Char)} {lexeme : Lexeme}
    {literal : Literal} {rest : List Char}
    (scanned : orBroken (result.map fun rest => (lexeme, rest)) = (.number literal, rest)) :
    lexeme = .number literal := by
  cases result with
  | error fault => cases scanned
  | ok after => exact congrArg Prod.fst scanned

theorem scanString_ne_number (text rest : List Char) (literal : Literal) :
    scanString text ≠ (.number literal, rest) := by
  unfold scanString
  split <;> nofun

theorem scan_eq_number_iff {c : Char} {text rest : List Char} {literal : Literal} :
    scan c text = (.number literal, rest) ↔
      (c = '-' ∧ scanNumber true text = .ok (literal, rest)) ∨
        ('0' ≤ c ∧ c ≤ '9') ∧ scanNumber false (c :: text) = .ok (literal, rest) := by
  constructor
  · intro scanned
    unfold scan at scanned
    split at scanned
    case h_7 => exact (scanString_ne_number _ _ _ scanned).elim
    case h_8 => cases eq_number_of_orBroken scanned
    case h_9 => cases eq_number_of_orBroken scanned
    case h_10 => cases eq_number_of_orBroken scanned
    case h_11 => exact Or.inl ⟨rfl, orBroken_eq_number_iff.1 scanned⟩
    case h_12 =>
      split at scanned
      · rename_i digit
        exact Or.inr ⟨digit, orBroken_eq_number_iff.1 scanned⟩
      · cases scanned
    all_goals cases scanned
  · rintro (⟨rfl, scanned⟩ | ⟨digit, scanned⟩)
    · exact orBroken_eq_number_iff.2 scanned
    · rw [scan_digit digit]
      exact orBroken_eq_number_iff.2 scanned

theorem scan_append (ends : EndsNumber tail) {c : Char} {text rest : List Char} {literal : Literal}
    (scanned : scan c text = (.number literal, rest)) :
    scan c (text ++ tail) = (.number literal, rest ++ tail) := by
  rw [scan_eq_number_iff] at scanned ⊢
  rcases scanned with ⟨sign, scanned⟩ | ⟨digit, scanned⟩
  · exact Or.inl ⟨sign, scanNumber_append ends scanned⟩
  · exact Or.inr ⟨digit, scanNumber_append ends scanned⟩

/-! ### Whole numbers -/

/-- The digits of a natural number, from the highest on. -/
def natDigits (n : Nat) : List Nat :=
  (Nat.toDigits 10 n).map fun c => c.toNat - '0'.toNat

theorem number_natDigits (n : Nat) : Literal.number (natDigits n) = n := by
  rw [Literal.number, natDigits, List.foldl_map]
  exact Nat.ofDigitChars_eq_foldl.symm.trans Nat.ofDigitChars_ten_toDigits

theorem digit_of_mem_toDigits {n : Nat} {c : Char} (member : c ∈ Nat.toDigits 10 n) :
    '0' ≤ c ∧ c ≤ '9' := by
  have isDigit := Nat.isDigit_of_mem_toDigits (by decide) (by decide) member
  simpa [Char.isDigit, Char.le_def] using isDigit

theorem digits_of_all {text : List Char} (all : ∀ c ∈ text, '0' ≤ c ∧ c ≤ '9') :
    digits text = (text.map fun c => c.toNat - '0'.toNat, []) := by
  induction text with
  | nil => rfl
  | cons c text ih =>
    obtain ⟨here, later⟩ := List.forall_mem_cons.1 all
    rw [digits, if_pos here, ih later]
    rfl

theorem head?_natDigits {n : Nat} (positive : 0 < n) : (natDigits n).head? ≠ some 0 := by
  induction n using Nat.strongRecOn with
  | ind n ih =>
    by_cases small : n < 10
    · rw [natDigits, Nat.toDigits_of_lt_base small, List.map_singleton, List.head?_singleton,
        show '0'.toNat = 48 from rfl, Nat.toNat_digitChar_sub_48_of_lt_ten small]
      exact fun zero => Nat.ne_of_gt positive (Option.some.inj zero)
    · have split := Nat.toDigits_of_base_le (b := 10) (by decide) (Nat.le_of_not_lt small)
      have some : natDigits (n / 10) ≠ [] := mt List.map_eq_nil_iff.1 Nat.toDigits_ne_nil
      have smaller := ih (n / 10) (by omega) (by omega)
      rw [natDigits] at some smaller
      rwa [natDigits, split, List.map_append, List.head?_append_of_ne_nil _ some]

theorem isWhole_natDigits (n : Nat) : IsWhole (natDigits n) := by
  refine ⟨mt List.map_eq_nil_iff.1 Nat.toDigits_ne_nil, fun digit more leads => ?_⟩
  by_cases zero : n = 0
  · subst zero
    cases leads
  · exact head?_natDigits (Nat.pos_of_ne_zero zero) (leads ▸ rfl)

theorem scanNumber_toDigits (n : Nat) (ends : EndsNumber tail) :
    scanNumber false (Nat.toDigits 10 n ++ tail) = .ok (⟨false, natDigits n, [], none⟩, tail) := by
  have alone : scanNumber false (Nat.toDigits 10 n) = .ok (⟨false, natDigits n, [], none⟩, []) :=
    scanNumber_eq_ok_iff.2 ⟨natDigits n, [], none, [], [],
      digits_of_all fun _ => digit_of_mem_toDigits, isWhole_natDigits n, rfl, rfl, rfl⟩
  exact scanNumber_append ends alone

theorem isSpace_of_digit {c : Char} (digit : '0' ≤ c ∧ c ≤ '9') : isSpace c = false := by
  have apart : ∀ blank : Char, ¬('0' ≤ blank ∧ blank ≤ '9') → c ≠ blank :=
    fun blank noDigit same => noDigit (same ▸ digit)
  simp [isSpace, apart ' ' (by decide), apart '\t' (by decide), apart '\n' (by decide),
    apart '\r' (by decide)]

theorem Lexed.natural {text : List Char} {found : List Lexeme} (n : Nat) (ends : EndsNumber text)
    (tail : Lexed text found) :
    Lexed (Nat.toDigits 10 n ++ text) (.number ⟨false, natDigits n, [], none⟩ :: found) := by
  have scanned := scanNumber_toDigits n ends
  have all := fun c => digit_of_mem_toDigits (n := n) (c := c)
  cases written : Nat.toDigits 10 n with
  | nil => exact absurd written Nat.toDigits_ne_nil
  | cons c more =>
    rw [written] at scanned all
    have digit := all c (List.mem_cons_self ..)
    exact .cons (isSpace_of_digit digit) (scan_eq_number_iff.2 (Or.inr ⟨digit, scanned⟩)) tail

theorem Reader.number?_natDigits {n : Nat} (fits : n < UInt64.size) :
    Reader.standard.number? ⟨false, natDigits n, [], none⟩ = some (.whole (Int.ofNat n)) := by
  show Number.ofLiteral? _ _ = _
  rw [Number.ofLiteral?]
  dsimp only
  rw [number_natDigits]
  exact if_pos (by simp [Literal.isWhole, fits])

/-! ### Numbers by themselves -/

/-- What is one number by itself is the same number in front of anything that ends it. -/
theorem Lexed.number {text rest : List Char} {literal : Literal} {found : List Lexeme}
    (alone : Lexed text [.number literal]) (ends : EndsNumber rest) (tail : Lexed rest found) :
    Lexed (text ++ rest) (.number literal :: found) := by
  cases alone with
  | next starts scanned behind =>
    cases behind with
    | done blank =>
      refine .next ?_ (scan_append ends scanned) (.blank_append blank tail)
      rw [List.dropWhile_append, starts]
      rfl

theorem scan_number_nil {c : Char} {literal : Literal} {after : List Char}
    (scanned : scan c [] = (.number literal, after)) : after = [] := by
  rcases scan_eq_number_iff.1 scanned with ⟨-, scanned⟩ | ⟨digit, scanned⟩
  · cases scanned
  · obtain ⟨whole, fraction, exponent, behind, further, isWhole, -, isFraction, isExponent, -⟩ :=
      scanNumber_eq_ok_iff.1 scanned
    rw [digits, if_pos digit] at isWhole
    cases isWhole
    cases isFraction
    cases isExponent
    rfl

theorem Lexed.of_lexemes {text : List Char} {literal : Literal}
    (found : lexemes text = [.number literal]) : Lexed text [.number literal] := by
  rw [lexemes] at found
  cases isLength : text.length with
  | zero =>
    rw [isLength] at found
    cases found
  | succ more =>
    rw [isLength, lexemesIn] at found
    cases starts : text.dropWhile isSpace with
    | nil =>
      rw [starts] at found
      cases found
    | cons c rest =>
      rw [starts] at found
      dsimp only at found
      cases scanned : scan c rest with
      | mk lexeme after =>
      rw [scanned] at found
      obtain ⟨rfl, nothing⟩ := List.cons.inj found
      refine .next starts scanned (.done ?_)
      cases more with
      | zero =>
        have shorter : (text.dropWhile isSpace).length ≤ text.length :=
          (List.dropWhile_suffix _).length_le
        rw [starts, isLength, List.length_cons] at shorter
        obtain rfl := List.eq_nil_of_length_eq_zero (Nat.le_zero.1 (Nat.le_of_succ_le_succ shorter))
        rw [scan_number_nil scanned]
        rfl
      | succ fewer =>
        rw [lexemesIn] at nothing
        split at nothing
        · assumption
        · cases nothing

theorem Reader.value_eq_number {reader : Reader} {depth steps : Nat} {text rest : List Lexeme}
    {number : Number} (isValue : reader.value depth steps text = (.number number, rest)) :
    ∃ literal, text = .number literal :: rest ∧ reader.number? literal = some number := by
  cases steps with
  | zero => cases isValue
  | succ steps =>
    unfold Reader.value at isValue
    split at isValue
    case h_4 literal after =>
      cases isNumber : reader.number? literal with
      | none =>
        rw [isNumber] at isValue
        cases isValue
      | some found =>
        rw [isNumber] at isValue
        cases isValue
        exact ⟨literal, rfl, isNumber⟩
    case h_5 value after => cases value <;> cases isValue
    all_goals cases isValue

theorem Decoder.ofText_eq_ok_iff {α : Type} {decoder : Decoder α} {text : String} {value : α} :
    decoder.ofText text = .ok value ↔
      ∃ document, Reader.standard.read text = (document, false) ∧
        decoder .text document = .ok value := by
  unfold Decoder.ofText
  cases Reader.standard.read text with
  | mk document more =>
  dsimp only [bind, Except.bind]
  cases decoded : decoder .text document with
  | error fault =>
    refine ⟨nofun, ?_⟩
    rintro ⟨_, ⟨⟩, isValue⟩
    rw [decoded] at isValue
    cases isValue
  | ok made =>
    cases more with
    | true =>
      refine ⟨nofun, ?_⟩
      rintro ⟨_, ⟨⟩, -⟩
    | false =>
      constructor
      · rintro ⟨⟩
        exact ⟨document, rfl, decoded⟩
      · rintro ⟨_, ⟨⟩, isValue⟩
        exact decoded.symm.trans isValue

/-- A text that is decoded as a number is one number by itself. -/
theorem lexed_of_real {text : String} {value : Float} (decoded : Decoder.real.ofText text = .ok value) :
    ∃ literal number, Lexed text.toList [.number literal] ∧
      Reader.standard.number? literal = some number ∧
      ∀ source, Decoder.real source (.number number) = .ok value := by
  obtain ⟨document, read, isValue⟩ := Decoder.ofText_eq_ok_iff.1 decoded
  cases document with
  | number number =>
    unfold Reader.read at read
    dsimp only at read
    cases isRead : Reader.standard.value 0 (2 * (lexemes text.toList).length + 1)
        (lexemes text.toList) with
    | mk document rest =>
    rw [isRead] at read
    cases rest with
    | cons lexeme rest => cases read
    | nil =>
      cases read
      obtain ⟨literal, lexed, isNumber⟩ := Reader.value_eq_number isRead
      refine ⟨literal, number, .of_lexemes lexed, isNumber, fun source => ?_⟩
      cases number <;> exact isValue
  | _ => cases isValue

end SkillDispatch.Json
