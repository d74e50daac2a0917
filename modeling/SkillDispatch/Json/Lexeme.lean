import SkillDispatch.Decimal.Literal
import SkillDispatch.Json.Fault
import SkillDispatch.Text.Span

set_option autoImplicit false

/- Lexemes of JSON texts. A text that is wrong may be wrong in two ways: to a reader that wants the
value, and to one that only looks for its end. -/
namespace SkillDispatch.Json

open Decimal Text

/-- What stops the two kinds of readers. -/
structure Break where
  /-- The fault met when the value is wanted. -/
  reading : Fault
  /-- The fault met when the value is skipped. -/
  skipping : Fault
  deriving DecidableEq

namespace Break

def both (fault : Fault) : Break := ⟨fault, fault⟩

def truncated : Break := both .truncated

def malformed : Break := both .malformed

end Break

/-- A lexeme, or what stands where none can be read. -/
inductive Lexeme
  | openArray
  | closeArray
  | openObject
  | closeObject
  | comma
  | colon
  | null
  | bool (value : Bool)
  | number (literal : Literal)
  /-- A string; without a value, when its surrogates do not pair up. -/
  | string (value : Option String)
  | brokenString (fault : Break)
  | broken (fault : Break)

/-- A piece of a string: a character, or a UTF-16 unit written as an escape. -/
inductive Piece
  | char (c : Char)
  | unit (code : Nat)

def hexDigit? (c : Char) : Option Nat :=
  if '0' ≤ c ∧ c ≤ '9' then some (c.toNat - '0'.toNat)
  else if 'a' ≤ c ∧ c ≤ 'f' then some (c.toNat - 'a'.toNat + 10)
  else if 'A' ≤ c ∧ c ≤ 'F' then some (c.toNat - 'A'.toNat + 10)
  else none

def unit? (a b c d : Char) : Option Nat := do
  let a ← hexDigit? a
  let b ← hexDigit? b
  let c ← hexDigit? c
  let d ← hexDigit? d
  return ((a * 16 + b) * 16 + c) * 16 + d

def escape? (c : Char) : Option Char :=
  match c with
  | '"' => some '"'
  | '\\' => some '\\'
  | '/' => some '/'
  | 'b' => some '\x08'
  | 'f' => some '\x0c'
  | 'n' => some '\n'
  | 'r' => some '\r'
  | 't' => some '\t'
  | _ => none

/-- Splits the text after an opening quote into pieces, up to the closing quote or to a fault that
every reader meets. -/
def pieces : List Char → List Piece × Except Fault (List Char)
  | [] => ([], .error .truncated)
  | '"' :: rest => ([], .ok rest)
  | ['\\'] => ([], .error .truncated)
  | '\\' :: 'u' :: a :: b :: c :: d :: rest =>
    match unit? a b c d with
    | none => ([], .error .malformed)
    | some code => let (found, after) := pieces rest; (.unit code :: found, after)
  | '\\' :: 'u' :: rest =>
    -- an escape that is cut off by the end of the text is counted in bytes
    ([], .error (if byteLength rest < 4 then .truncated else .malformed))
  | '\\' :: c :: rest =>
    match escape? c with
    | none => ([], .error .malformed)
    | some meant => let (found, after) := pieces rest; (.char meant :: found, after)
  | c :: rest =>
    if c.toNat < 0x20 then ([], .error .malformed)
    else let (found, after) := pieces rest; (.char c :: found, after)

/-- The first unit of a pair. -/
def isLeading (code : Nat) : Bool := 0xD800 ≤ code && code < 0xDC00

def isTrailing (code : Nat) : Bool := 0xDC00 ≤ code && code < 0xE000

/-- The characters that pieces stand for; none, if a surrogate stands alone. A leading one at the
end stands alone only when the string ends there. -/
def assemble (closed : Bool) : List Piece → Option (List Char)
  | [] => some []
  | .char c :: rest => (assemble closed rest).map (c :: ·)
  | [.unit code] =>
    if isLeading code then (if closed then none else some [])
    else if isTrailing code then none
    else some [Char.ofNat code]
  | .unit code :: .unit next :: rest =>
    if isLeading code then
      if isTrailing next then
        (assemble closed rest).map
          (Char.ofNat (0x10000 + (code - 0xD800) * 0x400 + (next - 0xDC00)) :: ·)
      else none
    else if isTrailing code then none
    else (assemble closed (.unit next :: rest)).map (Char.ofNat code :: ·)
  | .unit code :: .char c :: rest =>
    if isLeading code || isTrailing code then none
    else (assemble closed rest).map (Char.ofNat code :: c :: ·)

def scanString (text : List Char) : Lexeme × List Char :=
  match pieces text with
  | (found, .ok rest) => (.string ((assemble true found).map String.ofList), rest)
  | (found, .error fault) =>
    (.brokenString ⟨if (assemble false found).isNone then .malformed else fault, fault⟩, [])

/-- The decimal digits at the start of a text, with the rest of the text. -/
def digits : List Char → List Nat × List Char
  | [] => ([], [])
  | c :: rest =>
    if '0' ≤ c ∧ c ≤ '9' then
      let (found, after) := digits rest
      ((c.toNat - '0'.toNat) :: found, after)
    else ([], c :: rest)

/-- Where a digit is missing, only a reader that wants the value tells the end of the text from a
wrong character. -/
def missingDigit (rest : List Char) : Break :=
  ⟨if rest.isEmpty then .truncated else .malformed, .malformed⟩

/-- The fraction of a number: a point and at least one digit, or nothing. -/
def scanFraction : List Char → Except Break (List Nat × List Char)
  | '.' :: text =>
    match digits text with
    | ([], rest) => .error (missingDigit rest)
    | found => .ok found
  | text => .ok ([], text)

def scanPower (negative : Bool) (text : List Char) : Except Break (Option Exponent × List Char) :=
  match digits text with
  | ([], rest) => .error (missingDigit rest)
  | (found, rest) => .ok (some ⟨negative, found⟩, rest)

def scanExponent : List Char → Except Break (Option Exponent × List Char)
  | c :: text =>
    if c = 'e' || c = 'E' then
      match text with
      | '+' :: text => scanPower false text
      | '-' :: text => scanPower true text
      | text => scanPower false text
    else .ok (none, c :: text)
  | [] => .ok (none, [])

/-- A number after its sign. A zero that is not the only digit before the point may not lead. -/
def scanNumber (negative : Bool) (text : List Char) : Except Break (Literal × List Char) :=
  match digits text with
  | ([], rest) => .error (missingDigit rest)
  | (0 :: _ :: _, _) => .error .malformed
  | (whole, rest) => do
    let (fraction, rest) ← scanFraction rest
    let (exponent, rest) ← scanExponent rest
    return (⟨negative, whole, fraction, exponent⟩, rest)

/-- The rest of a text after a word that has to stand there. -/
def afterWord : List Char → List Char → Except Break (List Char)
  | [], text => .ok text
  | _ :: _, [] => .error .truncated
  | c :: word, d :: text => if c = d then afterWord word text else .error .malformed

/-- A lexeme that is read to an end, with the rest of the text; or what breaks it. -/
def orBroken (result : Except Break (Lexeme × List Char)) : Lexeme × List Char :=
  match result with
  | .ok found => found
  | .error fault => (.broken fault, [])

def scan (c : Char) (text : List Char) : Lexeme × List Char :=
  match c with
  | '[' => (.openArray, text)
  | ']' => (.closeArray, text)
  | '\x7b' => (.openObject, text)
  | '\x7d' => (.closeObject, text)
  | ',' => (.comma, text)
  | ':' => (.colon, text)
  | '"' => scanString text
  | 'n' => orBroken ((afterWord ['u', 'l', 'l'] text).map fun rest => (.null, rest))
  | 't' => orBroken ((afterWord ['r', 'u', 'e'] text).map fun rest => (.bool true, rest))
  | 'f' => orBroken ((afterWord ['a', 'l', 's', 'e'] text).map fun rest => (.bool false, rest))
  | '-' => orBroken ((scanNumber true text).map fun (literal, rest) => (.number literal, rest))
  | c =>
    if '0' ≤ c ∧ c ≤ '9' then
      orBroken ((scanNumber false (c :: text)).map fun (literal, rest) => (.number literal, rest))
    else (.broken .malformed, [])

def isSpace (c : Char) : Bool :=
  c = ' ' || c = '\t' || c = '\n' || c = '\r'

/-- The lexemes of a text, up to the first that is broken. Each takes a character at least, so as
many steps suffice as there are characters. -/
def lexemesIn : (steps : Nat) → List Char → List Lexeme
  | 0, _ => []
  | steps + 1, text =>
    match text.dropWhile isSpace with
    | [] => []
    | c :: rest =>
      let (lexeme, after) := scan c rest
      lexeme :: lexemesIn steps after

def lexemes (text : List Char) : List Lexeme :=
  lexemesIn text.length text

end SkillDispatch.Json
