import SkillDispatch.Token

set_option autoImplicit false

/- Tokens in one pass. The scanner reads a text from left to right and keeps the byte at which the
open run begins; a separator closes the run. One separator more is read after the end of the text,
so that no run stays open. -/
namespace SkillDispatch

open Text Unicode

/-- The characters of a text that starts at the given byte, each with the byte at which it begins. -/
def charIndices : Nat → List Char → List (Nat × Char)
  | _, [] => []
  | byte, c :: rest => (byte, c) :: charIndices (byte + c.utf8Size) rest

/-- What the scanner has found: the tokens before the open run, and where the run begins. -/
structure Scanner where
  tokens : List Token
  opened : Option Nat
  deriving DecidableEq

namespace Scanner

/-- Adds the token of a span of the text, unless there is no letter or numeral in it. -/
def push (text : List Char) (tokens : List Token) (span : Span) : List Token :=
  let surface := slice text span
  if surface.any isAlphanumeric then
    tokens ++
      [{ value := String.ofList (fold surface)
         surface := String.ofList surface
         position := tokens.length
         span := span
         kind := Token.kindOf surface }]
  else tokens

def step (text : List Char) (scanner : Scanner) (item : Nat × Char) : Scanner :=
  match scanner.opened, isTokenChar item.2 with
  | none, true => { scanner with opened := some item.1 }
  | some start, false => ⟨push text scanner.tokens ⟨start, item.1⟩, none⟩
  | none, false => scanner
  | some _, true => scanner

end Scanner

/-- The tokens that the scanner finds in a text. -/
def scan (text : String) : List Token :=
  let chars := text.toList
  let items := charIndices 0 chars ++ [(byteLength chars, ' ')]
  (items.foldl (Scanner.step chars) ⟨[], none⟩).tokens

end SkillDispatch
