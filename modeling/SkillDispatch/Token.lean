import SkillDispatch.Text.Folded
import SkillDispatch.Text.Span

set_option autoImplicit false

/- Tokens: the words and numbers of a text. Spoken text and the words of patterns are split in the
same way, so a word of a pattern stands for a token exactly when their folded forms are equal. -/
namespace SkillDispatch

open Text Unicode

/-- A maximal run of token characters, with the byte at which it starts. -/
structure Run where
  start : Nat
  chars : List Char
  deriving DecidableEq

/-- A letter, a numeral or an apostrophe; anything else separates tokens. -/
def isTokenChar (c : Char) : Bool :=
  isAlphanumeric c || c = '\'' || c = '’'

/-- The maximal runs of a text that starts at the given byte. A token character joins the run that
starts right after it. -/
def runs : Nat → List Char → List Run
  | _, [] => []
  | start, c :: chars =>
    let rest := runs (start + c.utf8Size) chars
    if isTokenChar c then
      match rest with
      | [] => [⟨start, [c]⟩]
      | run :: others =>
        if run.start = start + c.utf8Size then ⟨start, c :: run.chars⟩ :: others
        else ⟨start, [c]⟩ :: run :: others
    else rest

namespace Run

def span (run : Run) : Span :=
  ⟨run.start, run.start + byteLength run.chars⟩

/-- A run of apostrophes alone is no token. -/
def isToken (run : Run) : Bool :=
  run.chars.any isAlphanumeric

end Run

/-- What a token is made of: numerals only, or anything more. -/
inductive Token.Kind
  | word
  | number
  deriving DecidableEq

/-- One word or number of a text. -/
structure Token where
  /-- The folded form, in which tokens are compared. -/
  value : String
  /-- The token as it stands in the text. -/
  surface : String
  /-- The index among the tokens of the text. -/
  position : Nat
  /-- The bytes of the text that the token takes. -/
  span : Span
  kind : Token.Kind
  deriving DecidableEq

namespace Token

def kindOf (chars : List Char) : Kind :=
  if chars.all isNumeric then .number else .word

/-- The token of a run, as the given one of its text. -/
def ofRun (position : Nat) (run : Run) : Token where
  value := String.ofList (fold run.chars)
  surface := String.ofList run.chars
  position := position
  span := run.span
  kind := kindOf run.chars

end Token

def tokenize (text : String) : List Token :=
  ((runs 0 text.toList).filter Run.isToken).mapIdx Token.ofRun

/-- The folded forms of the tokens of a text. -/
def tokenValues (text : String) : List String :=
  (tokenize text).map Token.value

/-- The folded form of a word. -/
def normalize (word : String) : String :=
  String.ofList (fold word.toList)

end SkillDispatch
