import SkillDispatch.Token

set_option autoImplicit false

namespace SkillDispatch

open Text

structure Utterance where
  text : String
  tokens : List Token := tokenize text
  tokens_eq : tokens = tokenize text := by rfl

namespace Utterance

def ofText (text : String) : Utterance where
  text := text

def length (utterance : Utterance) : Nat :=
  utterance.tokens.length

def isEmpty (utterance : Utterance) : Bool :=
  utterance.tokens.isEmpty

def values (utterance : Utterance) : List String :=
  utterance.tokens.map Token.value

/-- The bytes from the first token of a range to the last one; none for an empty range and for one
that goes beyond the tokens. -/
def byteSpan? (utterance : Utterance) (range : Span) : Option Span :=
  if range.start < range.stop then
    match utterance.tokens[range.start]?, utterance.tokens[range.stop - 1]? with
    | some first, some last => some ⟨first.span.start, last.span.stop⟩
    | _, _ => none
  else none

def textAt (utterance : Utterance) (span : Span) : String :=
  String.ofList (slice utterance.text.toList span)

/-- The text from the first token of a range to the last one. -/
def slice? (utterance : Utterance) (range : Span) : Option String :=
  (utterance.byteSpan? range).map utterance.textAt

end Utterance

end SkillDispatch
