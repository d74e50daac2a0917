import SkillDispatch.Program.Search
import SkillDispatch.Slot
import SkillDispatch.Utterance

set_option autoImplicit false

namespace SkillDispatch

open Text

namespace Text

/-- Whether a character begins at a byte, or the text ends there. -/
def atBoundary : List Char → Nat → Bool
  | [], byte => byte == 0
  | c :: chars, byte =>
    byte == 0 || c.utf8Size ≤ byte && atBoundary chars (byte - c.utf8Size)

end Text

namespace Utterance

/-- The bytes of a range of tokens, if the range is not empty and within the tokens. -/
def spanOf (utterance : Utterance) (range : Span) : Checked (Option Span) :=
  if range.start < range.stop ∧ range.stop ≤ utterance.length then do
    let first ← Checked.entry utterance.tokens range.start
    let lastIndex ← Checked.minus range.stop 1
    let last ← Checked.entry utterance.tokens lastIndex
    return some ⟨first.span.start, last.span.stop⟩
  else return none

/-- The text of a span of bytes that begins and ends between characters. -/
def piece (utterance : Utterance) (span : Span) : Checked String :=
  if span.start ≤ span.stop ∧ atBoundary utterance.text.toList span.start ∧
      atBoundary utterance.text.toList span.stop then
    .ok (utterance.textAt span)
  else .error .cutCharacter

def textOf (utterance : Utterance) (range : Span) : Checked (Option String) := do
  let span ← utterance.spanOf range
  match span with
  | none => return none
  | some span => do
    let text ← utterance.piece span
    return some text

end Utterance

namespace Program

/-- Binds one capture, unless its tokens have no span of bytes. -/
def bind (program : Program) (utterance : Utterance) (bound : Slots) :
    Nat × Span → Checked Slots
  | (slot, range) => do
    let span ← utterance.spanOf range
    match span with
    | none => return bound
    | some span => do
      let name ← Checked.entry program.slots slot
      let text ← utterance.piece span
      return bound.insert name ⟨text, range, span⟩

/-- The slots that an alignment of the program binds. -/
def slotsOf (program : Program) (utterance : Utterance) (found : Found) : Checked Slots :=
  found.captures.foldlM (program.bind utterance) .empty

end Program

end SkillDispatch
