import SkillDispatch.Match
import SkillDispatch.Program.Slots

set_option autoImplicit false

namespace SkillDispatch.Program

/-- A program that fits, by its index, with the alignment that was found for it. -/
structure Fit where
  index : Nat
  program : Program
  found : Found

/-- Whether an alignment scores higher than that of the fit that is kept. -/
def Found.improves (found : Found) : Option Fit → Bool
  | none => true
  | some fit => fit.found.score < found.score

/-- The best fit among `kept` and the programs from `index` on. A program that does not fit is passed
over, and nothing is looked at after one that is certain. -/
def bestFit (scorer : Scorer) (depth : Nat) (tokens : List Token) :
    Nat → List Program → Option Fit → ExceptT Crash Option (Option Fit)
  | _, [], kept => return kept
  | index, program :: rest, kept => do
    let best ← program.align tokens scorer depth
    match best with
    | none => bestFit scorer depth tokens (index + 1) rest kept
    | some found =>
      if found.improves kept then
        if found.score == .certain then return some ⟨index, program, found⟩
        else bestFit scorer depth tokens (index + 1) rest (some ⟨index, program, found⟩)
      else bestFit scorer depth tokens (index + 1) rest kept

def recognize (scorer : Scorer) (depth : Nat) (programs : List Program) (utterance : Utterance) :
    ExceptT Crash Option Match :=
  if utterance.isEmpty then return .none
  else do
    let best ← bestFit scorer depth utterance.tokens 0 programs none
    match best with
    | none => return .none
    | some fit => do
      let slots ← fit.program.slotsOf utterance fit.found
      return ⟨fit.found.score, some fit.index, slots⟩

end SkillDispatch.Program
