import SkillDispatch.Alignment

set_option autoImplicit false

namespace SkillDispatch

namespace Recognition

structure Fit where
  index : Nat
  best : Alignment.Scored

/-- The best fit among `kept` and the patterns from `index` on. The earlier of equally good patterns
stays, and nothing can be better than certain. -/
def bestFit (scorer : Scorer) (tokens : List Token) :
    Nat → List Pattern → Option Fit → Option Fit
  | _, [], kept => kept
  | index, pattern :: rest, kept =>
    match pattern.align scorer tokens with
    | none => bestFit scorer tokens (index + 1) rest kept
    | some found =>
      let improves := match kept with
        | none => true
        | some fit => fit.best.score < found.score
      if improves then
        if found.score == .certain then some ⟨index, found⟩
        else bestFit scorer tokens (index + 1) rest (some ⟨index, found⟩)
      else bestFit scorer tokens (index + 1) rest kept

end Recognition

/-- Finds the pattern that fits an utterance best. Nothing fits an utterance without tokens. -/
def recognize (scorer : Scorer) (patterns : List Pattern) (utterance : Utterance) : Match :=
  if utterance.isEmpty then .none
  else match Recognition.bestFit scorer utterance.tokens 0 patterns none with
    | some fit => ⟨fit.best.score, some fit.index, fit.best.alignment.slots utterance⟩
    | none => .none

end SkillDispatch
