import SkillDispatch.Confidence

set_option autoImplicit false

namespace SkillDispatch

/-- The number of tokens by the part they had in an alignment. -/
structure Coverage where
  /-- Tokens that a literal of the pattern asked for. -/
  literal : Nat
  /-- Tokens bound to slots. -/
  captured : Nat
  /-- Tokens under wildcards or outside the match. -/
  gap : Nat
  deriving DecidableEq

def Coverage.total (coverage : Coverage) : Nat :=
  coverage.literal + coverage.captured + coverage.gap

/-- A rule that turns coverage into confidence. For a given number of tokens and of literal ones, a
wider gap should never score higher. -/
abbrev Scorer := Coverage → Confidence

/-- The share of literal tokens among those that are not captured. -/
def literalShare : Scorer := fun coverage =>
  if coverage.literal = 0 then .zero
  else .ofFloat (coverage.literal.toFloat / (coverage.literal + coverage.gap).toFloat)

end SkillDispatch
