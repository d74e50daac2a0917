set_option autoImplicit false

namespace SkillDispatch.Unicode

/-- Ranges of code points, both ends included, in ascending order and apart from each other. -/
abbrev CodeRanges := List (Nat × Nat)

/-- Whether a code point lies in one of the ranges. The search ends at the first range above it. -/
def CodeRanges.has : CodeRanges → Nat → Bool
  | [], _ => false
  | (first, last) :: rest, code =>
    if code < first then false else if code ≤ last then true else CodeRanges.has rest code

end SkillDispatch.Unicode
