import SkillDispatch.Program.Search
import SkillDispatch.Proofs.FrontierBounds
import SkillDispatch.Recognition

set_option autoImplicit false

/- What the searches read of a token. They have it whole, with its text, its place and its kind, and
compare nothing of it but its folded form: on tokens with the same folded forms they run alike, the
search through a program down to the rows in its table. -/
namespace SkillDispatch

variable {first second : List Token} (same : first.map Token.value = second.map Token.value)

include same

theorem Token.length_eq_of_values : first.length = second.length := by
  have counts := congrArg List.length same
  rwa [List.length_map, List.length_map] at counts

/-- The only place where a search reads a token. -/
theorem Phrase.standsAt_values (position : Nat) (phrase : Phrase) :
    phrase.standsAt first position = phrase.standsAt second position := by
  have length := Token.length_eq_of_values same
  by_cases inside : position ≤ first.length
  · rw [standsAt_eq_isPrefixOf inside, standsAt_eq_isPrefixOf (length ▸ inside), same]
  · have beyond : ∀ tokens : List Token, first.length = tokens.length →
        phrase.standsAt tokens position = false := by
      intro tokens count
      refine Bool.eq_false_iff.2 fun stands => inside ?_
      have stop := standsAt_le stands
      omega
    rw [beyond first rfl, beyond second length]

theorem Column.beforeLiteral_values (phrases : List Phrase) (next : Column) :
    next.beforeLiteral first phrases = next.beforeLiteral second phrases := by
  have stands : ∀ position, Phrase.standsAt first position = Phrase.standsAt second position :=
    fun position => funext (Phrase.standsAt_values same position)
  simp only [beforeLiteral, stands, Token.length_eq_of_values same]

theorem Part.solveEach_values (parts : List Part) (next : Column) :
    Part.solveEach first parts next = Part.solveEach second parts next := by
  match parts with
  | [] => rw [Part.solveEach, Part.solveEach]
  | .literal phrases :: rest =>
    rw [Part.solveEach, Part.solveEach, Part.solve, Part.solve, Part.solveEach_values rest next,
      Column.beforeLiteral_values same]
  | .capture slot :: rest =>
    rw [Part.solveEach, Part.solveEach, Part.solve, Part.solve, Part.solveEach_values rest next,
      Token.length_eq_of_values same]
  | .wildcard :: rest =>
    rw [Part.solveEach, Part.solveEach, Part.solve, Part.solve, Part.solveEach_values rest next,
      Token.length_eq_of_values same]
  | .optional body :: rest =>
    rw [Part.solveEach, Part.solveEach, Part.solve, Part.solve, Part.solveEach_values rest next,
      Part.solveEach_values body, Token.length_eq_of_values same]
termination_by sizeOf parts

theorem Pattern.align_values (scorer : Scorer) (pattern : Pattern) :
    pattern.align scorer first = pattern.align scorer second := by
  rw [align, align, Alignment.candidates, Alignment.candidates, Part.solveEach_values same,
    Token.length_eq_of_values same]

theorem Recognition.bestFit_values (scorer : Scorer) (index : Nat) (patterns : List Pattern)
    (kept : Option Fit) :
    bestFit scorer first index patterns kept = bestFit scorer second index patterns kept := by
  induction patterns generalizing index kept with
  | nil => rfl
  | cons pattern rest ih => simp only [bestFit, Pattern.align_values same, ih]

namespace Program

variable (program : Program)

theorem key_values (pc position : Nat) : key first pc position = key second pc position := by
  rw [key, key, Token.length_eq_of_values same]

theorem solve_values (search : Nat → Nat → Run Row) (pc position : Nat) :
    program.solve first search pc position = program.solve second search pc position := by
  simp only [solve, matchOp, Phrase.standsAt_values same, Token.length_eq_of_values same]

/-- The runs are the same from every table on, so the tables that they leave are the same too. -/
theorem tails_values (depth pc position : Nat) :
    program.tails first depth pc position = program.tails second depth pc position := by
  induction depth generalizing pc position with
  | zero => rfl
  | succ depth ih =>
    have searches : program.tails first depth = program.tails second depth := by
      funext pc position
      exact ih pc position
    simp only [tails, key_values same, solve_values same, searches]

theorem alignFrom_values (scorer : Scorer) (depth : Nat) (starts : List Nat)
    (best : Option Found) :
    program.alignFrom first scorer depth starts best =
      program.alignFrom second scorer depth starts best := by
  induction starts generalizing best with
  | nil => rfl
  | cons start later ih =>
    simp only [alignFrom, tails_values same, Token.length_eq_of_values same, ih]

theorem align_values (scorer : Scorer) (depth : Nat) :
    program.align first scorer depth = program.align second scorer depth := by
  rw [align, align, noMemo, noMemo, Token.length_eq_of_values same, alignFrom_values same]

end Program

end SkillDispatch
