import SkillDispatch.Alignment.Frontier
import SkillDispatch.Coverage
import SkillDispatch.Match
import SkillDispatch.Pattern
import SkillDispatch.Utterance

set_option autoImplicit false

/- Alignments of a pattern with an utterance. A pattern is laid over a run of consecutive tokens:
literals stand for equal tokens, captures for one token or more, wildcards for any number, and
optional parts are taken or skipped. The tokens before and after the run are gap.

The alignments from one part on are found for all positions at once, from the last part back to the
first, so the work grows with the product of the lengths however many wildcards a pattern stacks. -/
namespace SkillDispatch

open Text

/-- After the last part, all remaining tokens are gap. -/
def Column.afterLastPart (count : Nat) : Column :=
  .tabulate count fun position => .ofSuffix ⟨count - position, []⟩

/-- The alignments of a literal and of what follows it: the phrases that stand at a position are
tried in their order. -/
def Column.beforeLiteral (tokens : List Token) (phrases : List Phrase) (next : Column) : Column :=
  .tabulate tokens.length fun position =>
    let standing := phrases.filter (Phrase.standsAt tokens position)
    .mergeAll (standing.map fun phrase =>
      (next.frontierAt (position + phrase.tokens.length)).afterLiteral phrase.tokens.length)

/-- The alignments of a capture and of what follows it, the shortest captures first. -/
def Column.beforeCapture (count : Nat) (slot : String) (next : Column) : Column :=
  .tabulate count fun position =>
    .mergeAll ((List.range (count - position)).map fun more =>
      (next.frontierAt (position + more + 1)).afterCapture slot ⟨position, position + more + 1⟩)

/-- The alignments of a wildcard and of what follows it, the shortest gaps first. -/
def Column.beforeWildcard (count : Nat) (next : Column) : Column :=
  .tabulate count fun position =>
    .mergeAll ((List.range (count - position + 1)).map fun width =>
      (next.frontierAt (position + width)).afterGap width)

mutual

/-- The alignments of a part and of what follows it. -/
def Part.solve (tokens : List Token) : Part → Column → Column
  | .literal phrases, next => next.beforeLiteral tokens phrases
  | .capture slot, next => next.beforeCapture tokens.length slot
  | .wildcard, next => next.beforeWildcard tokens.length
  | .optional body, next =>
    let taken := Part.solveEach tokens body next
    .tabulate tokens.length fun position =>
      (taken.frontierAt position).merge (next.frontierAt position)

def Part.solveEach (tokens : List Token) : List Part → Column → Column
  | [], next => next
  | part :: rest, next => part.solve tokens (Part.solveEach tokens rest next)

end

structure Alignment where
  literal : Nat
  gap : Nat
  captures : List (String × Span)
  deriving DecidableEq

namespace Alignment

def coverage (count : Nat) (alignment : Alignment) : Coverage :=
  ⟨alignment.literal, count - alignment.literal - alignment.gap, alignment.gap⟩

/-- The complete alignments that a frontier holds, when the tokens before `start` are gap. An
alignment without literal tokens does not count. -/
def ofFrontier (start : Nat) (frontier : Frontier) : List Alignment :=
  (frontier.zipIdx.drop 1).filterMap fun (kept, literal) =>
    kept.map fun suffix => ⟨literal, start + suffix.gap, suffix.captures⟩

/-- The candidates for the best alignment of a pattern, by start and then by literal tokens. -/
def candidates (pattern : Pattern) (tokens : List Token) : List Alignment :=
  let column := Part.solveEach tokens pattern.parts (.afterLastPart tokens.length)
  (List.range (tokens.length + 1)).flatMap fun start => ofFrontier start (column.frontierAt start)

structure Scored where
  score : Confidence
  alignment : Alignment

/-- A higher score is better; of equal scores, the one with more literal tokens. -/
def Scored.betterThan (first second : Scored) : Bool :=
  second.score < first.score ||
    first.score == second.score && second.alignment.literal < first.alignment.literal

/-- The best of the alignments that score above zero; the first one, where several are. -/
def best (scored : List Scored) : Option Scored :=
  scored.foldl
    (fun kept offered =>
      if offered.score.isZero then kept
      else match kept with
        | none => some offered
        | some current => if offered.betterThan current then some offered else some current)
    none

def slots (utterance : Utterance) (alignment : Alignment) : Slots :=
  alignment.captures.foldl
    (fun bound (slot, tokens) =>
      match utterance.byteSpan? tokens with
      | some span => bound.insert slot ⟨utterance.textAt span, tokens, span⟩
      | none => bound)
    .empty

end Alignment

/-- The best alignment of a pattern with the tokens of an utterance. -/
def Pattern.align (scorer : Scorer) (pattern : Pattern) (tokens : List Token) :
    Option Alignment.Scored :=
  Alignment.best ((Alignment.candidates pattern tokens).map fun alignment =>
    ⟨scorer (alignment.coverage tokens.length), alignment⟩)

end SkillDispatch
