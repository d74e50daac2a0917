import SkillDispatch.Coverage
import SkillDispatch.Program
import SkillDispatch.Text.Span

set_option autoImplicit false

/- The search through a program. A state is an op and a position among the tokens; what a state comes
to is found once and kept in a table. The search is written as it runs, with no measure that would
end it: nothing but a bound on how deep its calls may nest keeps it from going on without end, and
every difference and every place in a table is checked. -/
namespace SkillDispatch

open Text

namespace Program

/-- The rest of an alignment, from a state to the end of the program. -/
structure Tail where
  /-- Tokens under wildcards or after the last op. -/
  gap : Nat
  /-- The indices of the slots with the tokens that they take, from left to right. -/
  captures : List (Nat × Span)
  deriving DecidableEq

/-- One step in front of a tail: the tokens that it matches or leaves out, and what it captures. -/
structure Step where
  literal : Nat
  gap : Nat
  capture : Option (Nat × Span)

/-- A tail with a step in front of it. -/
def Step.before (step : Step) (tail : Tail) : Tail :=
  ⟨step.gap + tail.gap, step.capture.toList ++ tail.captures⟩

/-- The best tails of a state, by the number of literal tokens that they match. -/
abbrev Row := List (Option Tail)

namespace Row

def empty (count : Nat) : Row :=
  List.replicate (count + 1) none

/-- The tails of a row, each with its literal tokens. -/
def entries (row : Row) : List (Nat × Tail) :=
  row.zipIdx.filterMap fun (tail, literal) => tail.map fun tail => (literal, tail)

/-- Keeps a tail if its gap is narrower than what is there. -/
def offer (row : Row) (literal : Nat) (tail : Tail) : Checked Row := do
  let kept ← Checked.entry row literal
  let narrower := match kept with
    | none => true
    | some kept => tail.gap < kept.gap
  if narrower then Checked.withEntry row literal (some tail)
  else return row

/-- Offers a tail of another row with a step in front of it, unless it is too wide. -/
def offerStep (step : Step) (row : Row) : Nat × Tail → Checked Row
  | (literal, tail) => do
    let kept ← Checked.entry row (step.literal + literal)
    let tooWide := match kept with
      | none => false
      | some kept => kept.gap ≤ step.gap + tail.gap
    if tooWide then return row
    else row.offer (step.literal + literal) (step.before tail)

/-- Offers every tail of another row with a step in front of it. -/
def extend (row next : Row) (step : Step) : Checked Row :=
  next.entries.foldlM (offerStep step) row

end Row

/-- The rows of the states that are solved, op by op and for each op position by position. -/
abbrev Memo := List (Option Row)

/-- A run of the search: its calls may nest too deep, or it may end without a result. -/
abbrev Run := StateT Memo (ExceptT Crash Option)

variable (program : Program) (tokens : List Token)

def key (pc position : Nat) : Nat :=
  pc * (tokens.length + 1) + position

/-- Matches the op of a state. The rows of later states come from `search`. -/
def matchOp (search : Nat → Nat → Run Row) (pc position remaining : Nat) : Run Row :=
  let empty := Row.empty tokens.length
  match program.ops[pc]? with
  | none => empty.offer 0 ⟨remaining, []⟩
  | some (.literal phrases) =>
    phrases.foldlM
      (fun row phrase => do
        if phrase.standsAt tokens position then
          let next ← search (pc + 1) (position + phrase.tokens.length)
          row.extend next ⟨phrase.tokens.length, 0, none⟩
        else return row)
      empty
  | some (.optional stop) => do
    let taken ← search (pc + 1) position
    let row ← empty.extend taken ⟨0, 0, none⟩
    let skipped ← search stop position
    row.extend skipped ⟨0, 0, none⟩
  | some (.capture slot) => do
    let later ← Checked.entry program.minimumTokens (pc + 1)
    let longest ← Checked.minus remaining later
    (List.range longest).foldlM
      (fun row more => do
        let next ← search (pc + 1) (position + more + 1)
        row.extend next ⟨0, 0, some (slot, ⟨position, position + more + 1⟩)⟩)
      empty
  | some .wildcard => do
    let later ← Checked.entry program.minimumTokens (pc + 1)
    let longest ← Checked.minus remaining later
    (List.range (longest + 1)).foldlM
      (fun row width => do
        let next ← search (pc + 1) (position + width)
        row.extend next ⟨0, width, none⟩)
      empty

/-- Finds the row of a state, which is empty if too few tokens remain. -/
def solve (search : Nat → Nat → Run Row) (pc position : Nat) : Run Row := do
  let remaining ← Checked.minus tokens.length position
  let fewest ← Checked.entry program.minimumTokens pc
  if remaining < fewest then return Row.empty tokens.length
  else matchOp program tokens search pc position remaining

/-- The row of a state: the one in the table, or else a new one that goes there. The first argument
bounds how deep the calls may nest; a run that would go deeper has no end. -/
def tails : Nat → Nat → Nat → Run Row
  | 0, _, _ => fun _ => ExceptT.mk none
  | depth + 1, pc, position => do
    let memo ← get
    let solved ← Checked.entry memo (key tokens pc position)
    match solved with
    | some row => return row
    | none =>
      let row ← solve program tokens (tails depth) pc position
      let memo ← get
      let extended ← Checked.withEntry memo (key tokens pc position) (some row)
      set extended
      return row

structure Found where
  score : Confidence
  literal : Nat
  captures : List (Nat × Span)

/-- The better one of what is kept and the alignment that a tail makes with `start` tokens before it.
An alignment without literal tokens does not count, and neither does one that scores zero. -/
def consider (scorer : Scorer) (total start : Nat) (best : Option Found) :
    Nat × Tail → Checked (Option Found)
  | (literal, tail) =>
    if literal = 0 then return best
    else do
      let gap := start + tail.gap
      let others ← Checked.minus total literal
      let captured ← Checked.minus others gap
      let score := scorer ⟨literal, captured, gap⟩
      if score.isZero then return best
      else
        let better := match best with
          | none => true
          | some current =>
            current.score < score || score == current.score && current.literal < literal
        return if better then some ⟨score, literal, tail.captures⟩ else best

/-- The best of what is kept and the alignments from each start, up to the first start from which too
few tokens remain. -/
def alignFrom (scorer : Scorer) (depth : Nat) : List Nat → Option Found → Run (Option Found)
  | [], best => return best
  | start :: later, best => do
    let remaining ← Checked.minus tokens.length start
    let fewest ← Checked.entry program.minimumTokens 0
    if remaining < fewest then return best
    else
      let row ← tails program tokens depth 0 start
      let better : Checked (Option Found) :=
        row.entries.foldlM (consider scorer tokens.length start) best
      alignFrom scorer depth later (← better)

def noMemo : Memo :=
  List.replicate ((program.ops.length + 1) * (tokens.length + 1)) none

/-- The best alignment of a program with some tokens, found with calls that nest up to a depth. -/
def align (scorer : Scorer) (depth : Nat) : ExceptT Crash Option (Option Found) :=
  (alignFrom program tokens scorer depth (List.range (tokens.length + 1)) none).run'
    (noMemo program tokens)

end Program

end SkillDispatch
