import SkillDispatch.Checked
import SkillDispatch.Pattern

set_option autoImplicit false

/- Programs: patterns laid out flat. The body of an optional part follows it directly, and the part
says where its body ends, so that the body can be stepped into or jumped over. All jumps go forward;
so the fewest tokens that the rest of a program takes are found in one pass from its end. -/
namespace SkillDispatch

inductive Op
  | literal (phrases : List Phrase)
  /-- Binds one token or more to the slot with this index. -/
  | capture (slot : Nat)
  | wildcard
  /-- The ops before `stop` are a body that may be left out. -/
  | optional (stop : Nat)
  deriving DecidableEq

/-- The ops and the slots of a program that is being laid out. -/
structure Draft where
  ops : List Op
  slots : List String

namespace Draft

def empty : Draft := ⟨[], []⟩

def push (draft : Draft) (op : Op) : Draft :=
  { draft with ops := draft.ops ++ [op] }

def pushSlot (draft : Draft) (slot : String) : Draft :=
  { draft with slots := draft.slots ++ [slot] }

end Draft

mutual

/-- Lays out a part. The end of an optional body is known only after the body is laid out; it is
filled in then. -/
def Part.layOut : Part → Draft → Checked Draft
  | .literal phrases, draft => .ok (draft.push (.literal phrases))
  | .capture slot, draft => .ok ((draft.push (.capture draft.slots.length)).pushSlot slot)
  | .wildcard, draft => .ok (draft.push .wildcard)
  | .optional body, draft => do
    let start := draft.ops.length
    let filled ← Part.layOutEach body (draft.push (.optional start))
    let ops ← Checked.withEntry filled.ops start (.optional filled.ops.length)
    return { filled with ops := ops }

def Part.layOutEach : List Part → Draft → Checked Draft
  | [], draft => .ok draft
  | part :: rest, draft => do
    let next ← part.layOut draft
    Part.layOutEach rest next

end

/-- The fewest tokens that the program takes from an op on, given those for the later ops. -/
def Op.fewest (table : List Nat) (pc : Nat) : Op → Checked Nat
  | .literal phrases => do
    let shortest := (phrases.map fun phrase => phrase.tokens.length).min?.getD 0
    let later ← Checked.entry table (pc + 1)
    return shortest + later
  | .capture _ => do
    let later ← Checked.entry table (pc + 1)
    return 1 + later
  | .wildcard => Checked.entry table (pc + 1)
  | .optional stop => do
    let taken ← Checked.entry table (pc + 1)
    let skipped ← Checked.entry table stop
    return min taken skipped

/-- The fewest tokens that the program takes from each op on, and none at its end. -/
def Op.minimumTokens (ops : List Op) : Checked (List Nat) :=
  (List.range ops.length).reverse.foldlM
    (fun table pc => do
      let op ← Checked.entry ops pc
      let fewest ← op.fewest table pc
      Checked.withEntry table pc fewest)
    (List.replicate (ops.length + 1) 0)

structure Program where
  ops : List Op
  /-- The slots in the order of their captures. -/
  slots : List String
  /-- For each op, and for the end, the fewest tokens that the program takes from there on. -/
  minimumTokens : List Nat
  deriving DecidableEq

def Pattern.program (pattern : Pattern) : Checked Program := do
  let draft ← Part.layOutEach pattern.parts .empty
  let minimumTokens ← Op.minimumTokens draft.ops
  return ⟨draft.ops, draft.slots, minimumTokens⟩

end SkillDispatch
