import SkillDispatch.Program

set_option autoImplicit false

namespace SkillDispatch.Program

/-- A run that writes: it may go on for too long, or it may end without a result. -/
abbrev Writing := ExceptT Crash Option String

/-- Writes the ops from one place up to another behind what is written already. The first of them has
no space in front of it. -/
def write (program : Program) : (steps : Nat) → (pc stop : Nat) → (first : Bool) →
    (written : String) → Writing
  | 0, _, _, _, _ => ExceptT.mk none
  | steps + 1, pc, stop, first, written =>
    if pc < stop then do
      let spaced := if first then written else written ++ " "
      let op ← Checked.entry program.ops pc
      match op with
      | .literal phrases =>
        program.write steps (pc + 1) stop false (spaced ++ Phrase.describe phrases)
      | .capture slot => do
        let name ← Checked.entry program.slots slot
        program.write steps (pc + 1) stop false (spaced ++ ("<" ++ name ++ ">"))
      | .wildcard => program.write steps (pc + 1) stop false (spaced ++ "*")
      | .optional after => do
        let body ← program.write steps (pc + 1) after true (spaced ++ "[")
        program.write steps after stop false (body ++ "]")
    else return written

/-- The text of a program, with no more ops gone through one after the other than the bound. -/
def describe (program : Program) (steps : Nat) : Writing :=
  program.write steps 0 program.ops.length true ""

end SkillDispatch.Program
