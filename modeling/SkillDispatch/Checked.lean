set_option autoImplicit false

namespace SkillDispatch

/-- Why a run ends without a result. -/
inductive Crash
  /-- More would be taken away than there is. -/
  | belowZero
  /-- There is no such place in a list. -/
  | outOfRange
  /-- A text would be cut within a character. -/
  | cutCharacter
  deriving DecidableEq

/-- A value, or the reason why there is none. -/
abbrev Checked (α : Type) := Except Crash α

namespace Checked

def minus (whole part : Nat) : Checked Nat :=
  if part ≤ whole then .ok (whole - part) else .error .belowZero

def entry {α : Type} (items : List α) (index : Nat) : Checked α :=
  match items[index]? with
  | some item => .ok item
  | none => .error .outOfRange

def withEntry {α : Type} (items : List α) (index : Nat) (item : α) : Checked (List α) :=
  if index < items.length then .ok (items.set index item) else .error .outOfRange

theorem minus_eq {whole part : Nat} (fits : part ≤ whole) :
    minus whole part = .ok (whole - part) :=
  if_pos fits

theorem entry_eq {α : Type} {items : List α} {index : Nat} {item : α}
    (isEntry : items[index]? = some item) : entry items index = .ok item := by
  rw [entry, isEntry]

theorem withEntry_eq {α : Type} {items : List α} {index : Nat} (inRange : index < items.length)
    (item : α) : withEntry items index item = .ok (items.set index item) :=
  if_pos inRange

end Checked

end SkillDispatch
