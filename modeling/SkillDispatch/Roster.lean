import SkillDispatch.Text.NameMap

set_option autoImplicit false

namespace SkillDispatch

open Text

/-- Entries in order, and the place at which the entry of each name stands. -/
structure Roster (α : Type) where
  entries : List α
  places : NameMap Nat

namespace Roster

variable {α : Type}

def empty : Roster α := ⟨[], .empty⟩

def get? (roster : Roster α) (name : String) : Option α :=
  (roster.places.get? name).bind fun place => roster.entries[place]?

def contains (roster : Roster α) (name : String) : Bool :=
  (roster.places.get? name).isSome

/-- Enters an entry at the end, unless its name is taken. Tells whether it was entered. -/
def enter (roster : Roster α) (name : String) (entry : α) : Bool × Roster α :=
  if roster.contains name then (false, roster)
  else
    let placed := { roster with places := roster.places.insert name roster.entries.length }
    (true, { placed with entries := placed.entries ++ [entry] })

end Roster

end SkillDispatch
