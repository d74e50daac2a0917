set_option autoImplicit false

namespace SkillDispatch.Text

/-- Binds a name in an ascending list; a value that it had before is replaced. -/
def bindName {α : Type} (name : String) (value : α) : List (String × α) → List (String × α)
  | [] => [(name, value)]
  | (other, kept) :: rest =>
    if name < other then (name, value) :: (other, kept) :: rest
    else if name = other then (name, value) :: rest
    else (other, kept) :: bindName name value rest

theorem lookup_entry {α : Type} (wanted name : String) (value : α) (rest : List (String × α)) :
    ((name, value) :: rest).lookup wanted =
      if wanted = name then some value else rest.lookup wanted := by
  rw [List.lookup_cons]
  by_cases same : wanted = name
  · simp [same]
  · rw [if_neg same, beq_eq_false_iff_ne.2 same]

theorem lookup_bindName {α : Type} (name : String) (value : α) (entries : List (String × α))
    (wanted : String) :
    (bindName name value entries).lookup wanted =
      if wanted = name then some value else entries.lookup wanted := by
  induction entries with
  | nil => rw [bindName, lookup_entry]
  | cons head rest ih =>
    obtain ⟨other, kept⟩ := head
    rw [bindName]
    split
    · rw [lookup_entry]
    · split
      · rename_i same
        subst same
        rw [lookup_entry, lookup_entry]
        split <;> rfl
      · rename_i different
        rw [lookup_entry, lookup_entry, ih]
        by_cases wantedOther : wanted = other
        · rw [if_pos wantedOther, if_neg fun same => different (same.symm.trans wantedOther),
            if_pos wantedOther]
        · rw [if_neg wantedOther, if_neg wantedOther]

theorem mem_bindName {α : Type} {name : String} {value : α} {entries : List (String × α)}
    {entry : String × α} (member : entry ∈ bindName name value entries) :
    entry = (name, value) ∨ entry ∈ entries := by
  induction entries with
  | nil => exact Or.inl (by simpa [bindName] using member)
  | cons head rest ih =>
    obtain ⟨other, kept⟩ := head
    simp only [bindName] at member
    split at member
    · simpa using member
    · split at member
      · rcases List.mem_cons.1 member with rfl | inRest
        · exact Or.inl rfl
        · exact Or.inr (List.mem_cons_of_mem _ inRest)
      · rcases List.mem_cons.1 member with rfl | inRest
        · exact Or.inr (List.mem_cons_self ..)
        · exact (ih inRest).imp id (List.mem_cons_of_mem _)

theorem bindName_ascending {α : Type} (name : String) (value : α) (entries : List (String × α))
    (ascending : entries.Pairwise (·.1 < ·.1)) :
    (bindName name value entries).Pairwise (·.1 < ·.1) := by
  induction entries with
  | nil => simp [bindName]
  | cons head rest ih =>
    obtain ⟨other, kept⟩ := head
    obtain ⟨below, ascendingRest⟩ := List.pairwise_cons.1 ascending
    simp only [bindName]
    split
    · rename_i less
      refine List.pairwise_cons.2 ⟨?_, ascending⟩
      intro entry member
      rcases List.mem_cons.1 member with rfl | inRest
      · exact less
      · exact String.lt_trans less (below entry inRest)
    · split
      · rename_i same
        subst same
        exact List.pairwise_cons.2 ⟨below, ascendingRest⟩
      · rename_i notLess notSame
        refine List.pairwise_cons.2 ⟨?_, ih ascendingRest⟩
        intro entry member
        rcases mem_bindName member with rfl | inRest
        · exact Std.not_le.1 fun le => notSame (String.le_antisymm (Std.not_lt.1 notLess) le).symm
        · exact below entry inRest

structure NameMap (α : Type) where
  entries : List (String × α)
  ascending : entries.Pairwise (·.1 < ·.1)

namespace NameMap

variable {α : Type}

def empty : NameMap α := ⟨[], .nil⟩

/-- Binds a name, replacing the value that it had. -/
def insert (map : NameMap α) (name : String) (value : α) : NameMap α :=
  ⟨bindName name value map.entries, bindName_ascending name value map.entries map.ascending⟩

def get? (map : NameMap α) (name : String) : Option α :=
  map.entries.lookup name

@[simp] theorem get?_empty (name : String) : (empty : NameMap α).get? name = none := rfl

theorem get?_insert (map : NameMap α) (name : String) (value : α) (wanted : String) :
    (map.insert name value).get? wanted = if wanted = name then some value else map.get? wanted :=
  lookup_bindName name value map.entries wanted

def size (map : NameMap α) : Nat :=
  map.entries.length

end NameMap

end SkillDispatch.Text
