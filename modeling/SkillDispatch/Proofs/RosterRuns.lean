import Mathlib.Data.List.Induction
import SkillDispatch.Roster

set_option autoImplicit false

namespace SkillDispatch.Roster

open Text

variable {α : Type} {name : α → String} {roster : Roster α}

/-- The place of each name is that of its entry. Names without an entry have no place. -/
def Indexed (name : α → String) (roster : Roster α) : Prop :=
  ∀ id place, roster.places.get? id = some place ↔ (roster.entries.map name)[place]? = some id

theorem indexed_empty : Indexed name (empty : Roster α) := by
  intro id place
  simp [empty]

namespace Indexed

theorem contains_iff (indexed : Indexed name roster) (id : String) :
    roster.contains id = true ↔ id ∈ roster.entries.map name := by
  rw [contains, Option.isSome_iff_exists, List.mem_iff_getElem?]
  constructor
  · rintro ⟨place, placed⟩
    exact ⟨place, (indexed id place).1 placed⟩
  · rintro ⟨place, listed⟩
    exact ⟨place, (indexed id place).2 listed⟩

theorem nodup (indexed : Indexed name roster) : (roster.entries.map name).Nodup := by
  rw [List.Nodup, List.pairwise_iff_getElem]
  intro first second firstIn secondIn before same
  have placedFirst := (indexed _ first).2 (List.getElem?_eq_getElem firstIn)
  have placedSecond := (indexed _ second).2 (List.getElem?_eq_getElem secondIn)
  rw [same, placedSecond] at placedFirst
  simp only [Option.some.injEq] at placedFirst
  omega

theorem place_lt (indexed : Indexed name roster) {id : String} {place : Nat}
    (placed : roster.places.get? id = some place) : place < roster.entries.length := by
  have listed := (indexed id place).1 placed
  have inRange := (List.getElem?_eq_some_iff.1 listed).1
  simpa only [List.length_map] using inRange

/-- Looking up by the place finds what a search through the entries finds. -/
theorem get?_eq_find? (indexed : Indexed name roster) (id : String) :
    roster.get? id = roster.entries.find? fun entry => name entry = id := by
  rw [get?]
  cases placed : roster.places.get? id with
  | none =>
    symm
    rw [Option.bind_none, List.find?_eq_none]
    intro entry member same
    have taken : id ∈ roster.entries.map name :=
      List.mem_map.2 ⟨entry, member, of_decide_eq_true same⟩
    rw [← indexed.contains_iff, contains, placed] at taken
    cases taken
  | some place =>
    have inRange := indexed.place_lt placed
    have named : name roster.entries[place] = id := by
      have listed := (indexed id place).1 placed
      simpa only [List.getElem?_map, List.getElem?_eq_getElem inRange, Option.map_some,
        Option.some.injEq] using listed
    symm
    rw [Option.bind_some, List.getElem?_eq_getElem inRange, List.find?_eq_some_iff_getElem]
    refine ⟨decide_eq_true named, place, inRange, rfl, ?_⟩
    intro earlier before
    have differs := List.pairwise_iff_getElem.1 indexed.nodup earlier place
      (by rw [List.length_map]; omega) (by rw [List.length_map]; exact inRange) before
    simp only [List.getElem_map, named] at differs
    simpa using differs

theorem get?_of_mem (indexed : Indexed name roster) {entry : α} (member : entry ∈ roster.entries) :
    roster.get? (name entry) = some entry := by
  obtain ⟨place, inRange, rfl⟩ := List.mem_iff_getElem.1 member
  have placed : roster.places.get? (name roster.entries[place]) = some place := by
    rw [indexed, List.getElem?_map, List.getElem?_eq_getElem inRange, Option.map_some]
  rw [get?, placed, Option.bind_some, List.getElem?_eq_getElem inRange]

end Indexed

theorem enter_of_contains {id : String} (taken : roster.contains id = true) (entry : α) :
    roster.enter id entry = (false, roster) := by
  rw [enter, if_pos taken]

theorem enter_of_not_contains {id : String} (free : ¬roster.contains id = true) (entry : α) :
    roster.enter id entry =
      (true, ⟨roster.entries ++ [entry], roster.places.insert id roster.entries.length⟩) := by
  rw [enter, if_neg free]

theorem Indexed.enter_of_mem (indexed : Indexed name roster) {entry : α}
    (known : name entry ∈ roster.entries.map name) :
    roster.enter (name entry) entry = (false, roster) :=
  enter_of_contains ((indexed.contains_iff _).2 known) entry

theorem Indexed.enter_of_not_mem (indexed : Indexed name roster) {entry : α}
    (unknown : name entry ∉ roster.entries.map name) :
    ∃ extended, roster.enter (name entry) entry = (true, extended) ∧
      extended.entries = roster.entries ++ [entry] := by
  rw [← indexed.contains_iff] at unknown
  exact ⟨_, enter_of_not_contains unknown entry, rfl⟩

theorem getElem?_concat (names : List String) (last : String) (place : Nat) :
    (names ++ [last])[place]? = if place = names.length then some last else names[place]? := by
  rw [List.getElem?_append]
  by_cases before : place < names.length
  · rw [if_pos before, if_neg (Nat.ne_of_lt before)]
  · rw [if_neg before, List.getElem?_eq_none (Nat.le_of_not_lt before), List.getElem?_singleton]
    have same : place - names.length = 0 ↔ place = names.length := by omega
    simp only [same]

/-- An attempt to enter something keeps the places right, whether it is refused or not. -/
theorem Indexed.enter (indexed : Indexed name roster) (entry : α) :
    Indexed name (roster.enter (name entry) entry).2 := by
  by_cases taken : roster.contains (name entry) = true
  · rw [enter_of_contains taken]
    exact indexed
  · rw [enter_of_not_contains taken]
    have fresh : name entry ∉ roster.entries.map name := by
      rwa [← indexed.contains_iff]
    intro id place
    rw [NameMap.get?_insert, List.map_append, List.map_singleton, getElem?_concat,
      List.length_map]
    by_cases new : id = name entry
    · -- The new name is listed at the new place only.
      rw [if_pos new, Option.some.injEq, new]
      split
      · next last => simp only [last]
      · next other =>
        have unlisted : (roster.entries.map name)[place]? ≠ some (name entry) := fun listed =>
          fresh (List.mem_of_getElem? listed)
        simp only [unlisted, iff_false]
        exact Ne.symm other
    · -- The other names are listed where they were, and none of them at the new place.
      rw [if_neg new, indexed id place]
      split
      · next last =>
        have past : (roster.entries.map name)[place]? = none :=
          List.getElem?_eq_none (by rw [List.length_map]; omega)
        simp only [past, reduceCtorEq, Option.some.injEq, false_iff]
        exact Ne.symm new
      · rfl

/-- The roster after attempts to enter some entries, one after the other. -/
def entered (name : α → String) (attempts : List α) : Roster α :=
  attempts.foldl (fun roster entry => (roster.enter (name entry) entry).2) empty

theorem entered_concat (attempts : List α) (entry : α) :
    entered name (attempts ++ [entry]) =
      ((entered name attempts).enter (name entry) entry).2 := by
  simp only [entered, List.foldl_append, List.foldl_cons, List.foldl_nil]

theorem entered_indexed (attempts : List α) : Indexed name (entered name attempts) := by
  induction attempts using List.reverseRecOn with
  | nil => exact indexed_empty
  | append_singleton attempts entry ih =>
    rw [entered_concat]
    exact ih.enter entry

theorem eraseDups_concat (names : List String) (last : String) :
    (names ++ [last]).eraseDups =
      if last ∈ names then names.eraseDups else names.eraseDups ++ [last] := by
  rw [List.eraseDups_append]
  by_cases known : last ∈ names
  · have removed : [last].removeAll names = [] := by
      simp only [List.removeAll, List.filter_cons, List.filter_nil, List.elem_eq_mem, known,
        decide_true, Bool.not_true, Bool.false_eq_true, ↓reduceIte]
    rw [if_pos known, removed, List.eraseDups_nil, List.append_nil]
  · have kept : [last].removeAll names = [last] := by
      simp only [List.removeAll, List.filter_cons, List.filter_nil, List.elem_eq_mem, known,
        decide_false, Bool.not_false, ↓reduceIte]
    rw [if_neg known, kept]
    rfl

/-- The names are those of the attempts, each where it came first. -/
theorem entered_names (attempts : List α) :
    (entered name attempts).entries.map name = (attempts.map name).eraseDups := by
  induction attempts using List.reverseRecOn with
  | nil => rfl
  | append_singleton attempts entry ih =>
    have taken_iff : (entered name attempts).contains (name entry) = true ↔
        name entry ∈ attempts.map name := by
      rw [(entered_indexed attempts).contains_iff, ih, List.mem_eraseDups]
    rw [entered_concat, List.map_append, List.map_singleton, eraseDups_concat]
    by_cases taken : (entered name attempts).contains (name entry) = true
    · rw [enter_of_contains taken, ih, if_pos (taken_iff.1 taken)]
    · rw [enter_of_not_contains taken, List.map_append, List.map_singleton, ih,
        if_neg fun member => taken (taken_iff.2 member)]

example : (entered (fun name => name) ["weather", "music", "weather"]).entries =
    ["weather", "music"] := by
  decide

/-- Under each name stands the entry of the first attempt with that name. -/
theorem entered_get? (attempts : List α) (id : String) :
    (entered name attempts).get? id = attempts.find? fun entry => name entry = id := by
  rw [(entered_indexed attempts).get?_eq_find?]
  induction attempts using List.reverseRecOn with
  | nil => rfl
  | append_singleton attempts entry ih =>
    rw [entered_concat, List.find?_append, ← ih]
    by_cases taken : (entered name attempts).contains (name entry) = true
    · rw [enter_of_contains taken]
      by_cases same : name entry = id
      · have found : ((entered name attempts).entries.find? fun kept => name kept = id).isSome := by
          rw [(entered_indexed attempts).contains_iff, List.mem_map] at taken
          obtain ⟨kept, member, sameName⟩ := taken
          rw [List.find?_isSome]
          exact ⟨kept, member, decide_eq_true (sameName.trans same)⟩
        rw [Option.or_of_isSome found]
      · simp [same]
    · rw [enter_of_not_contains taken, List.find?_append]

end SkillDispatch.Roster
