import SkillDispatch.Proofs.FirstBest

set_option autoImplicit false

namespace SkillDispatch

variable {α β γ : Type}

/-- The first element that satisfies a condition is the same in both lists, for every condition. -/
def SameFirsts (items others : List α) : Prop :=
  ∀ condition : α → Bool, items.find? condition = others.find? condition

namespace SameFirsts

variable {items others : List α}

theorem refl (items : List α) : SameFirsts items items := fun _ => rfl

theorem mem_iff (same : SameFirsts items others) (item : α) : item ∈ items ↔ item ∈ others := by
  classical
  have found : ∀ list : List α, item ∈ list ↔ (list.find? fun other => other = item).isSome := by
    intro list
    simp [List.find?_isSome]
  rw [found, found, same]

theorem append {more rest : List α} (first : SameFirsts items others)
    (second : SameFirsts more rest) : SameFirsts (items ++ more) (others ++ rest) := by
  intro condition
  rw [List.find?_append, List.find?_append, first, second]

theorem append_left (items : List α) {repeated : List α} (subset : repeated ⊆ items) :
    SameFirsts (items ++ repeated) items := by
  intro condition
  rw [List.find?_append]
  cases found : items.find? condition with
  | some item => rfl
  | none =>
    rw [Option.none_or, List.find?_eq_none]
    intro item member
    exact List.find?_eq_none.1 found item (subset member)

theorem flatMap (same : SameFirsts items others) (image : α → List β) :
    SameFirsts (items.flatMap image) (others.flatMap image) := by
  intro condition
  have bound : ∀ list : List α, (list.flatMap image).find? condition =
      (list.find? fun item => ((image item).find? condition).isSome).bind
        fun item => (image item).find? condition := by
    intro list
    rw [List.find?_flatMap]
    induction list with
    | nil => rfl
    | cons item rest ih =>
      rw [List.findSome?_cons, List.find?_cons]
      cases found : (image item).find? condition with
      | some result => simp [found]
      | none => simpa using ih
  rw [bound, bound, same]

theorem flatMap_congr {image other : α → List β}
    (same : ∀ item ∈ items, SameFirsts (image item) (other item)) :
    SameFirsts (items.flatMap image) (items.flatMap other) := by
  intro condition
  induction items with
  | nil => rfl
  | cons item rest ih =>
    obtain ⟨here, later⟩ := List.forall_mem_cons.1 same
    rw [List.flatMap_cons, List.flatMap_cons, List.find?_append, List.find?_append, here, ih later]

theorem map (same : SameFirsts items others) (image : α → β) :
    SameFirsts (items.map image) (others.map image) := by
  rw [List.map_eq_flatMap, List.map_eq_flatMap]
  exact same.flatMap _

theorem of_forall_eq {item : α} (some : items ≠ []) (same : ∀ other ∈ items, other = item) :
    SameFirsts items [item] := by
  cases items with
  | nil => exact absurd rfl some
  | cons first rest =>
    obtain ⟨here, later⟩ := List.forall_mem_cons.1 same
    subst here
    apply append_left [first]
    intro other member
    exact List.mem_singleton.2 (later other member)

theorem filter (same : SameFirsts items others) (condition : α → Bool) :
    SameFirsts (items.filter condition) (others.filter condition) := by
  intro further
  rw [List.find?_filter, List.find?_filter, same]

end SameFirsts

/-- The first best element is the first one that no element exceeds. -/
theorem argmax_eq_find? [LinearOrder γ] (items : List α) (key : α → γ) :
    items.argmax key = items.find? fun item => ∀ other ∈ items, key other ≤ key item := by
  cases isBest : items.argmax key with
  | none =>
    rw [List.argmax_eq_none.1 isBest]
    rfl
  | some best =>
    have highest : ∀ other ∈ items, key other ≤ key best := by
      intro other member
      exact List.le_of_mem_argmax member isBest
    obtain ⟨before, after, rfl, worse, -⟩ := (argmax_eq_some_split ..).1 isBest
    symm
    rw [List.find?_eq_some_iff_append]
    refine ⟨decide_eq_true highest, before, after, rfl, ?_⟩
    intro item member
    rw [Bool.not_eq_true', decide_eq_false_iff_not]
    intro itemHighest
    exact not_le_of_gt (worse item member) (itemHighest best (by simp))

theorem SameFirsts.argmax [LinearOrder γ] {items others : List α} (same : SameFirsts items others)
    (key : α → γ) : items.argmax key = others.argmax key := by
  rw [argmax_eq_find?, argmax_eq_find?, same]
  congr 1
  funext item
  rw [decide_eq_decide]
  apply forall_congr'
  intro other
  rw [same.mem_iff other]

end SkillDispatch
