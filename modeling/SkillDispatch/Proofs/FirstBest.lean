import Mathlib

set_option autoImplicit false

/- The first best element of a list. Of elements with equal keys the first one wins, so what comes
out depends on the order of the list; it is determined by what stands before it and after it. -/
namespace SkillDispatch

variable {α β γ : Type} [LinearOrder β] [LinearOrder γ]

/-- What stands before the first best element is worse, and what stands after it not better. -/
theorem argmax_eq_some_split (key : α → β) (items : List α) (best : α) :
    items.argmax key = some best ↔ ∃ before after, items = before ++ best :: after ∧
      (∀ item ∈ before, key item < key best) ∧ ∀ item ∈ after, key item ≤ key best := by
  constructor
  · intro isBest
    induction items with
    | nil => cases isBest
    | cons item rest ih =>
      rw [List.argmax_cons] at isBest
      cases restBest : rest.argmax key with
      | none =>
        rw [restBest] at isBest
        cases isBest
        rw [List.argmax_eq_none] at restBest
        exact ⟨[], [], by rw [restBest, List.nil_append], nofun, nofun⟩
      | some other =>
        rw [restBest] at isBest
        dsimp only at isBest
        split at isBest
        · rename_i improves
          cases isBest
          obtain ⟨before, after, split, worse, noBetter⟩ := ih restBest
          refine ⟨item :: before, after, by rw [split, List.cons_append], ?_, noBetter⟩
          exact List.forall_mem_cons.2 ⟨improves, worse⟩
        · rename_i stays
          cases isBest
          refine ⟨[], rest, rfl, nofun, ?_⟩
          intro other' member
          exact (List.le_of_mem_argmax member restBest).trans (not_lt.1 stays)
  · rintro ⟨before, after, rfl, worse, noBetter⟩
    induction before with
    | nil =>
      rw [List.nil_append, List.argmax_cons]
      cases afterBest : after.argmax key with
      | none => rfl
      | some other => exact if_neg (not_lt.2 (noBetter other (List.argmax_mem afterBest)))
    | cons item before ih =>
      obtain ⟨itemWorse, restWorse⟩ := List.forall_mem_cons.1 worse
      rw [List.cons_append, List.argmax_cons, ih restWorse]
      exact if_pos itemWorse

theorem argmax_map {ι : Type} (items : List ι) (image : ι → α) (key : α → β) :
    (items.map image).argmax key = (items.argmax (key ∘ image)).map image := by
  induction items with
  | nil => rfl
  | cons item rest ih =>
    rw [List.map_cons, List.argmax_cons, List.argmax_cons, ih]
    cases rest.argmax (key ∘ image) with
    | none => rfl
    | some other =>
      simp only [Option.map_some, Function.comp_apply]
      split <;> rfl

/-- The first best of two lists in a row depends on their first best elements only. -/
theorem argmax_append_congr {key : α → β} {first first' second second' : List α}
    (sameFirst : first.argmax key = first'.argmax key)
    (sameSecond : second.argmax key = second'.argmax key) :
    (first ++ second).argmax key = (first' ++ second').argmax key := by
  have replaceFirst : (first ++ second').argmax key = (first' ++ second').argmax key := by
    rw [List.argmax, List.foldl_append]
    rw [List.argmax, List.argmax] at sameFirst
    rw [sameFirst, List.argmax, List.foldl_append]
  rw [← replaceFirst]
  clear sameFirst replaceFirst
  induction first with
  | nil => exact sameSecond
  | cons item rest ih =>
    rw [List.cons_append, List.cons_append, List.argmax_cons, ih, ← List.argmax_cons]

theorem argmax_flatMap_congr {ι : Type} {key : α → β} {indices : List ι} {items items' : ι → List α}
    (same : ∀ index ∈ indices, (items index).argmax key = (items' index).argmax key) :
    (indices.flatMap items).argmax key = (indices.flatMap items').argmax key := by
  induction indices with
  | nil => rfl
  | cons index rest ih =>
    obtain ⟨sameHere, sameRest⟩ := List.forall_mem_cons.1 same
    rw [List.flatMap_cons, List.flatMap_cons]
    exact argmax_append_congr sameHere (ih sameRest)

/-- Keys that order the elements in the same way have the same first best element. -/
theorem argmax_congr_of_le_iff {items : List α} {key : α → β} {other : α → γ}
    (same : ∀ first ∈ items, ∀ second ∈ items,
      key first ≤ key second ↔ other first ≤ other second) :
    items.argmax key = items.argmax other := by
  cases isBest : items.argmax key with
  | none =>
    rw [List.argmax_eq_none.1 isBest]
    rfl
  | some best =>
    obtain ⟨before, after, rfl, worse, noBetter⟩ := (argmax_eq_some_split ..).1 isBest
    have bestMember : best ∈ before ++ best :: after := by simp
    refine ((argmax_eq_some_split ..).2 ⟨before, after, rfl, ?_, ?_⟩).symm
    · intro item member
      have itemMember := List.mem_append_left (best :: after) member
      apply lt_of_not_ge
      intro better
      exact not_le_of_gt (worse item member) ((same best bestMember item itemMember).2 better)
    · intro item member
      have itemMember := List.mem_append_right before (List.mem_cons_of_mem best member)
      exact (same item itemMember best bestMember).1 (noBetter item member)

theorem argmin_eq_argmax_of_le_iff {items : List α} {key : α → β} {other : α → γ}
    (same : ∀ first ∈ items, ∀ second ∈ items,
      key first ≤ key second ↔ other second ≤ other first) :
    items.argmin other = items.argmax key := by
  have dual : items.argmin other = items.argmax (OrderDual.toDual ∘ other) := rfl
  rw [dual]
  exact (argmax_congr_of_le_iff same).symm

/-- The first best element of a list is also that of the elements which satisfy a condition, if it
does so itself. -/
theorem argmax_filter {items : List α} {key : α → β} {best : α}
    (isBest : items.argmax key = some best) (condition : α → Bool)
    (holds : condition best = true) : (items.filter condition).argmax key = some best := by
  obtain ⟨before, after, rfl, worse, noBetter⟩ := (argmax_eq_some_split ..).1 isBest
  rw [List.filter_append, List.filter_cons_of_pos holds]
  refine (argmax_eq_some_split ..).2 ⟨_, _, rfl, ?_, ?_⟩
  · intro item member
    exact worse item (List.mem_of_mem_filter member)
  · intro item member
    exact noBetter item (List.mem_of_mem_filter member)

theorem argmin_filter {items : List α} {key : α → β} {best : α}
    (isBest : items.argmin key = some best) (condition : α → Bool)
    (holds : condition best = true) : (items.filter condition).argmin key = some best := by
  have dual : items.argmax (OrderDual.toDual ∘ key) = some best := isBest
  exact argmax_filter dual condition holds

/-- The first best of the elements that satisfy a condition, in the list that they come from. -/
theorem exists_split_of_argmax_filter {items : List α} {key : α → β} {condition : α → Bool}
    {best : α} (isBest : (items.filter condition).argmax key = some best) :
    ∃ before after, items = before ++ best :: after ∧ condition best = true ∧
      ∀ item ∈ before, condition item = true → key item < key best := by
  obtain ⟨worse, rest, split, below, -⟩ := (argmax_eq_some_split ..).1 isBest
  obtain ⟨front, back, rfl, rfl, backSplit⟩ := List.filter_eq_append_iff.1 split
  obtain ⟨skipped, after, rfl, noneHolds, holds, -⟩ := List.filter_eq_cons_iff.1 backSplit
  refine ⟨front ++ skipped, after, by rw [List.append_assoc], holds, ?_⟩
  intro item member satisfied
  rcases List.mem_append.1 member with inFront | inSkipped
  · exact below item (List.mem_filter.2 ⟨inFront, satisfied⟩)
  · exact absurd satisfied (noneHolds item inSkipped)

/-- An element of lists in a row stands in one of them, with all of those before it in front. -/
theorem exists_index_of_flatMap_eq {ι : Type} {indices : List ι} {items : ι → List α}
    {before after : List α} {item : α} (split : indices.flatMap items = before ++ item :: after) :
    ∃ earlier index later front back, indices = earlier ++ index :: later ∧
      items index = front ++ item :: back ∧ before = earlier.flatMap items ++ front := by
  induction indices generalizing before with
  | nil => simp at split
  | cons index rest ih =>
    rw [List.flatMap_cons] at split
    rcases List.append_eq_append_iff.1 split with ⟨more, rfl, inRest⟩ | ⟨here, isItems, inItems⟩
    · obtain ⟨earlier, later, others, front, back, rfl, atIndex, rfl⟩ := ih inRest
      exact ⟨index :: earlier, later, others, front, back, rfl, atIndex, by simp⟩
    · cases here with
      | nil =>
        have atOnce : rest.flatMap items = [] ++ item :: after := inItems.symm
        obtain ⟨earlier, later, others, front, back, rfl, atIndex, nothing⟩ := ih atOnce
        refine ⟨index :: earlier, later, others, front, back, rfl, atIndex, ?_⟩
        rw [List.flatMap_cons, List.append_assoc, ← nothing, isItems]
        simp
      | cons other back =>
        obtain ⟨rfl, -⟩ := List.cons.inj inItems
        exact ⟨[], index, rest, before, back, rfl, isItems, by simp⟩

/-- The first best element of lists in a row comes from one of them, and those before it hold only
worse elements. -/
theorem exists_index_of_argmax_flatMap {ι : Type} {key : α → β} {indices : List ι}
    {items : ι → List α} {best : α} (isBest : (indices.flatMap items).argmax key = some best) :
    ∃ earlier index later, indices = earlier ++ index :: later ∧ best ∈ items index ∧
      ∀ other ∈ earlier, ∀ item ∈ items other, key item < key best := by
  obtain ⟨before, after, split, worse, -⟩ := (argmax_eq_some_split ..).1 isBest
  obtain ⟨earlier, index, later, front, back, indicesSplit, atIndex, rfl⟩ :=
    exists_index_of_flatMap_eq split
  refine ⟨earlier, index, later, indicesSplit, by simp [atIndex], ?_⟩
  intro other member item inItems
  exact worse item (List.mem_append_left _ (List.mem_flatMap.2 ⟨other, member, inItems⟩))

theorem argmin_cons_eq_or_lt {key : α → β} {first least : α} {rest : List α}
    (isLeast : (first :: rest).argmin key = some least) :
    least = first ∨ key least < key first := by
  have dual : (first :: rest).argmax (OrderDual.toDual ∘ key) = some least := isLeast
  obtain ⟨before, after, split, worse, -⟩ := (argmax_eq_some_split ..).1 dual
  cases before with
  | nil => exact Or.inl (List.cons.inj split).1.symm
  | cons item before =>
    obtain ⟨rfl, -⟩ := List.cons.inj split
    exact Or.inr (worse first List.mem_cons_self)

/-- Of the elements that satisfy a condition, the first of the least in the first list that has any
comes from the same list as the first of all. -/
theorem exists_find?_of_argmin_findSome? {ι : Type} {key : α → β} {condition : α → Bool}
    {indices : List ι} {items : ι → List α} {least : α}
    (isLeast : indices.findSome? (fun index => ((items index).filter condition).argmin key) =
      some least) :
    ∃ first, (indices.flatMap items).find? condition = some first ∧
      ∃ index ∈ indices, first ∈ items index ∧ least ∈ items index ∧
        (least = first ∨ key least < key first) := by
  induction indices with
  | nil => cases isLeast
  | cons index rest ih =>
    rw [List.findSome?_cons] at isLeast
    rw [List.flatMap_cons, List.find?_append, ← List.head?_filter]
    cases satisfying : (items index).filter condition with
    | nil =>
      rw [satisfying] at isLeast
      obtain ⟨first, isFirst, other, inRest, found⟩ := ih isLeast
      exact ⟨first, isFirst, other, List.mem_cons_of_mem index inRest, found⟩
    | cons first others =>
      rw [satisfying] at isLeast
      have member : ∀ item ∈ first :: others, item ∈ items index := by
        intro item satisfies
        rw [← satisfying] at satisfies
        exact List.mem_of_mem_filter satisfies
      cases isMinimum : (first :: others).argmin key with
      | none => cases List.argmin_eq_none.1 isMinimum
      | some minimum =>
        rw [isMinimum] at isLeast
        cases isLeast
        exact ⟨first, rfl, index, List.mem_cons_self, member first List.mem_cons_self,
          member least (List.argmin_mem isMinimum), argmin_cons_eq_or_lt isMinimum⟩

/-- An element that is better than all others wins, wherever it stands. -/
theorem argmax_eq_some_of_lt {items : List α} {key : α → β} {best : α} (member : best ∈ items)
    (better : ∀ item ∈ items, item ≠ best → key item < key best) :
    items.argmax key = some best := by
  cases isBest : items.argmax key with
  | none =>
    rw [List.argmax_eq_none.1 isBest] at member
    cases member
  | some other =>
    congr 1
    by_contra apart
    have below := better other (List.argmax_mem isBest) apart
    exact not_le_of_gt below (List.le_of_mem_argmax member isBest)

end SkillDispatch
