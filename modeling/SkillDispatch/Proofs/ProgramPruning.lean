import SkillDispatch.Proofs.FrontierBounds
import SkillDispatch.Proofs.ProgramLayout
import SkillDispatch.Proofs.Compilation

set_option autoImplicit false

namespace SkillDispatch

def Frontier.Bare (frontier : Frontier) : Prop :=
  ∀ literal, frontier.get? literal = .none

namespace Frontier.Bare

variable {frontier : Frontier}

theorem merge {other : Frontier} (first : frontier.Bare) (second : other.Bare) :
    (frontier.merge other).Bare := by
  intro literal
  rw [get?_merge, first, second]
  rfl

theorem mergeAll {frontiers : List Frontier} (each : ∀ frontier ∈ frontiers, frontier.Bare) :
    (Frontier.mergeAll frontiers).Bare := by
  suffices loop : ∀ initial : Frontier, initial.Bare →
      (frontiers.foldl Frontier.merge initial).Bare from loop .none get?_none
  induction frontiers with
  | nil => exact fun _ initial => initial
  | cons first rest ih =>
    obtain ⟨here, later⟩ := List.forall_mem_cons.1 each
    intro initial bare
    exact ih later _ (bare.merge here)

theorem afterLiteral (bare : frontier.Bare) (width : Nat) : (frontier.afterLiteral width).Bare := by
  intro literal
  rw [get?_afterLiteral, bare]
  split <;> rfl

theorem afterGap (bare : frontier.Bare) (width : Nat) : (frontier.afterGap width).Bare := by
  intro literal
  rw [get?_afterGap, bare]
  rfl

theorem afterCapture (bare : frontier.Bare) (slot : String) (tokens : Text.Span) :
    (frontier.afterCapture slot tokens).Bare := by
  intro literal
  rw [get?_afterCapture, bare]
  rfl

end Frontier.Bare

/-- What is still to be matched comes to, at a position. -/
def Part.frontierAt (tokens : List Token) (parts : List Part) (position : Nat) : Frontier :=
  (Part.solveEach tokens parts (.afterLastPart tokens.length)).frontierAt position

section

variable {tokens : List Token} {position : Nat}

theorem Part.frontierAt_nil (inside : position ≤ tokens.length) :
    Part.frontierAt tokens [] position = .ofSuffix ⟨tokens.length - position, []⟩ := by
  rw [frontierAt, solveEach, Column.afterLastPart, Column.frontierAt_tabulate, if_pos inside]

theorem Part.frontierAt_literal (inside : position ≤ tokens.length) (phrases : List Phrase)
    (rest : List Part) :
    Part.frontierAt tokens (.literal phrases :: rest) position =
      .mergeAll ((phrases.filter (Phrase.standsAt tokens position)).map fun phrase =>
          (Part.frontierAt tokens rest (position + phrase.tokens.length)).afterLiteral
            phrase.tokens.length) := by
  rw [frontierAt, solveEach, solve, Column.beforeLiteral, Column.frontierAt_tabulate,
    if_pos inside]
  rfl

theorem Part.frontierAt_capture (inside : position ≤ tokens.length) (slot : String)
    (rest : List Part) :
    Part.frontierAt tokens (.capture slot :: rest) position =
      .mergeAll ((List.range (tokens.length - position)).map fun more =>
        (Part.frontierAt tokens rest (position + more + 1)).afterCapture slot
          ⟨position, position + more + 1⟩) := by
  rw [frontierAt, solveEach, solve, Column.beforeCapture, Column.frontierAt_tabulate,
    if_pos inside]
  rfl

theorem Part.frontierAt_wildcard (inside : position ≤ tokens.length) (rest : List Part) :
    Part.frontierAt tokens (.wildcard :: rest) position =
      .mergeAll ((List.range (tokens.length - position + 1)).map fun width =>
        (Part.frontierAt tokens rest (position + width)).afterGap width) := by
  rw [frontierAt, solveEach, solve, Column.beforeWildcard, Column.frontierAt_tabulate,
    if_pos inside]
  rfl

theorem Part.frontierAt_optional (inside : position ≤ tokens.length) (body rest : List Part) :
    Part.frontierAt tokens (.optional body :: rest) position =
      (Part.frontierAt tokens (body ++ rest) position).merge
        (Part.frontierAt tokens rest position) := by
  rw [frontierAt, solveEach, solve, Column.frontierAt_tabulate, if_pos inside, frontierAt,
    frontierAt, solveEach_append]

end

theorem Checked.entry_eq_ok_iff {α : Type} (items : List α) (index : Nat) (item : α) :
    Checked.entry items index = .ok item ↔ items[index]? = some item := by
  rw [Checked.entry]
  cases items[index]? <;> simp

/-- The fewest tokens that one of the phrases takes. -/
def Phrase.shortest (phrases : List Phrase) : Nat :=
  (phrases.map fun phrase => phrase.tokens.length).min?.getD 0

theorem Phrase.shortest_le {phrases : List Phrase} {phrase : Phrase} (member : phrase ∈ phrases) :
    Phrase.shortest phrases ≤ phrase.tokens.length :=
  List.min?_getD_le_of_mem (List.mem_map.2 ⟨phrase, member, rfl⟩)

namespace Op

variable {table : List Nat} {pc fewest : Nat}

theorem exists_of_fewest_literal {phrases : List Phrase}
    (isFewest : (Op.literal phrases).fewest table pc = .ok fewest) :
    ∃ later, table[pc + 1]? = some later ∧ fewest = Phrase.shortest phrases + later := by
  simp only [Op.fewest, bind_eq_ok_iff, Checked.entry_eq_ok_iff, pure, Except.pure,
    Except.ok.injEq] at isFewest
  obtain ⟨later, atLater, sum⟩ := isFewest
  exact ⟨later, atLater, sum.symm⟩

theorem exists_of_fewest_capture {slot : Nat}
    (isFewest : (Op.capture slot).fewest table pc = .ok fewest) :
    ∃ later, table[pc + 1]? = some later ∧ fewest = 1 + later := by
  simp only [Op.fewest, bind_eq_ok_iff, Checked.entry_eq_ok_iff, pure, Except.pure,
    Except.ok.injEq] at isFewest
  obtain ⟨later, atLater, sum⟩ := isFewest
  exact ⟨later, atLater, sum.symm⟩

theorem of_fewest_wildcard (isFewest : Op.wildcard.fewest table pc = .ok fewest) :
    table[pc + 1]? = some fewest :=
  (Checked.entry_eq_ok_iff ..).1 isFewest

theorem exists_of_fewest_optional {stop : Nat}
    (isFewest : (Op.optional stop).fewest table pc = .ok fewest) :
    ∃ taken skipped, table[pc + 1]? = some taken ∧ table[stop]? = some skipped ∧
      fewest = min taken skipped := by
  simp only [Op.fewest, bind_eq_ok_iff, Checked.entry_eq_ok_iff, pure, Except.pure,
    Except.ok.injEq] at isFewest
  obtain ⟨taken, atTaken, skipped, atSkipped, least⟩ := isFewest
  exact ⟨taken, skipped, atTaken, atSkipped, least.symm⟩

end Op

variable {ops : List Op} {slots : List String} {table : List Nat} {tokens : List Token}

theorem Op.TabulatesFrom.fewest_of_getElem? (tabulates : Op.TabulatesFrom ops 0 table) {pc : Nat}
    {op : Op} (here : ops[pc]? = some op) {fewest : Nat} (atPc : table[pc]? = some fewest) :
    op.fewest table pc = .ok fewest := by
  obtain ⟨least, isLeast, atLeast⟩ := tabulates.fewest pc op (Nat.zero_le pc) here
  cases atPc.symm.trans atLeast
  exact isLeast

/-- With fewer tokens left than the program takes, nothing is found. -/
theorem Part.Continues.frontierAt_bare {pc : Nat} {parts : List Part}
    (continues : Part.Continues ops slots pc parts) (tabulates : Op.TabulatesFrom ops 0 table)
    {position fewest : Nat} (inside : position ≤ tokens.length) (atPc : table[pc]? = some fewest)
    (few : tokens.length - position < fewest) : (Part.frontierAt tokens parts position).Bare := by
  induction continues generalizing position fewest with
  | done =>
    cases atPc.symm.trans tabulates.last
    exact absurd few (Nat.not_lt_zero _)
  | @literal pc phrases rest here _ ih =>
    obtain ⟨later, atLater, sum⟩ :=
      Op.exists_of_fewest_literal (tabulates.fewest_of_getElem? here atPc)
    rw [Part.frontierAt_literal inside]
    apply Frontier.Bare.mergeAll
    intro frontier member
    obtain ⟨phrase, standing, rfl⟩ := List.mem_map.1 member
    obtain ⟨isPhrase, stands⟩ := List.mem_filter.1 standing
    have stop := Phrase.standsAt_le stands
    have shortest := Phrase.shortest_le isPhrase
    exact (ih stop atLater (by omega)).afterLiteral _
  | capture here _ _ ih =>
    obtain ⟨later, atLater, sum⟩ :=
      Op.exists_of_fewest_capture (tabulates.fewest_of_getElem? here atPc)
    rw [Part.frontierAt_capture inside]
    apply Frontier.Bare.mergeAll
    intro frontier member
    obtain ⟨more, range, rfl⟩ := List.mem_map.1 member
    have stop := List.mem_range.1 range
    exact (ih (by omega) atLater (by omega)).afterCapture _ _
  | wildcard here _ ih =>
    have atLater := Op.of_fewest_wildcard (tabulates.fewest_of_getElem? here atPc)
    rw [Part.frontierAt_wildcard inside]
    apply Frontier.Bare.mergeAll
    intro frontier member
    obtain ⟨width, range, rfl⟩ := List.mem_map.1 member
    have stop := List.mem_range.1 range
    exact (ih (by omega) atLater (by omega)).afterGap _
  | optional here _ _ takenIh skippedIh =>
    obtain ⟨taken, skipped, atTaken, atSkipped, least⟩ :=
      Op.exists_of_fewest_optional (tabulates.fewest_of_getElem? here atPc)
    rw [Part.frontierAt_optional inside]
    exact (takenIh inside atTaken (by omega)).merge (skippedIh inside atSkipped (by omega))

/-- Merging goes on without effect where nothing is kept. -/
theorem Frontier.get?_mergeAll_range {frontier : Nat → Frontier} {few many : Nat}
    (le : few ≤ many) (bare : ∀ index, few ≤ index → index < many → (frontier index).Bare)
    (literal : Nat) :
    (Frontier.mergeAll ((List.range many).map frontier)).get? literal =
      (Frontier.mergeAll ((List.range few).map frontier)).get? literal := by
  induction le with
  | refl => rfl
  | @step many le ih =>
    have here := bare many le (Nat.lt_succ_self many) literal
    rw [← ih fun index above below => bare index above (Nat.lt_succ_of_lt below)]
    rw [List.range_succ, List.map_append, Frontier.mergeAll, List.foldl_append, List.map_singleton,
      List.foldl_cons, List.foldl_nil, get?_merge, here, Suffix.narrower_none_right]
    rfl

end SkillDispatch
