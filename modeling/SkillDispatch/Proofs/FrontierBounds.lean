import SkillDispatch.Alignment

set_option autoImplicit false

namespace SkillDispatch

open Text

/-- The suffixes fit into the tokens from a position on, and no capture is empty. -/
def Frontier.Within (count position : Nat) (frontier : Frontier) : Prop :=
  ∀ literal suffix, frontier.get? literal = some suffix →
    literal + suffix.gap ≤ count - position ∧
      ∀ capture ∈ suffix.captures, capture.2.start < capture.2.stop ∧ capture.2.stop ≤ count

theorem Suffix.narrower_eq_some {first second : Option Suffix} {kept : Suffix}
    (isKept : narrower first second = some kept) : first = some kept ∨ second = some kept := by
  cases first with
  | none =>
    rw [narrower_none_left] at isKept
    exact Or.inr isKept
  | some current =>
    cases second with
    | none => exact Or.inl isKept
    | some offered =>
      rw [narrower] at isKept
      split at isKept
      · exact Or.inr isKept
      · exact Or.inl isKept

namespace Frontier.Within

variable {count position : Nat} {frontier : Frontier}

theorem none (count position : Nat) : Frontier.none.Within count position := by
  intro literal suffix isSuffix
  rw [get?_none] at isSuffix
  cases isSuffix

theorem merge {other : Frontier} (first : frontier.Within count position)
    (second : other.Within count position) : (frontier.merge other).Within count position := by
  intro literal suffix isSuffix
  rw [get?_merge] at isSuffix
  rcases Suffix.narrower_eq_some isSuffix with inFirst | inSecond
  · exact first literal suffix inFirst
  · exact second literal suffix inSecond

theorem mergeAll {frontiers : List Frontier}
    (each : ∀ frontier ∈ frontiers, frontier.Within count position) :
    (Frontier.mergeAll frontiers).Within count position := by
  suffices loop : ∀ initial : Frontier, initial.Within count position →
      (frontiers.foldl Frontier.merge initial).Within count position from
    loop .none (none count position)
  induction frontiers with
  | nil => exact fun _ initial => initial
  | cons first rest ih =>
    obtain ⟨here, later⟩ := List.forall_mem_cons.1 each
    intro initial within
    exact ih later _ (within.merge here)

theorem afterLiteral {width : Nat} (within : frontier.Within count (position + width))
    (inside : position + width ≤ count) :
    (frontier.afterLiteral width).Within count position := by
  intro literal suffix isSuffix
  rw [get?_afterLiteral] at isSuffix
  split at isSuffix
  · cases isSuffix
  · obtain ⟨fits, captures⟩ := within _ suffix isSuffix
    exact ⟨by omega, captures⟩

theorem afterGap {width : Nat} (within : frontier.Within count (position + width))
    (inside : position + width ≤ count) : (frontier.afterGap width).Within count position := by
  intro literal suffix isSuffix
  rw [get?_afterGap, Option.map_eq_some_iff] at isSuffix
  obtain ⟨narrow, isNarrow, rfl⟩ := isSuffix
  obtain ⟨fits, captures⟩ := within _ narrow isNarrow
  exact ⟨by dsimp only; omega, captures⟩

theorem afterCapture {stop : Nat} (within : frontier.Within count stop) (some : position < stop)
    (inside : stop ≤ count) (slot : String) :
    (frontier.afterCapture slot ⟨position, stop⟩).Within count position := by
  intro literal suffix isSuffix
  rw [get?_afterCapture, Option.map_eq_some_iff] at isSuffix
  obtain ⟨later, isLater, rfl⟩ := isSuffix
  obtain ⟨fits, captures⟩ := within _ later isLater
  refine ⟨by dsimp only; omega, ?_⟩
  exact List.forall_mem_cons.2 ⟨⟨some, inside⟩, captures⟩

end Frontier.Within

def Column.Within (count : Nat) (column : Column) : Prop :=
  ∀ position ≤ count, (column.frontierAt position).Within count position

theorem Column.Within.tabulate {count : Nat} {frontier : Nat → Frontier}
    (each : ∀ position ≤ count, (frontier position).Within count position) :
    (Column.tabulate count frontier).Within count := by
  intro position inside
  rw [frontierAt_tabulate, if_pos inside]
  exact each position inside

theorem Column.within_afterLastPart (count : Nat) : (Column.afterLastPart count).Within count := by
  apply Column.Within.tabulate
  intro position _ literal suffix isSuffix
  cases literal with
  | zero =>
    cases isSuffix
    exact ⟨Nat.le_of_eq (Nat.zero_add _), nofun⟩
  | succ literal =>
    simp [Frontier.get?, Frontier.ofSuffix] at isSuffix

namespace Phrase

variable {tokens : List Token} {position : Nat}

/-- A phrase that stands at a position ends within the tokens. -/
theorem standsAt_le {phrase : Phrase} (stands : phrase.standsAt tokens position = true) :
    position + phrase.tokens.length ≤ tokens.length := by
  rw [standsAt, Bool.and_eq_true] at stands
  exact of_decide_eq_true stands.1

theorem all_zip_eq_isPrefixOf (tokens : List Token) (words : List String) :
    (decide (words.length ≤ tokens.length) &&
      ((tokens.take words.length).zip words).all fun (token, word) => token.value == word) =
        words.isPrefixOf (tokens.map Token.value) := by
  induction words generalizing tokens with
  | nil => simp
  | cons word words ih =>
    cases tokens with
    | nil => simp
    | cons token tokens =>
      rw [List.map_cons, List.isPrefixOf_cons_cons, ← ih tokens]
      simp only [List.length_cons, Nat.add_le_add_iff_right, List.take_succ_cons,
        List.zip_cons_cons, List.all_cons]
      rw [Bool.and_left_comm, BEq.comm]

/-- Among the tokens a phrase stands where it begins what their folded forms go on with. -/
theorem standsAt_eq_isPrefixOf (inside : position ≤ tokens.length) (phrase : Phrase) :
    phrase.standsAt tokens position =
      phrase.tokens.isPrefixOf ((tokens.map Token.value).drop position) := by
  have room : position + phrase.tokens.length ≤ tokens.length ↔
      phrase.tokens.length ≤ (tokens.drop position).length := by
    rw [List.length_drop]
    omega
  rw [← List.map_drop, ← all_zip_eq_isPrefixOf, standsAt]
  simp only [room]

end Phrase

variable {tokens : List Token} {next : Column}

namespace Column.Within

theorem beforeLiteral (within : next.Within tokens.length) (phrases : List Phrase) :
    (next.beforeLiteral tokens phrases).Within tokens.length := by
  apply tabulate
  intro position inside
  apply Frontier.Within.mergeAll
  intro frontier member
  obtain ⟨phrase, standing, rfl⟩ := List.mem_map.1 member
  have stop := Phrase.standsAt_le (List.mem_filter.1 standing).2
  exact (within _ stop).afterLiteral stop

theorem beforeCapture (within : next.Within tokens.length) (slot : String) :
    (next.beforeCapture tokens.length slot).Within tokens.length := by
  apply tabulate
  intro position _
  apply Frontier.Within.mergeAll
  intro frontier member
  obtain ⟨more, inRange, rfl⟩ := List.mem_map.1 member
  have stop := List.mem_range.1 inRange
  exact (within _ (by omega)).afterCapture (by omega) (by omega) slot

theorem beforeWildcard (within : next.Within tokens.length) :
    (next.beforeWildcard tokens.length).Within tokens.length := by
  apply tabulate
  intro position _
  apply Frontier.Within.mergeAll
  intro frontier member
  obtain ⟨width, inRange, rfl⟩ := List.mem_map.1 member
  have stop := List.mem_range.1 inRange
  exact (within _ (by omega)).afterGap (by omega)

end Column.Within

theorem Part.solveEach_within (parts : List Part) {next : Column}
    (within : next.Within tokens.length) :
    (Part.solveEach tokens parts next).Within tokens.length := by
  match parts with
  | [] =>
    rw [Part.solveEach]
    exact within
  | .literal phrases :: rest =>
    rw [Part.solveEach, Part.solve]
    exact (Part.solveEach_within rest within).beforeLiteral phrases
  | .capture slot :: rest =>
    rw [Part.solveEach, Part.solve]
    exact (Part.solveEach_within rest within).beforeCapture slot
  | .wildcard :: rest =>
    rw [Part.solveEach, Part.solve]
    exact (Part.solveEach_within rest within).beforeWildcard
  | .optional body :: rest =>
    have skipped := Part.solveEach_within rest within
    have taken := Part.solveEach_within body skipped
    rw [Part.solveEach, Part.solve]
    apply Column.Within.tabulate
    intro position inside
    exact (taken position inside).merge (skipped position inside)
termination_by sizeOf parts

/-- Parts in a row are solved from the last one to the first. -/
theorem Part.solveEach_append (tokens : List Token) (first second : List Part) (next : Column) :
    Part.solveEach tokens (first ++ second) next =
      Part.solveEach tokens first (Part.solveEach tokens second next) := by
  induction first with
  | nil => rw [List.nil_append, Part.solveEach]
  | cons part rest ih => rw [List.cons_append, Part.solveEach, Part.solveEach, ih]

end SkillDispatch
