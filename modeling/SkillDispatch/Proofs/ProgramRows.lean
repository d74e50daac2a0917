import Mathlib.Data.List.Forall2
import Mathlib.Data.Option.Basic
import SkillDispatch.Alignment
import SkillDispatch.Program.Search

set_option autoImplicit false

/- Rows and frontiers. A row of the search through a program has a fixed number of entries, which are
written one by one; a frontier is merged as a whole. Both keep the same tails. -/
namespace SkillDispatch.Program

open Text

/-- A capture with the index of its slot is one with the name. -/
structure NamesSlot (slots : List String) (capture : Nat × Span) (named : String × Span) : Prop where
  slot : slots[capture.1]? = some named.1
  range : capture.2 = named.2

/-- The tail is a suffix, with the indices of the slots for their names. -/
structure Tail.Names (slots : List String) (tail : Tail) (suffix : Suffix) : Prop where
  gap : tail.gap = suffix.gap
  captures : List.Forall₂ (NamesSlot slots) tail.captures suffix.captures

/-- The narrower of two tails; the first one, if they are equally wide. -/
def Tail.narrower : Option Tail → Option Tail → Option Tail
  | none, second => second
  | some first, none => some first
  | some first, some second => if second.gap < first.gap then some second else some first

@[simp] theorem Tail.narrower_none_right (first : Option Tail) :
    narrower first none = first := by
  cases first <;> rfl

variable {slots : List String} {count : Nat}

theorem Tail.names_map {tail : Option Tail} {suffix : Option Suffix} {step : Tail → Tail}
    {image : Suffix → Suffix} (isNames : Option.Rel (Names slots) tail suffix)
    (each : ∀ tail suffix, Names slots tail suffix → Names slots (step tail) (image suffix)) :
    Option.Rel (Names slots) (tail.map step) (suffix.map image) := by
  cases isNames with
  | none => exact .none
  | some isName => exact .some (each _ _ isName)

/-- Of tails and of the suffixes that they are, the same is kept. -/
theorem Tail.names_narrower {first second : Option Tail} {firstSuffix secondSuffix : Option Suffix}
    (firstNames : Option.Rel (Names slots) first firstSuffix)
    (secondNames : Option.Rel (Names slots) second secondSuffix) :
    Option.Rel (Names slots) (narrower first second)
      (Suffix.narrower firstSuffix secondSuffix) := by
  cases firstNames with
  | none => simpa [narrower] using secondNames
  | some first =>
    cases secondNames with
    | none => exact .some first
    | some second =>
      simp only [narrower, Suffix.narrower, first.gap, second.gap]
      split
      · exact .some second
      · exact .some first

namespace Row

/-- The tail that is kept for a number of literal tokens. -/
def get? (row : Row) (literal : Nat) : Option Tail :=
  row.getD literal none

@[simp] theorem get?_empty (count literal : Nat) : get? (empty count) literal = none := by
  simp only [get?, empty, List.getD_eq_getElem?_getD, List.getElem?_replicate]
  split <;> rfl

@[simp] theorem get?_nil (literal : Nat) : get? [] literal = none := by
  simp [get?]

@[simp] theorem get?_cons_zero (tail : Option Tail) (row : Row) :
    get? (tail :: row) 0 = tail :=
  rfl

@[simp] theorem get?_cons_succ (tail : Option Tail) (row : Row) (literal : Nat) :
    get? (tail :: row) (literal + 1) = get? row literal := by
  simp [get?]

theorem entry_eq {row : Row} {literal : Nat} (inside : literal < row.length) :
    Checked.entry row literal = .ok (row.get? literal) := by
  apply Checked.entry_eq
  rw [get?, List.getD_eq_getElem?_getD, List.getElem?_eq_getElem inside]
  rfl

/-- One row is another one, with one tail offered. -/
structure Offered (row : Row) (literal : Nat) (tail : Tail) (result : Row) : Prop where
  length : result.length = row.length
  here : result.get? literal = Tail.narrower (row.get? literal) (some tail)
  others : ∀ other, other ≠ literal → result.get? other = row.get? other

theorem Offered.unchanged {row : Row} {literal : Nat} {tail : Tail}
    (stays : Tail.narrower (row.get? literal) (some tail) = row.get? literal) :
    Offered row literal tail row :=
  ⟨rfl, stays.symm, fun _ _ => rfl⟩

theorem Offered.replaced {row : Row} {literal : Nat} {tail : Tail} (inside : literal < row.length)
    (wins : Tail.narrower (row.get? literal) (some tail) = some tail) :
    Offered row literal tail (row.set literal (some tail)) where
  length := List.length_set ..
  here := by
    rw [wins, get?, List.getD_eq_getElem?_getD, List.getElem?_set_self inside]
    rfl
  others := by
    intro other apart
    rw [get?, get?, List.getD_eq_getElem?_getD, List.getElem?_set_ne apart.symm,
      ← List.getD_eq_getElem?_getD]

variable {row next : Row}

/-- A tail is offered without a crash, if the row has a place for it. -/
theorem exists_offer {literal : Nat} (inside : literal < row.length) (tail : Tail) :
    ∃ result, row.offer literal tail = .ok result ∧ Offered row literal tail result := by
  rw [offer, entry_eq inside]
  dsimp only [bind, Except.bind]
  cases kept : row.get? literal with
  | none =>
    refine ⟨_, Checked.withEntry_eq inside _, .replaced inside ?_⟩
    rw [kept]
    rfl
  | some current =>
    show ∃ result,
      (if decide (tail.gap < current.gap) then Checked.withEntry row literal (some tail)
        else .ok row) = .ok result ∧ Offered row literal tail result
    by_cases improves : tail.gap < current.gap
    · refine ⟨_, ?_, .replaced inside ?_⟩
      · rw [if_pos (decide_eq_true improves)]
        exact Checked.withEntry_eq inside _
      · rw [kept]
        exact if_pos improves
    · refine ⟨row, ?_, .unchanged ?_⟩
      · exact if_neg (mt of_decide_eq_true improves)
      · rw [kept]
        exact if_neg improves

/-- So is a tail with a step in front of it. -/
theorem exists_offerStep {step : Step} {literal : Nat}
    (inside : step.literal + literal < row.length) (tail : Tail) :
    ∃ result, offerStep step row (literal, tail) = .ok result ∧
      Offered row (step.literal + literal) (step.before tail) result := by
  rw [offerStep, entry_eq inside]
  dsimp only [bind, Except.bind]
  cases kept : row.get? (step.literal + literal) with
  | none => exact exists_offer inside _
  | some current =>
    show ∃ result,
      (if decide (current.gap ≤ step.gap + tail.gap) then .ok row
        else row.offer (step.literal + literal) (step.before tail)) = .ok result ∧
        Offered row (step.literal + literal) (step.before tail) result
    by_cases tooWide : current.gap ≤ step.gap + tail.gap
    · refine ⟨row, ?_, .unchanged ?_⟩
      · exact if_pos (decide_eq_true tooWide)
      · rw [kept]
        exact if_neg (Nat.not_lt_of_le tooWide)
    · rw [if_neg (mt of_decide_eq_true tooWide)]
      exact exists_offer inside _

/-- What a row offers to another one, with a step in front. -/
def offeredAt (next : Row) (step : Step) (literal : Nat) : Option Tail :=
  if literal < step.literal then none else (next.get? (literal - step.literal)).map step.before

/-- The tails of a row from some entry on. -/
def entriesFrom (start : Nat) (row : Row) : List (Nat × Tail) :=
  (row.zipIdx start).filterMap fun (tail, literal) => tail.map fun tail => (literal, tail)

theorem entriesFrom_some (start : Nat) (tail : Tail) (row : Row) :
    entriesFrom start (some tail :: row) = (start, tail) :: entriesFrom (start + 1) row :=
  rfl

/-- The entries of a row go one by one to their places in another row. -/
theorem exists_foldlM_offerStep {step : Step} (start : Nat)
    (inside : ∀ literal tail, get? next literal = some tail →
      step.literal + (start + literal) < row.length) :
    ∃ result, (entriesFrom start next).foldlM (offerStep step) row = .ok result ∧
      result.length = row.length ∧ ∀ literal, result.get? literal =
        if literal < step.literal + start then row.get? literal
        else Tail.narrower (row.get? literal)
          ((get? next (literal - (step.literal + start))).map step.before) := by
  induction next generalizing start row with
  | nil =>
    refine ⟨row, rfl, rfl, ?_⟩
    intro literal
    simp [get?]
  | cons first next ih =>
    have laterInside : ∀ literal tail, get? next literal = some tail →
        step.literal + (start + 1 + literal) < row.length := by
      intro literal tail kept
      have bound := inside (literal + 1) tail kept
      omega
    cases first with
    | none =>
      obtain ⟨result, isResult, length, tails⟩ := ih (start + 1) laterInside
      refine ⟨result, isResult, length, ?_⟩
      intro literal
      rw [tails]
      rcases Nat.lt_trichotomy literal (step.literal + start) with less | same | more
      · rw [if_pos (by omega), if_pos less]
      · rw [if_pos (by omega), if_neg (by omega), same, Nat.sub_self, get?_cons_zero,
          Option.map_none, Tail.narrower_none_right]
      · rw [if_neg (by omega), if_neg (by omega), show literal - (step.literal + start) =
          literal - (step.literal + (start + 1)) + 1 by omega, get?_cons_succ]
    | some tail =>
      have here : step.literal + start < row.length := inside 0 tail rfl
      obtain ⟨between, isBetween, offered⟩ := exists_offerStep here tail
      rw [← offered.length] at laterInside
      obtain ⟨result, isResult, length, tails⟩ := ih (start + 1) laterInside
      refine ⟨result, ?_, length.trans offered.length, ?_⟩
      · rw [entriesFrom_some, List.foldlM_cons, isBetween]
        exact isResult
      · intro literal
        rw [tails]
        rcases Nat.lt_trichotomy literal (step.literal + start) with less | same | more
        · rw [if_pos (by omega), if_pos less, offered.others literal (by omega)]
        · rw [if_pos (by omega), if_neg (by omega), same, Nat.sub_self, get?_cons_zero,
            offered.here]
          rfl
        · rw [if_neg (by omega), if_neg (by omega), show literal - (step.literal + start) =
            literal - (step.literal + (start + 1)) + 1 by omega, get?_cons_succ,
            offered.others literal (by omega)]

/-- A row is extended without a crash, if it has a place for everything that it is offered. -/
theorem exists_extend {step : Step}
    (inside : ∀ literal tail, next.get? literal = some tail →
      step.literal + literal < row.length) :
    ∃ result, row.extend next step = .ok result ∧ result.length = row.length ∧
      ∀ literal, result.get? literal =
        Tail.narrower (row.get? literal) (offeredAt next step literal) := by
  obtain ⟨result, isResult, length, tails⟩ := exists_foldlM_offerStep 0
    (fun literal tail kept => by rw [Nat.zero_add]; exact inside literal tail kept)
  refine ⟨result, isResult, length, ?_⟩
  intro literal
  rw [tails, Nat.add_zero, offeredAt]
  split
  · rw [Tail.narrower_none_right]
  · rfl

/-- A row keeps the tails that a frontier keeps. -/
structure Shows (slots : List String) (count : Nat) (row : Row) (frontier : Frontier) : Prop where
  length : row.length = count + 1
  tails : ∀ literal, Option.Rel (Tail.Names slots) (row.get? literal) (frontier.get? literal)

variable {frontier nextFrontier : Frontier}

theorem Shows.congr {other : Frontier} (shows : row.Shows slots count frontier)
    (same : ∀ literal, other.get? literal = frontier.get? literal) :
    row.Shows slots count other :=
  ⟨shows.length, fun literal => same literal ▸ shows.tails literal⟩

theorem shows_empty (slots : List String) (count : Nat) :
    (empty count).Shows slots count .none := by
  refine ⟨List.length_replicate .., ?_⟩
  intro literal
  rw [get?_empty, Frontier.get?_none]
  exact .none

/-- Extending a row is merging with a frontier that keeps what is offered. -/
theorem Shows.exists_extend (shows : row.Shows slots count frontier)
    (nextShows : next.Shows slots count nextFrontier) {step : Step}
    (inside : ∀ literal suffix, nextFrontier.get? literal = some suffix →
      step.literal + literal ≤ count) {offered : Frontier}
    (offers : ∀ literal,
      Option.Rel (Tail.Names slots) (offeredAt next step literal) (offered.get? literal)) :
    ∃ result, row.extend next step = .ok result ∧
      result.Shows slots count (frontier.merge offered) := by
  obtain ⟨result, isResult, length, tails⟩ : ∃ result, row.extend next step = .ok result ∧
      result.length = row.length ∧ ∀ literal, result.get? literal =
        Tail.narrower (row.get? literal) (offeredAt next step literal) := by
    apply Row.exists_extend
    intro literal tail kept
    have names := nextShows.tails literal
    rw [kept] at names
    obtain ⟨suffix, keeps⟩ : ∃ suffix, nextFrontier.get? literal = some suffix := by
      cases isSuffix : nextFrontier.get? literal with
      | none =>
        rw [isSuffix] at names
        cases names
      | some suffix => exact ⟨suffix, rfl⟩
    have bound := inside literal suffix keeps
    rw [shows.length]
    omega
  refine ⟨result, isResult, length.trans shows.length, ?_⟩
  intro literal
  rw [tails, Frontier.get?_merge]
  exact Tail.names_narrower (shows.tails literal) (offers literal)

/-- A step in front of each tail is offered where the frontier has it in front of each suffix. -/
theorem Shows.offers (nextShows : next.Shows slots count nextFrontier) {step : Step}
    {offered : Frontier} (image : Suffix → Suffix)
    (names : ∀ tail suffix, Tail.Names slots tail suffix →
      Tail.Names slots (step.before tail) (image suffix))
    (isOffered : ∀ literal, offered.get? literal = if literal < step.literal then none
      else (nextFrontier.get? (literal - step.literal)).map image) (literal : Nat) :
    Option.Rel (Tail.Names slots) (offeredAt next step literal) (offered.get? literal) := by
  rw [isOffered, offeredAt]
  split
  · exact .none
  · exact Tail.names_map (nextShows.tails _) names

theorem Shows.offers_nothing (nextShows : next.Shows slots count nextFrontier) (literal : Nat) :
    Option.Rel (Tail.Names slots) (offeredAt next ⟨0, 0, none⟩ literal)
      (nextFrontier.get? literal) := by
  apply nextShows.offers id
  · intro tail suffix names
    exact ⟨(Nat.zero_add _).trans names.gap, names.captures⟩
  · intro literal
    rw [if_neg (Nat.not_lt_zero literal), Option.map_id]
    rfl

theorem Shows.offers_literal (nextShows : next.Shows slots count nextFrontier)
    (width literal : Nat) :
    Option.Rel (Tail.Names slots) (offeredAt next ⟨width, 0, none⟩ literal)
      ((nextFrontier.afterLiteral width).get? literal) := by
  apply nextShows.offers id
  · intro tail suffix names
    exact ⟨(Nat.zero_add _).trans names.gap, names.captures⟩
  · intro literal
    rw [Frontier.get?_afterLiteral, Option.map_id]
    rfl

theorem Shows.offers_gap (nextShows : next.Shows slots count nextFrontier) (width literal : Nat) :
    Option.Rel (Tail.Names slots) (offeredAt next ⟨0, width, none⟩ literal)
      ((nextFrontier.afterGap width).get? literal) := by
  apply nextShows.offers fun suffix => ⟨width + suffix.gap, suffix.captures⟩
  · intro tail suffix names
    exact ⟨congrArg (width + ·) names.gap, names.captures⟩
  · intro literal
    rw [Frontier.get?_afterGap, if_neg (Nat.not_lt_zero literal)]
    rfl

theorem Shows.offers_capture (nextShows : next.Shows slots count nextFrontier) {slot : Nat}
    {name : String} (named : slots[slot]? = some name) (range : Span) (literal : Nat) :
    Option.Rel (Tail.Names slots) (offeredAt next ⟨0, 0, some (slot, range)⟩ literal)
      ((nextFrontier.afterCapture name range).get? literal) := by
  apply nextShows.offers fun suffix => ⟨suffix.gap, (name, range) :: suffix.captures⟩
  · intro tail suffix names
    exact ⟨(Nat.zero_add _).trans names.gap, .cons ⟨named, rfl⟩ names.captures⟩
  · intro literal
    rw [Frontier.get?_afterCapture, if_neg (Nat.not_lt_zero literal)]
    rfl

end Row

end SkillDispatch.Program
