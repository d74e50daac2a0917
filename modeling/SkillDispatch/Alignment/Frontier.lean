import SkillDispatch.Text.Span

set_option autoImplicit false

/- Frontiers: the best ways to align the rest of a pattern with the rest of the tokens. Of the ways
that match equally many literal tokens only one is kept: the one with the narrowest gap, and of
those the one that was found first. -/
namespace SkillDispatch

open Text

/-- The captures and the gap of an alignment of the rest of a pattern. -/
structure Suffix where
  /-- Tokens under wildcards or after the last part. -/
  gap : Nat
  /-- The slots with the tokens that they take, from left to right. -/
  captures : List (String × Span)
  deriving DecidableEq

/-- The narrower of two suffixes; the first one, if they are equally wide. -/
def Suffix.narrower : Option Suffix → Option Suffix → Option Suffix
  | none, second => second
  | some first, none => some first
  | some first, some second => if second.gap < first.gap then some second else some first

@[simp] theorem Suffix.narrower_none_left (second : Option Suffix) :
    narrower none second = second := by
  cases second <;> rfl

@[simp] theorem Suffix.narrower_none_right (first : Option Suffix) :
    narrower first none = first := by
  cases first <;> rfl

/-- Of three suffixes the same one is kept, however they are grouped. -/
theorem Suffix.narrower_assoc (first second third : Option Suffix) :
    narrower (narrower first second) third = narrower first (narrower second third) := by
  cases first with
  | none => simp
  | some first =>
    cases second with
    | none => simp
    | some second =>
      cases third with
      | none => simp
      | some third =>
        by_cases firstGap : second.gap < first.gap <;> by_cases secondGap : third.gap < second.gap
        · have apart : third.gap < first.gap := by omega
          simp [narrower, firstGap, secondGap, apart]
        · simp [narrower, firstGap, secondGap]
        · simp [narrower, firstGap, secondGap]
        · have apart : ¬third.gap < first.gap := by omega
          simp [narrower, firstGap, secondGap, apart]

/-- The kept suffix for each number of literal tokens, from zero on. -/
abbrev Frontier := List (Option Suffix)

namespace Frontier

def none : Frontier := []

def ofSuffix (suffix : Suffix) : Frontier := [some suffix]

/-- The kept suffix for a number of literal tokens. -/
def get? (frontier : Frontier) (literal : Nat) : Option Suffix :=
  frontier.getD literal .none

/-- The alignments of both frontiers, those of the first one found first. -/
def merge : Frontier → Frontier → Frontier
  | [], second => second
  | first, [] => first
  | kept :: first, offered :: second => Suffix.narrower kept offered :: merge first second

@[simp] theorem get?_none (literal : Nat) : get? none literal = .none := by
  simp [get?, none]

@[simp] theorem get?_merge (first second : Frontier) (literal : Nat) :
    (first.merge second).get? literal =
      Suffix.narrower (first.get? literal) (second.get? literal) := by
  induction first generalizing second literal with
  | nil => simp [merge, get?]
  | cons kept first ih =>
    cases second with
    | nil => simp [merge, get?]
    | cons offered second =>
      cases literal with
      | zero => simp [merge, get?]
      | succ literal => simpa [merge, get?] using ih second literal

def mergeAll (frontiers : List Frontier) : Frontier :=
  frontiers.foldl merge none

def afterLiteral (count : Nat) (frontier : Frontier) : Frontier :=
  List.replicate count .none ++ frontier

def afterGap (count : Nat) (frontier : Frontier) : Frontier :=
  frontier.map fun kept => kept.map fun suffix => ⟨count + suffix.gap, suffix.captures⟩

def afterCapture (slot : String) (tokens : Span) (frontier : Frontier) : Frontier :=
  frontier.map fun kept => kept.map fun suffix => ⟨suffix.gap, (slot, tokens) :: suffix.captures⟩

theorem get?_afterLiteral (count : Nat) (frontier : Frontier) (literal : Nat) :
    (frontier.afterLiteral count).get? literal =
      if literal < count then .none else frontier.get? (literal - count) := by
  simp only [get?, afterLiteral, List.getD_eq_getElem?_getD, List.getElem?_append,
    List.length_replicate, List.getElem?_replicate]
  split <;> rfl

theorem get?_afterGap (count : Nat) (frontier : Frontier) (literal : Nat) :
    (frontier.afterGap count).get? literal =
      (frontier.get? literal).map fun suffix => ⟨count + suffix.gap, suffix.captures⟩ := by
  simp only [get?, afterGap, List.getD_eq_getElem?_getD, List.getElem?_map]
  cases frontier[literal]? <;> rfl

theorem get?_afterCapture (slot : String) (tokens : Span) (frontier : Frontier) (literal : Nat) :
    (frontier.afterCapture slot tokens).get? literal =
      (frontier.get? literal).map fun suffix =>
        ⟨suffix.gap, (slot, tokens) :: suffix.captures⟩ := by
  simp only [get?, afterCapture, List.getD_eq_getElem?_getD, List.getElem?_map]
  cases frontier[literal]? <;> rfl

end Frontier

/-- A frontier for each position among the tokens, the one after the last token included. -/
structure Column where
  frontiers : Array Frontier

namespace Column

/-- The frontier at a position; beyond the tokens nothing aligns. -/
def frontierAt (column : Column) (position : Nat) : Frontier :=
  column.frontiers.getD position .none

def tabulate (count : Nat) (frontier : Nat → Frontier) : Column :=
  ⟨Array.ofFn fun position : Fin (count + 1) => frontier position⟩

theorem frontierAt_tabulate (count : Nat) (frontier : Nat → Frontier) (position : Nat) :
    (tabulate count frontier).frontierAt position =
      if position ≤ count then frontier position else .none := by
  simp only [frontierAt, tabulate, Array.getD_eq_getD_getElem?, Array.getElem?_ofFn]
  split
  · rw [if_pos (by omega)]
    rfl
  · rw [if_neg (by omega)]
    rfl

end Column

end SkillDispatch
