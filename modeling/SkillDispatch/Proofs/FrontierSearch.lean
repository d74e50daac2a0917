import Mathlib.Data.List.MinMax
import SkillDispatch.Proofs.Compilation
import SkillDispatch.Proofs.FrontierBounds
import SkillDispatch.Proofs.Laying

set_option autoImplicit false

/- What the frontiers of the search hold. The exhaustive search lists all ways to align the rest of
a definition with the rest of the tokens; a frontier keeps one of them for each number of literal
tokens, the first of the narrowest. Every step of the frontier search keeps this relation. -/
namespace SkillDispatch

open Text

/-- The gap and the captures of an alignment of the rest. -/
def Alignment.suffix (way : Alignment) : Suffix := ⟨way.gap, way.captures⟩

/-- An alignment of the rest, with a laying in front of it. -/
def Laying.before (first : Laying) (way : Alignment) : Alignment :=
  ⟨first.literal + way.literal, first.gap + way.gap, first.captures ++ way.captures⟩

@[simp] theorem Laying.empty_before (start : Nat) (way : Alignment) :
    (Laying.empty start).before way = way := by
  simp [Laying.empty, Laying.before]

theorem Laying.followedBy_before (first second : Laying) (way : Alignment) :
    (first.followedBy second).before way = first.before (second.before way) := by
  simp [Laying.followedBy, Laying.before, Nat.add_assoc]

/-- The ways to align elements and what follows them from `start` on, in the order of the search. -/
def Element.ways (tokens : List String) (elements : List Element) (next : Nat → List Alignment)
    (start : Nat) : List Alignment :=
  (Element.layingsEach tokens elements start).flatMap fun laying =>
    (next laying.stop).map laying.before

@[simp] theorem Element.ways_nil (tokens : List String) (next : Nat → List Alignment)
    (start : Nat) : Element.ways tokens [] next start = next start := by
  have unchanged : (Laying.empty start).before = id := funext (Laying.empty_before start)
  rw [Element.ways, Element.layingsEach, List.flatMap_singleton, unchanged, List.map_id]
  rfl

theorem Element.ways_cons (tokens : List String) (element : Element) (rest : List Element)
    (next : Nat → List Alignment) (start : Nat) :
    Element.ways tokens (element :: rest) next start =
      (element.layings tokens start).flatMap fun first =>
        (Element.ways tokens rest next first.stop).map first.before := by
  simp only [Element.ways, Element.layingsEach, List.flatMap_assoc, List.flatMap_map,
    List.map_flatMap, List.map_map, Function.comp_def, ← Laying.followedBy_before]
  rfl

/-- The first of the narrowest among the ways with a number of literal tokens. -/
def Suffix.narrowest (literal : Nat) (ways : List Alignment) : Option Suffix :=
  ((ways.filter (·.literal = literal)).argmin Alignment.gap).map Alignment.suffix

theorem Suffix.map_argmin_cons (way : Alignment) (ways : List Alignment) :
    ((way :: ways).argmin Alignment.gap).map Alignment.suffix =
      narrower (some way.suffix) ((ways.argmin Alignment.gap).map Alignment.suffix) := by
  rw [List.argmin_cons]
  cases ways.argmin Alignment.gap with
  | none => rfl
  | some other =>
    simp only [Option.map_some, narrower, Alignment.suffix]
    split <;> rfl

/-- Of two lists of ways the narrower of what each keeps is kept. -/
theorem Suffix.narrowest_append (literal : Nat) (first second : List Alignment) :
    narrowest literal (first ++ second) =
      narrower (narrowest literal first) (narrowest literal second) := by
  simp only [narrowest, List.filter_append]
  induction first.filter (·.literal = literal) with
  | nil => simp
  | cons way rest ih => rw [List.cons_append, map_argmin_cons, map_argmin_cons, ih, narrower_assoc]

theorem Laying.argmin_map_before (first : Laying) (ways : List Alignment) :
    (ways.map first.before).argmin Alignment.gap =
      (ways.argmin Alignment.gap).map first.before := by
  induction ways with
  | nil => rfl
  | cons way rest ih =>
    rw [List.map_cons, List.argmin_cons, List.argmin_cons, ih]
    cases rest.argmin Alignment.gap with
    | none => rfl
    | some other =>
      simp only [Option.map_some, Laying.before, Nat.add_lt_add_iff_left]
      split <;> rfl

theorem Suffix.narrowest_map_before (first : Laying) (literal : Nat) (ways : List Alignment) :
    narrowest literal (ways.map first.before) =
      if literal < first.literal then none
      else (narrowest (literal - first.literal) ways).map fun suffix =>
        ⟨first.gap + suffix.gap, first.captures ++ suffix.captures⟩ := by
  rw [narrowest, List.filter_map, Laying.argmin_map_before]
  split
  · rename_i few
    have nothing : ways.filter ((fun way : Alignment => decide (way.literal = literal)) ∘
        first.before) = [] := by
      apply List.filter_eq_nil_iff.2
      intro way _
      show ¬decide (first.literal + way.literal = literal) = true
      rw [decide_eq_true_iff]
      omega
    rw [nothing]
    rfl
  · rename_i enough
    have same : (fun way : Alignment => decide (way.literal = literal)) ∘ first.before =
        fun way => decide (way.literal = literal - first.literal) := by
      funext way
      show decide (first.literal + way.literal = literal) = _
      rw [decide_eq_decide]
      omega
    rw [same, narrowest, Option.map_map, Option.map_map]
    rfl

namespace Frontier

/-- A frontier holds, for each number of literal tokens, the first of the narrowest ways. -/
def Holds (frontier : Frontier) (ways : List Alignment) : Prop :=
  ∀ literal, frontier.get? literal = Suffix.narrowest literal ways

theorem Holds.none : Holds none [] := by
  intro literal
  rw [get?_none]
  rfl

theorem Holds.ofSuffix (suffix : Suffix) :
    (ofSuffix suffix).Holds [⟨0, suffix.gap, suffix.captures⟩] := by
  intro literal
  cases literal with
  | zero => rfl
  | succ literal => rfl

theorem Holds.merge {first second : Frontier} {ways others : List Alignment}
    (firstHolds : first.Holds ways) (secondHolds : second.Holds others) :
    (first.merge second).Holds (ways ++ others) := by
  intro literal
  rw [get?_merge, firstHolds literal, secondHolds literal, Suffix.narrowest_append]

theorem Holds.foldl_merge {α : Type} (items : List α) (frontier : α → Frontier)
    (ways : α → List Alignment) (holds : ∀ item ∈ items, (frontier item).Holds (ways item))
    {initial : Frontier} {before : List Alignment} (initialHolds : initial.Holds before) :
    ((items.map frontier).foldl Frontier.merge initial).Holds (before ++ items.flatMap ways) := by
  induction items generalizing initial before with
  | nil => simpa using initialHolds
  | cons item rest ih =>
    rw [List.flatMap_cons, ← List.append_assoc]
    apply ih
    · intro other member
      exact holds other (List.mem_cons_of_mem _ member)
    · exact initialHolds.merge (holds item (List.mem_cons_self ..))

theorem Holds.mergeAll {α : Type} {items : List α} {frontier : α → Frontier}
    {ways : α → List Alignment} (holds : ∀ item ∈ items, (frontier item).Holds (ways item)) :
    (Frontier.mergeAll (items.map frontier)).Holds (items.flatMap ways) :=
  Holds.foldl_merge items frontier ways holds Holds.none

theorem Holds.afterLiteral {frontier : Frontier} {ways : List Alignment}
    (holds : frontier.Holds ways) (start width : Nat) :
    (frontier.afterLiteral width).Holds (ways.map (Laying.underLiteral start width).before) := by
  intro literal
  rw [get?_afterLiteral, Suffix.narrowest_map_before, holds]
  simp [Laying.underLiteral]

theorem Holds.afterCapture {frontier : Frontier} {ways : List Alignment}
    (holds : frontier.Holds ways) (slot : String) (start stop : Nat) :
    (frontier.afterCapture slot ⟨start, stop⟩).Holds
      (ways.map (Laying.underCapture slot start stop).before) := by
  intro literal
  rw [get?_afterCapture, Suffix.narrowest_map_before, holds]
  simp [Laying.underCapture]

theorem Holds.afterGap {frontier : Frontier} {ways : List Alignment}
    (holds : frontier.Holds ways) (start width : Nat) :
    (frontier.afterGap width).Holds
      (ways.map (Laying.underWildcard start (start + width)).before) := by
  intro literal
  rw [get?_afterGap, Suffix.narrowest_map_before, holds]
  simp [Laying.underWildcard]

end Frontier

namespace Column

/-- A column holds the ways to align the rest from each position on. -/
def Holds (count : Nat) (column : Column) (ways : Nat → List Alignment) : Prop :=
  ∀ position ≤ count, (column.frontierAt position).Holds (ways position)

theorem Holds.tabulate {count : Nat} {frontier : Nat → Frontier} {ways : Nat → List Alignment}
    (holds : ∀ position ≤ count, (frontier position).Holds (ways position)) :
    (Column.tabulate count frontier).Holds count ways := by
  intro position inBounds
  rw [frontierAt_tabulate, if_pos inBounds]
  exact holds position inBounds

theorem Holds.afterLastPart (count : Nat) :
    (Column.afterLastPart count).Holds count fun position => [⟨0, count - position, []⟩] := by
  apply Holds.tabulate
  intro position _
  exact Frontier.Holds.ofSuffix ⟨count - position, []⟩

end Column

variable {tokens : List Token} {next : Column} {ways : Nat → List Alignment}

/-- The phrases of a literal are those of its words, so they stand where the words stand. -/
theorem Column.Holds.beforeLiteral (holds : next.Holds tokens.length ways) {element : Element}
    (kind : element.kind = "literal") :
    (next.beforeLiteral tokens (element.words.map Phrase.spelling)).Holds tokens.length
      fun start => (element.layings (tokens.map Token.value) start).flatMap fun first =>
        (ways first.stop).map first.before := by
  apply Column.Holds.tabulate
  intro start inBounds
  dsimp only
  have standing : element.words.filter (fun word =>
      (tokenValues word).isPrefixOf ((tokens.map Token.value).drop start)) =
        element.words.filter (Phrase.standsAt tokens start ∘ Phrase.spelling) :=
    List.filter_congr fun word _ =>
      (Phrase.standsAt_eq_isPrefixOf inBounds (Phrase.spelling word)).symm
  rw [Element.layings_of_literal _ kind, List.flatMap_map, List.filter_map, List.map_map, standing]
  apply Frontier.Holds.mergeAll
  intro word member
  have stands : (Phrase.spelling word).standsAt tokens start = true :=
    (List.mem_filter.1 member).2
  apply Frontier.Holds.afterLiteral
  apply holds
  exact Phrase.standsAt_le stands

theorem Column.Holds.beforeCapture (holds : next.Holds tokens.length ways) {element : Element}
    (kind : element.kind = "capture") {slot : String}
    (named : Element.slotName? element.name = some slot) :
    (next.beforeCapture tokens.length slot).Holds tokens.length
      fun start => (element.layings (tokens.map Token.value) start).flatMap fun first =>
        (ways first.stop).map first.before := by
  apply Column.Holds.tabulate
  intro start inBounds
  rw [Element.layings_of_capture _ kind named, List.length_map, List.flatMap_map,
    List.range'_eq_map_range, List.flatMap_map]
  apply Frontier.Holds.mergeAll
  intro more member
  have inRest := List.mem_range.1 member
  rw [show start + 1 + more = start + more + 1 by omega]
  apply Frontier.Holds.afterCapture
  apply holds
  show start + more + 1 ≤ tokens.length
  omega

theorem Column.Holds.beforeWildcard (holds : next.Holds tokens.length ways) {element : Element}
    (kind : element.kind = "wildcard") :
    (next.beforeWildcard tokens.length).Holds tokens.length
      fun start => (element.layings (tokens.map Token.value) start).flatMap fun first =>
        (ways first.stop).map first.before := by
  apply Column.Holds.tabulate
  intro start inBounds
  rw [Element.layings_of_wildcard _ kind, List.length_map, List.flatMap_map,
    List.range'_eq_map_range, List.flatMap_map]
  apply Frontier.Holds.mergeAll
  intro width member
  have inRest := List.mem_range.1 member
  apply Frontier.Holds.afterGap
  apply holds
  show start + width ≤ tokens.length
  omega

/-- The frontier search keeps what it holds: the columns of compiled elements hold the ways that
the exhaustive search finds for the elements. -/
theorem Element.Compiles.solveEach_holds {taken : List String} {elements : List Element}
    {parts : List Part} {after : List String}
    (compiled : Element.Compiles taken elements parts after)
    (holds : next.Holds tokens.length ways) :
    (Part.solveEach tokens parts next).Holds tokens.length (Element.ways (tokens.map Token.value) elements ways) := by
  induction compiled generalizing next ways with
  | nil taken =>
    intro start inBounds
    rw [Part.solveEach, Element.ways_nil]
    exact holds start inBounds
  | literal kind _ _ _ ih =>
    rw [Part.solveEach, Part.solve, funext (Element.ways_cons _ _ _ ways)]
    exact (ih holds).beforeLiteral kind
  | capture kind named _ _ ih =>
    rw [Part.solveEach, Part.solve, funext (Element.ways_cons _ _ _ ways)]
    exact (ih holds).beforeCapture kind named
  | wildcard kind _ ih =>
    rw [Part.solveEach, Part.solve, funext (Element.ways_cons _ _ _ ways)]
    exact (ih holds).beforeWildcard kind
  | optional kind _ _ _ innerIh ih =>
    rw [Part.solveEach, Part.solve]
    apply Column.Holds.tabulate
    intro start inBounds
    rw [Element.ways_cons, Element.layings_of_optional _ kind, List.flatMap_append,
      List.flatMap_singleton]
    have skipped := ih holds
    have unchanged : (Laying.empty start).before = id := funext (Laying.empty_before start)
    rw [unchanged, List.map_id]
    exact (innerIh skipped start inBounds).merge (skipped start inBounds)

end SkillDispatch
