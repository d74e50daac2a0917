import Mathlib
import SkillDispatch.Alignment
import SkillDispatch.Pattern.Compile

set_option autoImplicit false

namespace SkillDispatch

open Text

/-- One way to lay elements over the tokens from some position on. -/
structure Laying where
  /-- The position after the last token. -/
  stop : Nat
  /-- Tokens under literals. -/
  literal : Nat
  /-- Tokens under wildcards. -/
  gap : Nat
  /-- The slots with the tokens that they take, from left to right. -/
  captures : List (String × Span)

namespace Laying

def empty (start : Nat) : Laying := ⟨start, 0, 0, []⟩

/-- All tokens up to a position, under a literal. -/
def underLiteral (start width : Nat) : Laying := ⟨start + width, width, 0, []⟩

/-- All tokens up to a position, in a slot. -/
def underCapture (slot : String) (start stop : Nat) : Laying :=
  ⟨stop, 0, 0, [(slot, ⟨start, stop⟩)]⟩

/-- All tokens up to a position, under a wildcard. -/
def underWildcard (start stop : Nat) : Laying := ⟨stop, 0, stop - start, []⟩

/-- One laying, and another one from where it stops. -/
def followedBy (first second : Laying) : Laying :=
  ⟨second.stop, first.literal + second.literal, first.gap + second.gap,
    first.captures ++ second.captures⟩

/-- A laying from `start` on as an alignment with all tokens: those on both sides of it are gap. -/
def alignment (count start : Nat) (laying : Laying) : Alignment :=
  ⟨laying.literal, start + laying.gap + (count - laying.stop), laying.captures⟩

end Laying

def capturedTokens (captures : List (String × Span)) : Nat :=
  (captures.map fun (_, span) => span.stop - span.start).sum

/-- The part that each token has in an alignment; no number is found from the others. -/
def Alignment.account (alignment : Alignment) : Coverage :=
  ⟨alignment.literal, capturedTokens alignment.captures, alignment.gap⟩

/-- The elements can be laid over tokens from `start` on in this way. -/
inductive Element.Lays (tokens : List String) : List Element → Nat → Laying → Prop
  | nil (start : Nat) : Lays tokens [] start (.empty start)
  | literal {element : Element} {rest : List Element} {start : Nat} {word : String}
      {remaining : Laying} (kind : element.kind = "literal") (member : word ∈ element.words)
      (stands : tokenValues word <+: tokens.drop start)
      (tail : Lays tokens rest (start + (tokenValues word).length) remaining) :
      Lays tokens (element :: rest) start
        ((Laying.underLiteral start (tokenValues word).length).followedBy remaining)
  | capture {element : Element} {rest : List Element} {start stop : Nat} {slot : String}
      {remaining : Laying} (kind : element.kind = "capture")
      (named : Element.slotName? element.name = some slot) (some : start < stop)
      (inBounds : stop ≤ tokens.length) (tail : Lays tokens rest stop remaining) :
      Lays tokens (element :: rest) start
        ((Laying.underCapture slot start stop).followedBy remaining)
  | wildcard {element : Element} {rest : List Element} {start stop : Nat} {remaining : Laying}
      (kind : element.kind = "wildcard") (any : start ≤ stop) (inBounds : stop ≤ tokens.length)
      (tail : Lays tokens rest stop remaining) :
      Lays tokens (element :: rest) start ((Laying.underWildcard start stop).followedBy remaining)
  | taken {element : Element} {rest : List Element} {start : Nat} {inner remaining : Laying}
      (kind : element.kind = "optional") (body : Lays tokens element.elements start inner)
      (tail : Lays tokens rest inner.stop remaining) :
      Lays tokens (element :: rest) start (inner.followedBy remaining)
  | skipped {element : Element} {rest : List Element} {start : Nat} {remaining : Laying}
      (kind : element.kind = "optional") (tail : Lays tokens rest start remaining) :
      Lays tokens (element :: rest) start remaining

def PatternDefinition.Aligns (definition : PatternDefinition) (tokens : List String)
    (alignment : Alignment) : Prop :=
  ∃ start laying, start ≤ tokens.length ∧ Element.Lays tokens definition.elements start laying ∧
    alignment = laying.alignment tokens.length start

mutual

/-- The ways to lay an element over tokens from `start` on: words in their order, the body of an
optional element before nothing, captures and wildcards the shortest first. -/
def Element.layings (tokens : List String) : Element → Nat → List Laying
  | ⟨kind, words, name, elements⟩, start =>
    if kind = "literal" then
      (words.filter fun word => (tokenValues word).isPrefixOf (tokens.drop start)).map
        fun word => .underLiteral start (tokenValues word).length
    else if kind = "optional" then Element.layingsEach tokens elements start ++ [.empty start]
    else if kind = "capture" then
      match Element.slotName? name with
      | some slot =>
        (List.range' (start + 1) (tokens.length - start)).map (.underCapture slot start)
      | none => []
    else if kind = "wildcard" then
      (List.range' start (tokens.length - start + 1)).map (.underWildcard start)
    else []

/-- The ways to lay consecutive elements over tokens from `start` on: all that follow from the
first way for the first element before those that follow from the second. -/
def Element.layingsEach (tokens : List String) : List Element → Nat → List Laying
  | [], start => [.empty start]
  | element :: rest, start =>
    (element.layings tokens start).flatMap fun first =>
      (Element.layingsEach tokens rest first.stop).map first.followedBy

end

/-- The alignments of a definition whose first token is the one at `start`. -/
def PatternDefinition.alignmentsFrom (definition : PatternDefinition) (tokens : List String)
    (start : Nat) : List Alignment :=
  (Element.layingsEach tokens definition.elements start).map
    (Laying.alignment tokens.length start)

/-- The alignments of a definition in the order of a search that backtracks: start by start, and
from one start as the elements are laid. -/
def PatternDefinition.alignments (definition : PatternDefinition) (tokens : List String) :
    List Alignment :=
  (List.range (tokens.length + 1)).flatMap (definition.alignmentsFrom tokens)

theorem Element.layings_of_literal (tokens : List String) {element : Element}
    (kind : element.kind = "literal") (start : Nat) :
    element.layings tokens start =
      (element.words.filter fun word =>
        (tokenValues word).isPrefixOf (tokens.drop start)).map
          fun word => .underLiteral start (tokenValues word).length := by
  rcases element with ⟨_, words, name, elements⟩
  subst kind
  rw [Element.layings, if_pos rfl]

theorem Element.layings_of_optional (tokens : List String) {element : Element}
    (kind : element.kind = "optional") (start : Nat) :
    element.layings tokens start =
      Element.layingsEach tokens element.elements start ++ [.empty start] := by
  rcases element with ⟨_, words, name, elements⟩
  subst kind
  rw [Element.layings, if_neg (by decide), if_pos rfl]

theorem Element.layings_of_capture (tokens : List String) {element : Element}
    (kind : element.kind = "capture") {slot : String}
    (named : Element.slotName? element.name = some slot) (start : Nat) :
    element.layings tokens start =
      (List.range' (start + 1) (tokens.length - start)).map (.underCapture slot start) := by
  rcases element with ⟨_, words, name, elements⟩
  subst kind
  rw [Element.layings, if_neg (by decide), if_neg (by decide), if_pos rfl, named]

theorem Element.layings_of_wildcard (tokens : List String) {element : Element}
    (kind : element.kind = "wildcard") (start : Nat) :
    element.layings tokens start =
      (List.range' start (tokens.length - start + 1)).map (.underWildcard start) := by
  rcases element with ⟨_, words, name, elements⟩
  subst kind
  rw [Element.layings, if_neg (by decide), if_neg (by decide), if_neg (by decide), if_pos rfl]

/-- An element that can be laid at all has one of the four kinds, and a capture has a slot. -/
theorem Element.kind_of_mem_layings {tokens : List String} {element : Element} {start : Nat}
    {laying : Laying} (member : laying ∈ element.layings tokens start) :
    element.kind = "literal" ∨ element.kind = "optional" ∨
      (element.kind = "capture" ∧ ∃ slot, Element.slotName? element.name = some slot) ∨
      element.kind = "wildcard" := by
  rcases element with ⟨kind, words, name, elements⟩
  rw [Element.layings] at member
  by_cases literal : kind = "literal"
  · exact Or.inl literal
  by_cases optional : kind = "optional"
  · exact Or.inr (Or.inl optional)
  by_cases capture : kind = "capture"
  · rw [if_neg literal, if_neg optional, if_pos capture] at member
    cases named : Element.slotName? name with
    | none => simp [named] at member
    | some slot => exact Or.inr (Or.inr (Or.inl ⟨capture, slot, rfl⟩))
  by_cases wildcard : kind = "wildcard"
  · exact Or.inr (Or.inr (Or.inr wildcard))
  · simp [literal, optional, capture, wildcard] at member

variable {tokens : List String}

/-- A laying goes to the right and stays within the tokens. -/
theorem Element.Lays.bounds {elements : List Element} {start : Nat} {laying : Laying}
    (lays : Element.Lays tokens elements start laying) (inBounds : start ≤ tokens.length) :
    start ≤ laying.stop ∧ laying.stop ≤ tokens.length := by
  induction lays with
  | nil start => exact ⟨Nat.le_refl _, inBounds⟩
  | @literal _ _ start word _ _ _ stands _ ih =>
    have width := stands.length_le
    rw [List.length_drop] at width
    have rest := ih (by omega)
    exact ⟨Nat.le_trans (Nat.le_add_right _ _) rest.1, rest.2⟩
  | capture _ _ some fits _ ih =>
    have rest := ih fits
    exact ⟨Nat.le_trans (Nat.le_of_lt some) rest.1, rest.2⟩
  | wildcard _ any fits _ ih =>
    have rest := ih fits
    exact ⟨Nat.le_trans any rest.1, rest.2⟩
  | taken _ _ _ bodyIh ih =>
    have body := bodyIh inBounds
    have rest := ih body.2
    exact ⟨Nat.le_trans body.1 rest.1, rest.2⟩
  | skipped _ _ ih => exact ih inBounds

theorem capturedTokens_append (first second : List (String × Span)) :
    capturedTokens (first ++ second) = capturedTokens first + capturedTokens second := by
  simp [capturedTokens]

/-- Every token between start and stop is literal, captured or gap. -/
theorem Element.Lays.conserves {elements : List Element} {start : Nat} {laying : Laying}
    (lays : Element.Lays tokens elements start laying) :
    start + laying.literal + capturedTokens laying.captures + laying.gap = laying.stop := by
  induction lays with
  | nil start => rfl
  | literal _ _ _ _ ih =>
    simp only [Laying.followedBy, Laying.underLiteral, List.nil_append]
    omega
  | @capture _ _ start stop slot remaining _ _ some _ _ ih =>
    have width : capturedTokens [(slot, ⟨start, stop⟩)] = stop - start := by simp [capturedTokens]
    simp only [Laying.followedBy, Laying.underCapture, capturedTokens_append, width]
    omega
  | wildcard _ any _ _ ih =>
    simp only [Laying.followedBy, Laying.underWildcard, List.nil_append]
    omega
  | taken _ _ _ bodyIh ih =>
    simp only [Laying.followedBy, capturedTokens_append]
    omega
  | skipped _ _ ih => exact ih

theorem PatternDefinition.Aligns.conserves {definition : PatternDefinition} {alignment : Alignment}
    (aligns : definition.Aligns tokens alignment) : alignment.account.total = tokens.length := by
  obtain ⟨start, laying, inBounds, lays, rfl⟩ := aligns
  have between := lays.conserves
  have stop := (lays.bounds inBounds).2
  simp only [Coverage.total, Alignment.account, Laying.alignment]
  omega

/-- The tokens that are neither literal nor gap are the captured ones. -/
theorem PatternDefinition.Aligns.coverage_eq {definition : PatternDefinition}
    {alignment : Alignment} (aligns : definition.Aligns tokens alignment) :
    alignment.coverage tokens.length = alignment.account := by
  have total := aligns.conserves
  simp only [Coverage.total, Alignment.account] at total
  simp only [Alignment.coverage, Alignment.account, Coverage.mk.injEq, true_and, and_true]
  omega

theorem Element.mem_layingsEach_cons_iff (element : Element) (rest : List Element) (start : Nat)
    (laying : Laying) :
    laying ∈ Element.layingsEach tokens (element :: rest) start ↔
      ∃ first ∈ element.layings tokens start,
        ∃ remaining ∈ Element.layingsEach tokens rest first.stop,
          laying = first.followedBy remaining := by
  simp only [Element.layingsEach, List.mem_flatMap, List.mem_map, eq_comm]

@[simp] theorem Laying.empty_followedBy (start : Nat) (laying : Laying) :
    (Laying.empty start).followedBy laying = laying := by
  simp [Laying.empty, Laying.followedBy]

theorem Laying.followedBy_assoc (first second third : Laying) :
    (first.followedBy second).followedBy third = first.followedBy (second.followedBy third) := by
  simp only [followedBy, Nat.add_assoc, List.append_assoc]

/-- Elements in a row are laid one part after the other. -/
theorem Element.Lays.append {first second : List Element} {start : Nat} {head tail : Laying}
    (headLays : Element.Lays tokens first start head)
    (tailLays : Element.Lays tokens second head.stop tail) :
    Element.Lays tokens (first ++ second) start (head.followedBy tail) := by
  induction headLays with
  | nil start =>
    rw [Laying.empty_followedBy]
    exact tailLays
  | literal kind member stands _ ih =>
    rw [Laying.followedBy_assoc]
    exact .literal kind member stands (ih tailLays)
  | capture kind named some inBounds _ ih =>
    rw [Laying.followedBy_assoc]
    exact .capture kind named some inBounds (ih tailLays)
  | wildcard kind any inBounds _ ih =>
    rw [Laying.followedBy_assoc]
    exact .wildcard kind any inBounds (ih tailLays)
  | taken kind body _ _ ih =>
    rw [Laying.followedBy_assoc]
    exact .taken kind body (ih tailLays)
  | skipped kind _ ih => exact .skipped kind (ih tailLays)

/-- A laying of elements in a row comes apart between any two of them. -/
theorem Element.Lays.exists_of_append {first second : List Element} {start : Nat}
    {laying : Laying} (lays : Element.Lays tokens (first ++ second) start laying) :
    ∃ head tail, Element.Lays tokens first start head ∧
      Element.Lays tokens second head.stop tail ∧ laying = head.followedBy tail := by
  induction first generalizing start laying with
  | nil => exact ⟨.empty start, laying, .nil start, lays, (Laying.empty_followedBy ..).symm⟩
  | cons element rest ih =>
    cases lays with
    | literal kind member stands remaining =>
      obtain ⟨head, tail, headLays, tailLays, rfl⟩ := ih remaining
      exact ⟨_, tail, .literal kind member stands headLays, tailLays,
        (Laying.followedBy_assoc ..).symm⟩
    | capture kind named some inBounds remaining =>
      obtain ⟨head, tail, headLays, tailLays, rfl⟩ := ih remaining
      exact ⟨_, tail, .capture kind named some inBounds headLays, tailLays,
        (Laying.followedBy_assoc ..).symm⟩
    | wildcard kind any inBounds remaining =>
      obtain ⟨head, tail, headLays, tailLays, rfl⟩ := ih remaining
      exact ⟨_, tail, .wildcard kind any inBounds headLays, tailLays,
        (Laying.followedBy_assoc ..).symm⟩
    | taken kind body remaining =>
      obtain ⟨head, tail, headLays, tailLays, rfl⟩ := ih remaining
      exact ⟨_, tail, .taken kind body headLays, tailLays, (Laying.followedBy_assoc ..).symm⟩
    | skipped kind remaining =>
      obtain ⟨head, tail, headLays, tailLays, rfl⟩ := ih remaining
      exact ⟨head, tail, .skipped kind headLays, tailLays, rfl⟩

theorem Element.lays_of_mem (elements : List Element) (start : Nat)
    (inBounds : start ≤ tokens.length) (laying : Laying)
    (member : laying ∈ Element.layingsEach tokens elements start) :
    Element.Lays tokens elements start laying := by
  match elements with
  | [] =>
    rw [Element.layingsEach, List.mem_singleton] at member
    exact member ▸ .nil start
  | element :: rest =>
    obtain ⟨first, laid, remaining, restLaid, rfl⟩ :=
      (Element.mem_layingsEach_cons_iff ..).1 member
    rcases Element.kind_of_mem_layings laid with kind | kind | ⟨kind, slot, named⟩ | kind
    · rw [Element.layings_of_literal tokens kind, List.mem_map] at laid
      obtain ⟨word, standing, rfl⟩ := laid
      obtain ⟨memberWord, stands⟩ := List.mem_filter.1 standing
      have isPrefix := List.isPrefixOf_iff_prefix.1 stands
      have width := isPrefix.length_le
      rw [List.length_drop] at width
      exact .literal kind memberWord isPrefix
        (Element.lays_of_mem rest _ (show start + _ ≤ _ by omega) remaining restLaid)
    · rw [Element.layings_of_optional tokens kind, List.mem_append, List.mem_singleton] at laid
      rcases laid with body | rfl
      · have smaller : sizeOf element.elements < 1 + sizeOf element + sizeOf rest := by
          cases element
          simp
          omega
        have inner := Element.lays_of_mem element.elements start inBounds first body
        exact .taken kind inner
          (Element.lays_of_mem rest _ (inner.bounds inBounds).2 remaining restLaid)
      · rw [Laying.empty_followedBy]
        exact .skipped kind (Element.lays_of_mem rest start inBounds remaining restLaid)
    · rw [Element.layings_of_capture tokens kind named, List.mem_map] at laid
      obtain ⟨stop, range, rfl⟩ := laid
      have stops := List.mem_range'_1.1 range
      exact .capture kind named (by omega) (by omega)
        (Element.lays_of_mem rest stop (by omega) remaining restLaid)
    · rw [Element.layings_of_wildcard tokens kind, List.mem_map] at laid
      obtain ⟨stop, range, rfl⟩ := laid
      have stops := List.mem_range'_1.1 range
      exact .wildcard kind (by omega) (by omega)
        (Element.lays_of_mem rest stop (by omega) remaining restLaid)
termination_by sizeOf elements

theorem Element.Lays.mem {elements : List Element} {start : Nat} {laying : Laying}
    (lays : Element.Lays tokens elements start laying) :
    laying ∈ Element.layingsEach tokens elements start := by
  induction lays with
  | nil start => simp [Element.layingsEach]
  | literal kind member stands _ ih =>
    refine (Element.mem_layingsEach_cons_iff ..).2 ⟨_, ?_, _, ih, rfl⟩
    rw [Element.layings_of_literal tokens kind]
    exact List.mem_map.2
      ⟨_, List.mem_filter.2 ⟨member, List.isPrefixOf_iff_prefix.2 stands⟩, rfl⟩
  | capture kind named some inBounds _ ih =>
    refine (Element.mem_layingsEach_cons_iff ..).2 ⟨_, ?_, _, ih, rfl⟩
    rw [Element.layings_of_capture tokens kind named]
    exact List.mem_map.2 ⟨_, List.mem_range'_1.2 ⟨some, by omega⟩, rfl⟩
  | wildcard kind any inBounds _ ih =>
    refine (Element.mem_layingsEach_cons_iff ..).2 ⟨_, ?_, _, ih, rfl⟩
    rw [Element.layings_of_wildcard tokens kind]
    exact List.mem_map.2 ⟨_, List.mem_range'_1.2 ⟨any, by omega⟩, rfl⟩
  | taken kind _ _ bodyIh ih =>
    refine (Element.mem_layingsEach_cons_iff ..).2 ⟨_, ?_, _, ih, rfl⟩
    rw [Element.layings_of_optional tokens kind]
    exact List.mem_append_left _ bodyIh
  | @skipped element rest start remaining kind _ ih =>
    refine (Element.mem_layingsEach_cons_iff ..).2 ⟨.empty start, ?_, remaining, ih, ?_⟩
    · rw [Element.layings_of_optional tokens kind]
      exact List.mem_append_right _ (List.mem_singleton_self _)
    · rw [Laying.empty_followedBy]

/-- The search finds exactly the alignments. -/
theorem PatternDefinition.mem_alignments_iff (definition : PatternDefinition)
    (alignment : Alignment) :
    alignment ∈ definition.alignments tokens ↔ definition.Aligns tokens alignment := by
  simp only [PatternDefinition.alignments, PatternDefinition.alignmentsFrom, List.mem_flatMap,
    List.mem_range, List.mem_map, PatternDefinition.Aligns]
  constructor
  · rintro ⟨start, inBounds, laying, member, rfl⟩
    have within : start ≤ tokens.length := Nat.lt_succ_iff.1 inBounds
    exact ⟨start, laying, within, Element.lays_of_mem _ start within laying member, rfl⟩
  · rintro ⟨start, laying, within, lays, rfl⟩
    exact ⟨start, Nat.lt_succ_iff.2 within, laying, lays.mem, rfl⟩

end SkillDispatch
