import SkillDispatch.Proofs.Compilation
import SkillDispatch.Proofs.Laying

set_option autoImplicit false

namespace SkillDispatch

open Text

variable {tokens : List String}

/-- A capture takes a token or more, between the start and the stop of its laying. -/
theorem Element.Lays.captures_within {elements : List Element} {start : Nat} {laying : Laying}
    (lays : Element.Lays tokens elements start laying) (inBounds : start ≤ tokens.length) :
    ∀ capture ∈ laying.captures, start ≤ capture.2.start ∧
      capture.2.start < capture.2.stop ∧ capture.2.stop ≤ laying.stop := by
  induction lays with
  | nil start => exact nofun
  | @literal _ _ start word _ _ _ stands tail ih =>
    have width := stands.length_le
    rw [List.length_drop] at width
    intro capture member
    have within := ih (by omega) capture member
    exact ⟨by omega, within.2⟩
  | @capture _ _ start stop slot _ _ _ some fits tail ih =>
    intro capture member
    rcases List.mem_append.1 member with here | later
    · rw [List.mem_singleton.1 here]
      exact ⟨Nat.le_refl _, some, (tail.bounds fits).1⟩
    · have within := ih fits capture later
      exact ⟨by omega, within.2⟩
  | wildcard _ any fits _ ih =>
    intro capture member
    have within := ih fits capture member
    exact ⟨by omega, within.2⟩
  | taken _ body tail bodyIh ih =>
    have bodyBounds := body.bounds inBounds
    have tailBounds := tail.bounds bodyBounds.2
    intro capture member
    rcases List.mem_append.1 member with inBody | inTail
    · have within := bodyIh inBounds capture inBody
      exact ⟨within.1, within.2.1, Nat.le_trans within.2.2 tailBounds.1⟩
    · have within := ih bodyBounds.2 capture inTail
      exact ⟨Nat.le_trans bodyBounds.1 within.1, within.2⟩
  | skipped _ _ ih => exact ih inBounds

theorem Element.Lays.captures_ascending {elements : List Element} {start : Nat} {laying : Laying}
    (lays : Element.Lays tokens elements start laying) (inBounds : start ≤ tokens.length) :
    laying.captures.Pairwise fun first second => first.2.stop ≤ second.2.start := by
  induction lays with
  | nil start => exact List.Pairwise.nil
  | @literal _ _ start word _ _ _ stands tail ih =>
    have width := stands.length_le
    rw [List.length_drop] at width
    exact ih (by omega)
  | capture _ _ some fits tail ih =>
    refine List.pairwise_cons.2 ⟨?_, ih fits⟩
    intro later member
    exact (tail.captures_within fits later member).1
  | wildcard _ _ fits _ ih => exact ih fits
  | taken _ body tail bodyIh ih =>
    have bodyBounds := body.bounds inBounds
    refine List.pairwise_append.2 ⟨bodyIh inBounds, ih bodyBounds.2, ?_⟩
    intro first inBody second inTail
    have firstWithin := body.captures_within inBounds first inBody
    have secondWithin := tail.captures_within bodyBounds.2 second inTail
    omega
  | skipped _ _ ih => exact ih inBounds

/-- The slots that captures bind, from left to right. -/
def Laying.slots (laying : Laying) : List String :=
  laying.captures.map Prod.fst

theorem Laying.slots_followedBy (first second : Laying) :
    (first.followedBy second).slots = first.slots ++ second.slots := by
  simp [slots, followedBy]

theorem Element.Compiles.slots_sublist {taken : List String} {elements : List Element}
    {parts : List Part} {after : List String}
    (compiled : Element.Compiles taken elements parts after) {start : Nat} {laying : Laying}
    (member : laying ∈ Element.layingsEach tokens elements start) :
    laying.slots.Sublist (Part.slotsOf parts) := by
  induction compiled generalizing start laying with
  | nil taken =>
    rw [Element.layingsEach, List.mem_singleton] at member
    subst member
    exact List.Sublist.slnil
  | literal kind _ _ _ ih =>
    obtain ⟨first, laid, remaining, rest, rfl⟩ := (Element.mem_layingsEach_cons_iff ..).1 member
    rw [Element.layings_of_literal tokens kind, List.mem_map] at laid
    obtain ⟨word, -, rfl⟩ := laid
    have slots := ih rest
    exact slots
  | capture kind named _ _ ih =>
    obtain ⟨first, laid, remaining, rest, rfl⟩ := (Element.mem_layingsEach_cons_iff ..).1 member
    rw [Element.layings_of_capture tokens kind named, List.mem_map] at laid
    obtain ⟨stop, -, rfl⟩ := laid
    exact (ih rest).cons_cons _
  | wildcard kind _ ih =>
    obtain ⟨first, laid, remaining, rest, rfl⟩ := (Element.mem_layingsEach_cons_iff ..).1 member
    rw [Element.layings_of_wildcard tokens kind, List.mem_map] at laid
    obtain ⟨stop, -, rfl⟩ := laid
    have slots := ih rest
    exact slots
  | optional kind _ _ _ innerIh ih =>
    obtain ⟨first, laid, remaining, rest, rfl⟩ := (Element.mem_layingsEach_cons_iff ..).1 member
    rw [Element.layings_of_optional tokens kind, List.mem_append, List.mem_singleton] at laid
    rw [Laying.slots_followedBy]
    rcases laid with body | rfl
    · exact (innerIh body).append (ih rest)
    · exact (List.nil_sublist _).append (ih rest)

/-- The slots of the captures that stand outside of optional elements. -/
def Element.requiredSlots (elements : List Element) : List String :=
  elements.filterMap fun element =>
    if element.kind = "capture" then Element.slotName? element.name else none

theorem Element.requiredSlots_of_capture {element : Element} (rest : List Element)
    (kind : element.kind = "capture") {slot : String}
    (named : Element.slotName? element.name = some slot) :
    Element.requiredSlots (element :: rest) = slot :: Element.requiredSlots rest := by
  rw [Element.requiredSlots, List.filterMap_cons, if_pos kind, named]
  rfl

theorem Element.requiredSlots_of_other {element : Element} (rest : List Element)
    (kind : element.kind ≠ "capture") :
    Element.requiredSlots (element :: rest) = Element.requiredSlots rest := by
  rw [Element.requiredSlots, List.filterMap_cons, if_neg kind]
  rfl

/-- A capture outside of optional elements is part of every laying. -/
theorem Element.Lays.required_subset {elements : List Element} {start : Nat} {laying : Laying}
    (lays : Element.Lays tokens elements start laying) :
    Element.requiredSlots elements ⊆ laying.slots := by
  induction lays with
  | nil start => exact List.nil_subset _
  | literal kind _ _ _ ih =>
    rw [Element.requiredSlots_of_other _ (by rw [kind]; decide)]
    exact ih
  | capture kind named _ _ _ ih =>
    rw [Element.requiredSlots_of_capture _ kind named, Laying.slots_followedBy]
    exact List.cons_subset_cons _ ih
  | wildcard kind _ _ _ ih =>
    rw [Element.requiredSlots_of_other _ (by rw [kind]; decide)]
    exact ih
  | taken kind _ _ _ ih =>
    rw [Element.requiredSlots_of_other _ (by rw [kind]; decide), Laying.slots_followedBy]
    exact List.subset_append_of_subset_right _ ih
  | skipped kind _ ih =>
    rw [Element.requiredSlots_of_other _ (by rw [kind]; decide)]
    exact ih

end SkillDispatch
