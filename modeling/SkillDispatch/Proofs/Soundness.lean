import SkillDispatch.Proofs.Captures
import SkillDispatch.Proofs.ExhaustiveSearch
import SkillDispatch.Proofs.TokenSpans

set_option autoImplicit false

namespace SkillDispatch

open Text

/-- Binding a new name adds one entry and keeps the others. -/
theorem Text.bindName_perm {α : Type} (name : String) (value : α) (entries : List (String × α))
    (fresh : ∀ entry ∈ entries, entry.1 ≠ name) :
    (bindName name value entries).Perm ((name, value) :: entries) := by
  induction entries with
  | nil => exact List.Perm.refl _
  | cons head rest ih =>
    obtain ⟨other, kept⟩ := head
    obtain ⟨apart, restFresh⟩ := List.forall_mem_cons.1 fresh
    rw [bindName]
    split
    · exact List.Perm.refl _
    · rw [if_neg fun same => apart same.symm]
      exact ((ih restFresh).cons _).trans (List.Perm.swap ..)

def Utterance.cut? (utterance : Utterance) (range : Span) : Option SlotValue :=
  (utterance.byteSpan? range).map fun span => ⟨utterance.textAt span, range, span⟩

def Utterance.bind (utterance : Utterance) (bound : Slots) (capture : String × Span) : Slots :=
  match utterance.cut? capture.2 with
  | some value => bound.insert capture.1 value
  | none => bound

theorem Alignment.slots_eq_foldl (utterance : Utterance) (alignment : Alignment) :
    alignment.slots utterance = alignment.captures.foldl utterance.bind .empty := by
  rw [Alignment.slots]
  congr 1
  funext bound capture
  obtain ⟨name, range⟩ := capture
  dsimp only [Utterance.bind, Utterance.cut?]
  cases utterance.byteSpan? range <;> rfl

def Utterance.bindings (utterance : Utterance) (captures : List (String × Span)) :
    List (String × SlotValue) :=
  captures.filterMap fun capture => (utterance.cut? capture.2).map (capture.1, ·)

/-- With different names every capture is bound, and what was bound before stays. -/
theorem Utterance.foldl_bind_perm (utterance : Utterance) (captures : List (String × Span))
    (bound : Slots) (distinct : (captures.map Prod.fst).Nodup)
    (fresh : ∀ entry ∈ bound.entries, entry.1 ∉ captures.map Prod.fst) :
    (captures.foldl utterance.bind bound).entries.Perm
      (bound.entries ++ utterance.bindings captures) := by
  induction captures generalizing bound with
  | nil =>
    rw [bindings, List.filterMap_nil, List.append_nil]
    exact List.Perm.refl _
  | cons capture captures ih =>
    rw [List.map_cons] at distinct fresh
    obtain ⟨notAgain, restDistinct⟩ := List.nodup_cons.1 distinct
    have restFresh : ∀ entry ∈ bound.entries, entry.1 ∉ captures.map Prod.fst := by
      intro entry member later
      exact fresh entry member (List.mem_cons_of_mem _ later)
    rw [List.foldl_cons, bindings, List.filterMap_cons, bind]
    cases utterance.cut? capture.2 with
    | none => exact ih bound restDistinct restFresh
    | some value =>
      have notBound : ∀ entry ∈ bound.entries, entry.1 ≠ capture.1 := by
        intro entry member same
        exact fresh entry member (same ▸ List.mem_cons_self ..)
      have stillFresh : ∀ entry ∈ (bound.insert capture.1 value).entries,
          entry.1 ∉ captures.map Prod.fst := by
        intro entry member
        rcases mem_bindName member with same | before
        · rw [same]
          exact notAgain
        · exact restFresh entry before
      have rest := ih (bound.insert capture.1 value) restDistinct stillFresh
      have first := (bindName_perm capture.1 value bound.entries notBound).append_right
        (utterance.bindings captures)
      exact rest.trans (first.trans List.perm_middle.symm)

/-- The tokens of each slot, in the order of the slots. -/
def slotRanges (slots : List (String × SlotValue)) : List (String × Span) :=
  slots.map fun slot => (slot.1, slot.2.tokens)

theorem Utterance.slotRanges_bindings (utterance : Utterance) (captures : List (String × Span))
    (within : ∀ capture ∈ captures, capture.2.start < capture.2.stop ∧
      capture.2.stop ≤ utterance.length) :
    slotRanges (utterance.bindings captures) = captures := by
  induction captures with
  | nil => rfl
  | cons capture captures ih =>
    obtain ⟨here, rest⟩ := List.forall_mem_cons.1 within
    obtain ⟨span, bytes, -⟩ := utterance.exists_cut here.1 here.2
    rw [bindings, List.filterMap_cons, cut?, bytes]
    show (capture.1, capture.2) :: slotRanges (utterance.bindings captures) = _
    rw [ih rest]

theorem Utterance.cuts_of_mem_bindings {utterance : Utterance} {captures : List (String × Span)}
    (within : ∀ capture ∈ captures, capture.2.start < capture.2.stop ∧
      capture.2.stop ≤ utterance.length)
    {slot : String × SlotValue} (member : slot ∈ utterance.bindings captures) :
    utterance.Cuts slot.2 := by
  obtain ⟨capture, inCaptures, bound⟩ := List.mem_filterMap.1 member
  obtain ⟨some, inBounds⟩ := within capture inCaptures
  obtain ⟨span, bytes, cuts⟩ := utterance.exists_cut some inBounds
  rw [Utterance.cut?, bytes] at bound
  cases bound
  exact cuts

/-- A result comes from an alignment of the definition that matched, with the given slots from left
to right. -/
structure SoundResult (scorer : Scorer) (definition : PatternDefinition) (pattern : Pattern)
    (utterance : Utterance) (result : Match) (alignment : Alignment)
    (slots : List (String × SlotValue)) : Prop where
  aligns : definition.Aligns utterance.values alignment
  literal : 0 < alignment.literal
  /-- No slot is lost, and none is added. -/
  bound : result.slots.entries.Perm slots
  captures : slotRanges slots = alignment.captures
  cuts : ∀ slot ∈ slots, utterance.Cuts slot.2
  inPattern : (slots.map Prod.fst).Sublist pattern.slots
  required : Element.requiredSlots definition.elements ⊆ slots.map Prod.fst
  inBounds : ∀ slot ∈ slots, slot.2.tokens.start < slot.2.tokens.stop ∧
    slot.2.tokens.stop ≤ utterance.length
  ascending : slots.Pairwise fun first second => first.2.tokens.stop ≤ second.2.tokens.start
  score : result.score =
    scorer ⟨alignment.literal, capturedTokens (slotRanges slots), alignment.gap⟩
  nonZero : result.score.isZero = false
  total : alignment.literal + capturedTokens (slotRanges slots) + alignment.gap = utterance.length

theorem Utterance.bindings_names (utterance : Utterance) {captures : List (String × Span)}
    (ranges : slotRanges (utterance.bindings captures) = captures) :
    (utterance.bindings captures).map Prod.fst = captures.map Prod.fst := by
  have projected := congrArg (List.map Prod.fst) ranges
  rw [slotRanges, List.map_map] at projected
  exact projected

namespace PatternDefinition

variable {definition : PatternDefinition} {pattern : Pattern} {tokens : List String}
  {alignment : Alignment}

/-- Every capture of an alignment takes a token or more, of those that there are. -/
theorem Aligns.captures_within (aligns : definition.Aligns tokens alignment) :
    ∀ capture ∈ alignment.captures, capture.2.start < capture.2.stop ∧
      capture.2.stop ≤ tokens.length := by
  obtain ⟨start, laying, inBounds, lays, rfl⟩ := aligns
  intro capture member
  have within := lays.captures_within inBounds capture member
  exact ⟨within.2.1, Nat.le_trans within.2.2 (lays.bounds inBounds).2⟩

theorem Aligns.captures_ascending (aligns : definition.Aligns tokens alignment) :
    alignment.captures.Pairwise fun first second => first.2.stop ≤ second.2.start := by
  obtain ⟨start, laying, inBounds, lays, rfl⟩ := aligns
  exact lays.captures_ascending inBounds

theorem Aligns.required_subset (aligns : definition.Aligns tokens alignment) :
    Element.requiredSlots definition.elements ⊆ alignment.captures.map Prod.fst := by
  obtain ⟨start, laying, inBounds, lays, rfl⟩ := aligns
  exact lays.required_subset

theorem Aligns.slots_sublist (compiled : definition.compile = .ok pattern)
    (aligns : definition.Aligns tokens alignment) :
    (alignment.captures.map Prod.fst).Sublist pattern.slots := by
  obtain ⟨start, laying, inBounds, lays, rfl⟩ := aligns
  obtain ⟨-, after, parts⟩ := (definition.compile_eq_ok_iff pattern).1 compiled
  exact parts.slots_sublist lays.mem

theorem Aligns.sound {scorer : Scorer} {utterance : Utterance}
    (compiled : definition.compile = .ok pattern)
    (aligns : definition.Aligns utterance.values alignment) (positive : 0 < alignment.literal)
    (nonZero : (scorer alignment.account).isZero = false) (index : Nat) :
    ∃ slots, SoundResult scorer definition pattern utterance
      ⟨scorer alignment.account, some index, alignment.slots utterance⟩ alignment slots := by
  have count : utterance.values.length = utterance.length := List.length_map ..
  have within := aligns.captures_within
  rw [count] at within
  have captures := utterance.slotRanges_bindings alignment.captures within
  have names := utterance.bindings_names captures
  have sublist := aligns.slots_sublist compiled
  have distinct := (PatternDefinition.slots_nodup compiled).sublist sublist
  refine ⟨utterance.bindings alignment.captures, aligns, positive, ?_, captures, ?_, ?_, ?_, ?_,
    ?_, ?_, nonZero, ?_⟩
  · rw [Alignment.slots_eq_foldl]
    exact utterance.foldl_bind_perm alignment.captures .empty distinct nofun
  · intro slot member
    exact Utterance.cuts_of_mem_bindings within member
  · rw [names]
    exact sublist
  · rw [names]
    exact aligns.required_subset
  · intro slot member
    exact within (slot.1, slot.2.tokens) (captures ▸ List.mem_map_of_mem member)
  · have ascending := aligns.captures_ascending
    rw [← captures, slotRanges, List.pairwise_map] at ascending
    exact ascending
  · rw [captures]
    rfl
  · rw [captures, ← count]
    exact aligns.conserves

end PatternDefinition

variable {scorer : Scorer} {definitions : List PatternDefinition} {patterns : List Pattern}

/-- Whatever the scorer is, a result with a pattern comes from one alignment of its definition. -/
theorem recognize_sound (compiled : CompileTo definitions patterns) (utterance : Utterance)
    {index : Nat} (isPattern : (recognize scorer patterns utterance).pattern = some index) :
    ∃ definition pattern alignment slots, definitions[index]? = some definition ∧
      patterns[index]? = some pattern ∧ SoundResult scorer definition pattern utterance
        (recognize scorer patterns utterance) alignment slots := by
  obtain ⟨pattern, found, atIndex, aligned, result, -⟩ := recognize_some isPattern
  obtain ⟨definition, atDefinition, compiles⟩ := compiled.definition_at atIndex
  obtain ⟨aligns, positive, scored, nonZero⟩ := definition.align_sound compiles aligned
  rw [scored] at result nonZero
  obtain ⟨slots, sound⟩ := aligns.sound compiles positive nonZero index
  rw [result]
  exact ⟨definition, pattern, found.alignment, slots, atDefinition, atIndex, sound⟩

/-- The slot of music takes all tokens that are left. -/
theorem recognize_sound_playMusic :
    CompileTo [playMusic] [playMusicPattern] ∧
      (recognize literalShare [playMusicPattern] (.ofText "Put on some Cool Jazz!")).pattern =
        some 0 ∧
      ∃ definition pattern alignment slots, [playMusic][0]? = some definition ∧
        [playMusicPattern][0]? = some pattern ∧
        SoundResult literalShare definition pattern (.ofText "Put on some Cool Jazz!")
          (recognize literalShare [playMusicPattern] (.ofText "Put on some Cool Jazz!"))
          alignment slots := by
  have compiled : CompileTo [playMusic] [playMusicPattern] := .cons playMusic_compile .nil
  have isPattern : (recognize literalShare [playMusicPattern]
      (.ofText "Put on some Cool Jazz!")).pattern = some 0 := by decide +kernel
  exact ⟨compiled, isPattern, recognize_sound compiled (.ofText "Put on some Cool Jazz!") isPattern⟩

end SkillDispatch
