import SkillDispatch.Proofs.FoldedTokens
import SkillDispatch.Proofs.ProgramRecognition

set_option autoImplicit false

namespace SkillDispatch

open Text

/-- Two matches of the same pattern, with the same score and the same tokens in the same slots. -/
structure Match.Alike (first second : Match) : Prop where
  score_eq : first.score = second.score
  pattern_eq : first.pattern = second.pattern
  slots_eq : slotRanges first.slots.entries = slotRanges second.slots.entries

/-- To forget the text of a slot when it is bound, or later, comes to the same. -/
theorem slotRanges_bindName (name : String) (value : SlotValue)
    (entries : List (String × SlotValue)) :
    slotRanges (bindName name value entries) = bindName name value.tokens (slotRanges entries) := by
  induction entries with
  | nil => rfl
  | cons head rest ih =>
    obtain ⟨other, kept⟩ := head
    rw [bindName]
    split
    · rename_i less
      show _ = bindName name value.tokens ((other, kept.tokens) :: slotRanges rest)
      rw [bindName, if_pos less]
      rfl
    · rename_i notLess
      show _ = bindName name value.tokens ((other, kept.tokens) :: slotRanges rest)
      rw [bindName, if_neg notLess]
      split
      · rfl
      · rw [← ih]
        rfl

/-- The tokens of one capture more, in an utterance with `count` tokens. -/
def bindRange (count : Nat) (bound : List (String × Span)) (capture : String × Span) :
    List (String × Span) :=
  if capture.2.start < capture.2.stop ∧ capture.2.stop ≤ count then
    bindName capture.1 capture.2 bound
  else bound

namespace Utterance

variable (utterance : Utterance)

/-- What can be cut out depends on the number of tokens alone. -/
theorem cut?_eq_none {range : Span}
    (outside : ¬(range.start < range.stop ∧ range.stop ≤ utterance.length)) :
    utterance.cut? range = none := by
  rw [cut?, utterance.byteSpan?_eq_none outside]
  rfl

theorem slotRanges_bind (bound : Slots) (capture : String × Span) :
    slotRanges (utterance.bind bound capture).entries =
      bindRange utterance.length (slotRanges bound.entries) capture := by
  rw [Utterance.bind, bindRange]
  by_cases inside : capture.2.start < capture.2.stop ∧ capture.2.stop ≤ utterance.length
  · obtain ⟨span, bytes, -⟩ := utterance.exists_cut inside.1 inside.2
    rw [if_pos inside, cut?, bytes]
    exact slotRanges_bindName capture.1 _ bound.entries
  · rw [if_neg inside, utterance.cut?_eq_none inside]

/-- The tokens of the slots come of the captures and the number of tokens. -/
theorem slotRanges_slots (alignment : Alignment) :
    slotRanges (alignment.slots utterance).entries =
      alignment.captures.foldl (bindRange utterance.length) [] := by
  rw [Alignment.slots_eq_foldl]
  have generalized : ∀ bound : Slots,
      slotRanges (alignment.captures.foldl utterance.bind bound).entries =
        alignment.captures.foldl (bindRange utterance.length) (slotRanges bound.entries) := by
    induction alignment.captures with
    | nil => exact fun bound => rfl
    | cons capture captures ih =>
      intro bound
      rw [List.foldl_cons, List.foldl_cons, ih, slotRanges_bind]
  exact generalized .empty

end Utterance

theorem recognize_alike (scorer : Scorer) (patterns : List Pattern) {first second : Utterance}
    (same : first.values = second.values) :
    (recognize scorer patterns first).Alike (recognize scorer patterns second) := by
  have length : first.length = second.length := Token.length_eq_of_values same
  have empty : first.isEmpty = second.isEmpty := by
    rw [Bool.eq_iff_iff, Utterance.isEmpty, Utterance.isEmpty, List.isEmpty_iff_length_eq_zero,
      List.isEmpty_iff_length_eq_zero]
    exact Iff.of_eq (congrArg (· = 0) length)
  rw [recognize, recognize, empty, Recognition.bestFit_values same]
  split
  · exact ⟨rfl, rfl, rfl⟩
  · cases Recognition.bestFit scorer second.tokens 0 patterns none with
    | none => exact ⟨rfl, rfl, rfl⟩
    | some fit =>
      refine ⟨rfl, rfl, ?_⟩
      rw [Utterance.slotRanges_slots, Utterance.slotRanges_slots, length]

/-- Two utterances with the same folded tokens are matched alike, whatever the scorer is: with the
patterns and with their programs, and every search through a program runs alike on them, so that it
comes to the same alignment or to the same crash. -/
theorem recognize_spelling (scorer : Scorer) (patterns : List Pattern) {first second : Utterance}
    (same : first.values = second.values) :
    (recognize scorer patterns first).Alike (recognize scorer patterns second) ∧
      (∃ programs firstFound secondFound, patterns.mapM Pattern.program = .ok programs ∧
        Program.RecognizesTo programs scorer first firstFound ∧
        Program.RecognizesTo programs scorer second secondFound ∧
        firstFound.Alike secondFound) ∧
      ∀ (program : Program) (depth : Nat),
        program.align first.tokens scorer depth = program.align second.tokens scorer depth := by
  have alike := recognize_alike scorer patterns same
  obtain ⟨programs, arePrograms, recognizes⟩ := programs_recognize patterns
  refine ⟨alike, ⟨programs, _, _, arePrograms, ?_, ?_, alike⟩, ?_⟩
  · exact recognizes scorer first
  · exact recognizes scorer second
  · intro program depth
    exact program.align_values same scorer depth

/-- Case, diacritics, punctuation, spacing and apostrophes do not count, but the slot has the text as
it was written. -/
theorem recognize_spelling_playMusic :
    (Utterance.ofText "PUT ON: Zoë’s   CAFÉ!").values =
        (Utterance.ofText "put on zoe's cafe").values ∧
      (recognize literalShare [playMusicPattern] (.ofText "PUT ON: Zoë’s   CAFÉ!")).Alike
        (recognize literalShare [playMusicPattern] (.ofText "put on zoe's cafe")) ∧
      (recognize literalShare [playMusicPattern]
        (.ofText "PUT ON: Zoë’s   CAFÉ!")).slots.text? "music" = some "Zoë’s   CAFÉ" := by
  have same : (Utterance.ofText "PUT ON: Zoë’s   CAFÉ!").values =
      (Utterance.ofText "put on zoe's cafe").values := by decide +kernel
  exact ⟨same, (recognize_spelling literalShare [playMusicPattern] same).1, by decide +kernel⟩

end SkillDispatch
