import Mathlib.Tactic.SplitIfs
import SkillDispatch.Pattern.Compile

set_option autoImplicit false

namespace SkillDispatch

theorem bind_eq_ok_iff {ε α β : Type} (first : Except ε α) (next : α → Except ε β) (result : β) :
    (first >>= next) = .ok result ↔ ∃ value, first = .ok value ∧ next value = .ok result := by
  cases first <;> simp [bind, Except.bind]

/-- The phrase of a word, whether or not the word has tokens. -/
def Phrase.spelling (word : String) : Phrase :=
  ⟨trimmed word, tokenValues word⟩

theorem Phrase.ofWord_eq_ok_iff (word : String) (phrase : Phrase) :
    Phrase.ofWord word = .ok phrase ↔ tokenValues word ≠ [] ∧ phrase = Phrase.spelling word := by
  unfold Phrase.ofWord Phrase.spelling
  cases tokenValues word with
  | nil => simp
  | cons token tokens => simp [eq_comm]

theorem Phrase.ofWords_eq_ok_iff (words : List String) (phrases : List Phrase) :
    Phrase.ofWords words = .ok phrases ↔
      (∀ word ∈ words, tokenValues word ≠ []) ∧ phrases = words.map Phrase.spelling := by
  induction words generalizing phrases with
  | nil =>
    constructor
    · rintro ⟨⟩
      exact ⟨nofun, rfl⟩
    · rintro ⟨_, rfl⟩
      rfl
  | cons word rest ih =>
    simp only [Phrase.ofWords, bind_eq_ok_iff, Phrase.ofWord_eq_ok_iff, ih, pure, Except.pure,
      Except.ok.injEq, List.forall_mem_cons, List.map_cons]
    constructor
    · rintro ⟨_, ⟨tokens, rfl⟩, _, ⟨restTokens, rfl⟩, rfl⟩
      exact ⟨⟨tokens, restTokens⟩, rfl⟩
    · rintro ⟨⟨tokens, restTokens⟩, rfl⟩
      exact ⟨_, ⟨tokens, rfl⟩, _, ⟨restTokens, rfl⟩, rfl⟩

/-- All that can come out of the compilation of one element, by its kind. -/
theorem Element.compile_eq_ok_iff (taken : List String) (element : Element) (part : Part)
    (after : List String) :
    element.compile taken = .ok (part, after) ↔
      (element.kind = "literal" ∧ element.words ≠ [] ∧
        (∀ word ∈ element.words, tokenValues word ≠ []) ∧
        part = .literal (element.words.map Phrase.spelling) ∧ after = taken) ∨
      (element.kind = "optional" ∧ element.elements ≠ [] ∧
        ∃ body, Element.compileEach taken element.elements = .ok (body, after) ∧
          part = .optional body) ∨
      (element.kind = "capture" ∧ ∃ slot, Element.slotName? element.name = some slot ∧
        slot ∉ taken ∧ part = .capture slot ∧ after = taken ++ [slot]) ∨
      (element.kind = "wildcard" ∧ part = .wildcard ∧ after = taken) := by
  rcases element with ⟨kind, words, name, elements⟩
  rw [Element.compile]
  by_cases literal : kind = "literal"
  · subst literal
    cases words with
    | nil => simp
    | cons word words =>
      simp only [reduceIte, List.isEmpty_cons, Bool.false_eq_true, bind_eq_ok_iff,
        Phrase.ofWords_eq_ok_iff, pure, Except.pure, Except.ok.injEq, Prod.mk.injEq]
      constructor
      · rintro ⟨_, ⟨tokens, rfl⟩, rfl, rfl⟩
        exact Or.inl ⟨trivial, by simp, tokens, rfl, rfl⟩
      · rintro (⟨-, -, tokens, rfl, rfl⟩ | ⟨other, -⟩ | ⟨other, -⟩ | ⟨other, -⟩)
        · exact ⟨_, ⟨tokens, rfl⟩, rfl, rfl⟩
        all_goals exact absurd other (by decide)
  by_cases optional : kind = "optional"
  · subst optional
    cases elements with
    | nil => simp
    | cons first rest =>
      simp only [literal, reduceIte, List.isEmpty_cons, Bool.false_eq_true, bind_eq_ok_iff,
        pure, Except.pure, Except.ok.injEq, Prod.mk.injEq]
      constructor
      · rintro ⟨⟨body, between⟩, compiled, rfl, rfl⟩
        exact Or.inr (Or.inl ⟨trivial, by simp, body, compiled, rfl⟩)
      · rintro (⟨other, -⟩ | ⟨-, -, body, compiled, rfl⟩ | ⟨other, -⟩ | ⟨other, -⟩)
        · exact other.elim
        · exact ⟨(body, after), compiled, rfl, rfl⟩
        all_goals exact absurd other (by decide)
  by_cases capture : kind = "capture"
  · subst capture
    cases Element.slotName? name with
    | none => simp
    | some slot =>
      by_cases repeated : slot ∈ taken
      · simp [repeated]
      · simp only [literal, optional, repeated, reduceIte, Except.ok.injEq, Prod.mk.injEq]
        constructor
        · rintro ⟨rfl, rfl⟩
          exact Or.inr (Or.inr (Or.inl ⟨trivial, slot, rfl, repeated, rfl, rfl⟩))
        · rintro (⟨other, -⟩ | ⟨other, -⟩ | ⟨-, _, ⟨⟩, -, rfl, rfl⟩ | ⟨other, -⟩)
          · exact other.elim
          · exact other.elim
          · exact ⟨rfl, rfl⟩
          · exact absurd other (by decide)
  by_cases wildcard : kind = "wildcard"
  · subst wildcard
    simp only [literal, optional, capture, reduceIte, Except.ok.injEq, Prod.mk.injEq, false_and,
      true_and, false_or]
    constructor
    · rintro ⟨rfl, rfl⟩
      exact ⟨rfl, rfl⟩
    · rintro ⟨rfl, rfl⟩
      exact ⟨rfl, rfl⟩
  · simp [literal, optional, capture, wildcard]

/-- The parts that elements make when the slots `taken` are in use before them, with the slots in
use after them. -/
inductive Element.Compiles : List String → List Element → List Part → List String → Prop
  | nil (taken : List String) : Compiles taken [] [] taken
  | literal {taken : List String} {element : Element} {rest : List Element} {parts : List Part}
      {after : List String} (kind : element.kind = "literal") (words : element.words ≠ [])
      (tokens : ∀ word ∈ element.words, tokenValues word ≠ [])
      (tail : Compiles taken rest parts after) :
      Compiles taken (element :: rest)
        (.literal (element.words.map Phrase.spelling) :: parts) after
  | capture {taken : List String} {element : Element} {rest : List Element} {parts : List Part}
      {after : List String} {slot : String} (kind : element.kind = "capture")
      (named : Element.slotName? element.name = some slot) (fresh : slot ∉ taken)
      (tail : Compiles (taken ++ [slot]) rest parts after) :
      Compiles taken (element :: rest) (.capture slot :: parts) after
  | wildcard {taken : List String} {element : Element} {rest : List Element} {parts : List Part}
      {after : List String} (kind : element.kind = "wildcard")
      (tail : Compiles taken rest parts after) :
      Compiles taken (element :: rest) (.wildcard :: parts) after
  | optional {taken between : List String} {element : Element} {rest : List Element}
      {body parts : List Part} {after : List String} (kind : element.kind = "optional")
      (elements : element.elements ≠ []) (inner : Compiles taken element.elements body between)
      (tail : Compiles between rest parts after) :
      Compiles taken (element :: rest) (.optional body :: parts) after

theorem Element.compileEach_cons_eq_ok_iff (taken : List String) (element : Element)
    (rest : List Element) (parts : List Part) (after : List String) :
    Element.compileEach taken (element :: rest) = .ok (parts, after) ↔
      ∃ part between tail, element.compile taken = .ok (part, between) ∧
        Element.compileEach between rest = .ok (tail, after) ∧ parts = part :: tail := by
  simp only [Element.compileEach, bind_eq_ok_iff, pure, Except.pure, Except.ok.injEq,
    Prod.mk.injEq, Prod.exists]
  constructor
  · rintro ⟨part, between, first, tail, _, second, rfl, rfl⟩
    exact ⟨part, between, tail, first, second, rfl⟩
  · rintro ⟨part, between, tail, first, second, rfl⟩
    exact ⟨part, between, first, tail, _, second, rfl, rfl⟩

theorem Element.compiles_of_compileEach (taken : List String) (elements : List Element)
    (parts : List Part) (after : List String)
    (compiled : Element.compileEach taken elements = .ok (parts, after)) :
    Element.Compiles taken elements parts after := by
  match elements with
  | [] =>
    cases compiled
    exact .nil taken
  | element :: rest =>
    obtain ⟨part, between, tail, first, second, rfl⟩ :=
      (Element.compileEach_cons_eq_ok_iff ..).1 compiled
    have remaining := Element.compiles_of_compileEach between rest tail after second
    rcases (Element.compile_eq_ok_iff ..).1 first with
      ⟨kind, words, tokens, rfl, rfl⟩ | ⟨kind, body, inner, compiledBody, rfl⟩ |
      ⟨kind, slot, named, fresh, rfl, rfl⟩ | ⟨kind, rfl, rfl⟩
    · exact .literal kind words tokens remaining
    · have smaller : sizeOf element.elements < 1 + sizeOf element + sizeOf rest := by
        cases element
        simp
        omega
      exact .optional kind body
        (Element.compiles_of_compileEach taken element.elements inner between compiledBody)
        remaining
    · exact .capture kind named fresh remaining
    · exact .wildcard kind remaining
termination_by sizeOf elements

theorem Element.compileEach_of_compiles {taken : List String} {elements : List Element}
    {parts : List Part} {after : List String}
    (compiled : Element.Compiles taken elements parts after) :
    Element.compileEach taken elements = .ok (parts, after) := by
  induction compiled with
  | nil taken => rfl
  | literal kind words tokens _ ih =>
    exact (Element.compileEach_cons_eq_ok_iff ..).2 ⟨_, _, _,
      (Element.compile_eq_ok_iff ..).2 (Or.inl ⟨kind, words, tokens, rfl, rfl⟩), ih, rfl⟩
  | capture kind named fresh _ ih =>
    exact (Element.compileEach_cons_eq_ok_iff ..).2 ⟨_, _, _,
      (Element.compile_eq_ok_iff ..).2
        (Or.inr (Or.inr (Or.inl ⟨kind, _, named, fresh, rfl, rfl⟩))), ih, rfl⟩
  | wildcard kind _ ih =>
    exact (Element.compileEach_cons_eq_ok_iff ..).2 ⟨_, _, _,
      (Element.compile_eq_ok_iff ..).2 (Or.inr (Or.inr (Or.inr ⟨kind, rfl, rfl⟩))), ih, rfl⟩
  | optional kind elements _ _ innerIh ih =>
    exact (Element.compileEach_cons_eq_ok_iff ..).2 ⟨_, _, _,
      (Element.compile_eq_ok_iff ..).2 (Or.inr (Or.inl ⟨kind, elements, _, innerIh, rfl⟩)), ih,
      rfl⟩

/-- The slots in use after some elements are those before them and their own, from left to
right. -/
theorem Element.Compiles.after_eq {taken : List String} {elements : List Element}
    {parts : List Part} {after : List String}
    (compiled : Element.Compiles taken elements parts after) :
    after = taken ++ Part.slotsOf parts := by
  induction compiled with
  | nil taken => simp [Part.slotsOf]
  | literal _ _ _ _ ih => simpa [Part.slotsOf, Part.slots] using ih
  | capture _ _ _ _ ih => simpa [Part.slotsOf, Part.slots] using ih
  | wildcard _ _ ih => simpa [Part.slotsOf, Part.slots] using ih
  | optional _ _ _ _ innerIh ih => simp [Part.slotsOf, Part.slots, ih, innerIh]

theorem Element.Compiles.append {taken between after : List String} {first second : List Element}
    {parts others : List Part} (firstCompiles : Element.Compiles taken first parts between)
    (secondCompiles : Element.Compiles between second others after) :
    Element.Compiles taken (first ++ second) (parts ++ others) after := by
  induction firstCompiles with
  | nil taken => exact secondCompiles
  | literal kind words tokens _ ih => exact .literal kind words tokens (ih secondCompiles)
  | capture kind named fresh _ ih => exact .capture kind named fresh (ih secondCompiles)
  | wildcard kind _ ih => exact .wildcard kind (ih secondCompiles)
  | optional kind elements inner _ _ ih =>
    exact .optional kind elements inner (ih secondCompiles)

theorem Element.Compiles.after_nodup {taken : List String} {elements : List Element}
    {parts : List Part} {after : List String}
    (compiled : Element.Compiles taken elements parts after) (distinct : taken.Nodup) :
    after.Nodup := by
  induction compiled with
  | nil taken => exact distinct
  | literal _ _ _ _ ih => exact ih distinct
  | capture _ _ fresh _ ih =>
    apply ih
    refine List.nodup_append.2 ⟨distinct, by simp, ?_⟩
    rintro name member other single rfl
    exact fresh (List.mem_singleton.1 single ▸ member)
  | wildcard _ _ ih => exact ih distinct
  | optional _ _ _ _ innerIh ih => exact ih (innerIh distinct)

theorem PatternDefinition.compile_eq_ok_iff (definition : PatternDefinition) (pattern : Pattern) :
    definition.compile = .ok pattern ↔ definition.elements ≠ [] ∧
      ∃ after, Element.Compiles [] definition.elements pattern.parts after := by
  rcases definition with ⟨elements⟩
  rcases pattern with ⟨parts⟩
  cases elements with
  | nil => simp [PatternDefinition.compile]
  | cons element rest =>
    simp only [PatternDefinition.compile, List.isEmpty_cons, Bool.false_eq_true, if_false,
      bind_eq_ok_iff, pure, Except.pure, Except.ok.injEq, Pattern.mk.injEq, Prod.exists]
    constructor
    · rintro ⟨_, after, compiled, rfl⟩
      exact ⟨by simp, after, Element.compiles_of_compileEach _ _ _ _ compiled⟩
    · rintro ⟨-, after, compiled⟩
      exact ⟨parts, after, Element.compileEach_of_compiles compiled, rfl⟩

theorem PatternDefinition.slots_nodup {definition : PatternDefinition} {pattern : Pattern}
    (compiled : definition.compile = .ok pattern) : pattern.slots.Nodup := by
  obtain ⟨-, after, parts⟩ := (definition.compile_eq_ok_iff pattern).1 compiled
  have slots := parts.after_eq
  rw [List.nil_append] at slots
  rw [Pattern.slots, ← slots]
  exact parts.after_nodup List.nodup_nil

end SkillDispatch
