import SkillDispatch.Proofs.ExhaustiveSearch

set_option autoImplicit false

namespace SkillDispatch

/-- Elements that are alike but for their words, each of which stands for one that is the same in the
given sense. -/
inductive Element.Respells (same : String → String → Prop) : List Element → List Element → Prop
  | nil : Respells same [] []
  | cons {element other : Element} {rest others : List Element}
      (kind : other.kind = element.kind) (name : other.name = element.name)
      (words : List.Forall₂ same element.words other.words)
      (body : Respells same element.elements other.elements)
      (tail : Respells same rest others) : Respells same (element :: rest) (other :: others)

def PatternDefinition.Respells (same : String → String → Prop)
    (definition other : PatternDefinition) : Prop :=
  Element.Respells same definition.elements other.elements

def SameValues (first second : String) : Prop :=
  tokenValues second = tokenValues first

variable {same weaker : String → String → Prop} {elements others : List Element}

theorem Element.Respells.imp (weaken : ∀ first second, same first second → weaker first second)
    (respells : Respells same elements others) : Respells weaker elements others := by
  induction respells with
  | nil => exact .nil
  | cons kind name words _ _ bodyIh ih =>
    exact .cons kind name (words.imp fun first second => weaken first second) bodyIh ih

theorem Element.Respells.ne_nil (respells : Respells same elements others)
    (some : elements ≠ []) : others ≠ [] := by
  cases respells with
  | nil => exact absurd rfl some
  | cons => exact List.cons_ne_nil _ _

/-- Of the phrases of a literal, the values alone count. -/
theorem Column.beforeLiteral_congr {phrases others : List Phrase}
    (same : phrases.map Phrase.tokens = others.map Phrase.tokens) (tokens : List Token)
    (next : Column) : next.beforeLiteral tokens phrases = next.beforeLiteral tokens others := by
  have valuesAlone : ∀ found : List Phrase, next.beforeLiteral tokens found =
      .tabulate tokens.length fun position =>
        .mergeAll (((found.map Phrase.tokens).filter fun values =>
          Phrase.standsAt tokens position ⟨"", values⟩).map fun values =>
            (next.frontierAt (position + values.length)).afterLiteral values.length) := by
    intro found
    rw [Column.beforeLiteral]
    congr 1
    funext position
    rw [List.filter_map, List.map_map]
    rfl
  rw [valuesAlone, valuesAlone, same]

theorem SameValues.map_eq {words others : List String}
    (same : List.Forall₂ SameValues words others) :
    others.map tokenValues = words.map tokenValues := by
  induction same with
  | nil => rfl
  | cons here _ ih => exact congrArg₂ List.cons here ih

/-- Respelled elements compile to parts that are solved alike. -/
theorem Element.Respells.compiles (respells : Respells SameValues elements others)
    {taken after : List String} {parts : List Part}
    (compiled : Element.Compiles taken elements parts after) :
    ∃ otherParts, Element.Compiles taken others otherParts after ∧
      ∀ tokens next, Part.solveEach tokens otherParts next = Part.solveEach tokens parts next := by
  induction compiled generalizing others with
  | nil taken =>
    cases respells
    exact ⟨[], .nil taken, fun _ _ => rfl⟩
  | literal isKind words tokens _ ih =>
    cases respells with
    | cons kind name respelled body tail =>
      obtain ⟨otherParts, compiles, solved⟩ := ih tail
      have values := SameValues.map_eq respelled
      refine ⟨_, .literal (kind.trans isKind) ?_ ?_ compiles, fun _ next => ?_⟩
      · exact fun none => words (List.map_eq_nil_iff.1 (none ▸ values).symm)
      · intro word member
        have inValues := List.mem_map_of_mem (f := tokenValues) member
        rw [values] at inValues
        obtain ⟨original, inWords, isValues⟩ := List.mem_map.1 inValues
        exact isValues ▸ tokens original inWords
      · simp only [Part.solveEach, Part.solve, solved]
        refine Column.beforeLiteral_congr ?_ _ _
        rw [List.map_map, List.map_map]
        exact values
  | capture isKind named fresh _ ih =>
    cases respells with
    | cons kind name respelled body tail =>
      obtain ⟨otherParts, compiles, solved⟩ := ih tail
      refine ⟨_, .capture (kind.trans isKind) (name ▸ named) fresh compiles, fun values next => ?_⟩
      simp only [Part.solveEach, solved]
  | wildcard isKind _ ih =>
    cases respells with
    | cons kind name respelled body tail =>
      obtain ⟨otherParts, compiles, solved⟩ := ih tail
      refine ⟨_, .wildcard (kind.trans isKind) compiles, fun values next => ?_⟩
      simp only [Part.solveEach, solved]
  | optional isKind some _ _ bodyIh ih =>
    cases respells with
    | cons kind name respelled body tail =>
      obtain ⟨otherBody, bodyCompiles, bodySolved⟩ := bodyIh body
      obtain ⟨otherParts, compiles, solved⟩ := ih tail
      refine ⟨_, .optional (kind.trans isKind) (body.ne_nil some) bodyCompiles compiles,
        fun values next => ?_⟩
      simp only [Part.solveEach, Part.solve, solved, bodySolved]

theorem Recognition.bestFit_congr {scorer : Scorer} {tokens : List Token}
    {patterns others : List Pattern}
    (same : List.Forall₂
      (fun pattern other => other.align scorer tokens = pattern.align scorer tokens) patterns others)
    (index : Nat) (kept : Option Fit) :
    bestFit scorer tokens index others kept = bestFit scorer tokens index patterns kept := by
  induction same generalizing index kept with
  | nil => rfl
  | cons here _ ih =>
    simp only [bestFit, here, ih]

theorem PatternDefinition.Respells.compiles {definition other : PatternDefinition}
    (respells : definition.Respells SameValues other) {pattern : Pattern}
    (compiled : definition.compile = .ok pattern) :
    ∃ otherPattern, other.compile = .ok otherPattern ∧
      ∀ scorer tokens, otherPattern.align scorer tokens = pattern.align scorer tokens := by
  obtain ⟨some, after, parts⟩ := (definition.compile_eq_ok_iff pattern).1 compiled
  obtain ⟨otherParts, compiles, solved⟩ := Element.Respells.compiles respells parts
  refine ⟨⟨otherParts⟩, (other.compile_eq_ok_iff _).2
    ⟨Element.Respells.ne_nil respells some, after, compiles⟩, fun scorer tokens => ?_⟩
  rw [Pattern.align, Pattern.align, Alignment.candidates, Alignment.candidates, solved]

theorem CompileTo.respell {definitions others : List PatternDefinition} {patterns : List Pattern}
    (compiled : CompileTo definitions patterns)
    (respells : List.Forall₂ (PatternDefinition.Respells SameValues) definitions others) :
    ∃ otherPatterns, CompileTo others otherPatterns ∧ ∀ scorer utterance,
      recognize scorer otherPatterns utterance = recognize scorer patterns utterance := by
  have aligned : ∃ otherPatterns, CompileTo others otherPatterns ∧
      List.Forall₂ (fun pattern other => ∀ scorer tokens,
        Pattern.align scorer other tokens = Pattern.align scorer pattern tokens)
        patterns otherPatterns := by
    induction compiled generalizing others with
    | nil =>
      cases respells
      exact ⟨[], .nil, .nil⟩
    | cons compiles _ ih =>
      cases respells with
      | cons here later =>
        obtain ⟨otherPattern, otherCompiles, alike⟩ := here.compiles compiles
        obtain ⟨otherPatterns, otherCompiled, rest⟩ := ih later
        exact ⟨otherPattern :: otherPatterns, .cons otherCompiles otherCompiled, .cons alike rest⟩
  obtain ⟨otherPatterns, otherCompiled, alike⟩ := aligned
  refine ⟨otherPatterns, otherCompiled, fun scorer utterance => ?_⟩
  rw [recognize, recognize, Recognition.bestFit_congr]
  exact alike.imp fun _ _ same => same scorer utterance.tokens

end SkillDispatch
