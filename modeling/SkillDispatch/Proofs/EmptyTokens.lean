import SkillDispatch.Proofs.Compilation
import SkillDispatch.Proofs.Folding
import SkillDispatch.Proofs.TokenRuns
import SkillDispatch.Recognition

set_option autoImplicit false

/- Tokens of which folding leaves nothing. A vowel sign of an Indic script is a letter of its token
and a mark that folding drops, so a token of such signs alone has an empty value. Compilation counts
the tokens of a word and does not look at their values: a literal may ask for an empty value, and
every token of marks alone has it. -/
namespace SkillDispatch

open Text Unicode

def Token.Vanishes (token : Token) : Prop :=
  ∀ c ∈ token.surface.toList, isMark c = true

/-- The tokens of marks alone are those with an empty value. -/
theorem Token.value_eq_empty_iff {text : String} {token : Token} (member : token ∈ tokenize text) :
    token.value = "" ↔ token.Vanishes := by
  obtain ⟨run, -, -, isToken⟩ := exists_run_of_mem_tokenize member
  have value : token.value = String.ofList (fold run.chars) := by rw [isToken]; rfl
  have surface : token.surface = String.ofList run.chars := by rw [isToken]; rfl
  rw [value, Token.Vanishes, surface, String.toList_ofList, ← fold_eq_nil_iff,
    ← String.toList_inj, String.toList_ofList]
  rfl

/-- Some folded form of a word is not empty unless all of its tokens are marks. -/
theorem exists_value_ne_empty_iff (word : String) :
    (∃ value ∈ tokenValues word, value ≠ "") ↔ ∃ token ∈ tokenize word, ¬token.Vanishes := by
  rw [tokenValues]
  constructor
  · rintro ⟨value, inValues, some⟩
    obtain ⟨token, member, rfl⟩ := List.mem_map.1 inValues
    exact ⟨token, member, mt (Token.value_eq_empty_iff member).2 some⟩
  · rintro ⟨token, member, stays⟩
    exact ⟨token.value, List.mem_map_of_mem member, mt (Token.value_eq_empty_iff member).1 stays⟩

theorem empty_mem_tokenValues_iff (word : String) :
    "" ∈ tokenValues word ↔ ∃ token ∈ tokenize word, token.Vanishes := by
  rw [tokenValues, List.mem_map]
  exact exists_congr fun token => and_congr_right Token.value_eq_empty_iff

/-! ### Spellings -/

mutual

/-- The spellings in a part, from left to right. -/
def Part.phrases : Part → List Phrase
  | .literal phrases => phrases
  | .capture _ => []
  | .wildcard => []
  | .optional body => Part.phrasesOf body

def Part.phrasesOf : List Part → List Phrase
  | [] => []
  | part :: rest => part.phrases ++ Part.phrasesOf rest

end

def Pattern.phrases (pattern : Pattern) : List Phrase :=
  Part.phrasesOf pattern.parts

/-- Each spelling that compilation makes is that of a word with tokens. -/
theorem Element.Compiles.exists_word {taken after : List String} {elements : List Element}
    {parts : List Part} (compiled : Element.Compiles taken elements parts after) {phrase : Phrase}
    (member : phrase ∈ Part.phrasesOf parts) :
    ∃ word, tokenValues word ≠ [] ∧ phrase = Phrase.spelling word := by
  induction compiled with
  | nil => cases member
  | literal _ _ tokens _ ih =>
    rw [Part.phrasesOf, Part.phrases, List.mem_append] at member
    rcases member with here | later
    · obtain ⟨word, inWords, rfl⟩ := List.mem_map.1 here
      exact ⟨word, tokens word inWords, rfl⟩
    · exact ih later
  | capture _ _ _ _ ih => exact ih member
  | wildcard _ _ ih => exact ih member
  | optional _ _ _ _ innerIh ih =>
    rw [Part.phrasesOf, Part.phrases, List.mem_append] at member
    exact member.elim innerIh ih

/-- Where the empty values of a spelling come from, and what they match. -/
structure Phrase.EmptyValues (word : String) (phrase : Phrase) : Prop where
  spelling : phrase = Phrase.spelling word
  tokens : tokenize word ≠ []
  /-- A value that is not empty comes of a token that is more than marks. -/
  some : (∃ value ∈ phrase.tokens, value ≠ "") ↔ ∃ token ∈ tokenize word, ¬token.Vanishes
  empty : "" ∈ phrase.tokens ↔ ∃ token ∈ tokenize word, token.Vanishes
  /-- A token equals an empty value exactly when it is made of marks alone. -/
  matched : ∀ text, ∀ token ∈ tokenize text,
    (token.value = "" ∧ token.value ∈ phrase.tokens) ↔ token.Vanishes ∧ "" ∈ phrase.tokens

theorem Phrase.emptyValues_spelling {word : String} (tokens : tokenValues word ≠ []) :
    (Phrase.spelling word).EmptyValues word where
  spelling := rfl
  tokens := mt List.map_eq_nil_iff.2 tokens
  some := exists_value_ne_empty_iff word
  empty := empty_mem_tokenValues_iff word
  matched := by
    intro text token member
    rw [← Token.value_eq_empty_iff member]
    exact and_congr_right fun empty => by rw [empty]

/-- Empty values come of marks alone. A token has one exactly when it is made of marks, and a
spelling in a pattern holds one exactly when its word has such a token. -/
theorem compile_emptyValues {definition : PatternDefinition} {pattern : Pattern}
    (compiled : definition.compile = .ok pattern) :
    (∀ text, ∀ token ∈ tokenize text, token.value = "" ↔ token.Vanishes) ∧
      ∀ phrase ∈ pattern.phrases, ∃ word, phrase.EmptyValues word := by
  refine ⟨fun text token member => Token.value_eq_empty_iff member, fun phrase member => ?_⟩
  obtain ⟨-, after, parts⟩ := (definition.compile_eq_ok_iff pattern).1 compiled
  obtain ⟨word, tokens, rfl⟩ := parts.exists_word member
  exact ⟨word, Phrase.emptyValues_spelling tokens⟩

/-- A pattern of one literal, the vowel sign aa alone. -/
def vowelSign : PatternDefinition :=
  ⟨[.literal ["\u093E"]]⟩

theorem vowelSign_compile : vowelSign.compile = .ok ⟨[.literal [⟨"\u093E", [""]⟩]]⟩ := by
  have spelling : Phrase.spelling "\u093E" = ⟨"\u093E", [""]⟩ := by decide +kernel
  have tokens : tokenValues "\u093E" ≠ [] := by decide +kernel
  refine (vowelSign.compile_eq_ok_iff _).2 ⟨List.cons_ne_nil _ _, [], ?_⟩
  have literal : Element.Compiles [] vowelSign.elements
      [.literal (["\u093E"].map Phrase.spelling)] [] :=
    .literal rfl (List.cons_ne_nil _ _) (List.forall_mem_singleton.2 tokens) (.nil [])
  rwa [List.map_singleton, spelling] at literal

theorem compile_emptyValues_vowelSign :
    vowelSign.compile = .ok ⟨[.literal [⟨"\u093E", [""]⟩]]⟩ ∧
      ∃ word, (Phrase.mk "\u093E" [""]).EmptyValues word :=
  ⟨vowelSign_compile, (compile_emptyValues vowelSign_compile).2 _ (List.mem_singleton.2 rfl)⟩

/-- Compilation accepts a literal of which no value is left, and the literal matches a text with
nothing in common: the one vowel sign stands for the other. -/
theorem vowelSign_matches_other :
    (∃ token ∈ tokenize "\u093E", token.value = "") ∧
      vowelSign.compile = .ok ⟨[.literal [⟨"\u093E", [""]⟩]]⟩ ∧
      (recognize literalShare [⟨[.literal [⟨"\u093E", [""]⟩]]⟩] (.ofText "\u093F")).score ==
        .certain ∧
      (recognize literalShare [⟨[.literal [⟨"\u093E", [""]⟩]]⟩] (.ofText "\u093F")).pattern =
        some 0 :=
  ⟨by decide +kernel, vowelSign_compile, by decide +kernel, by decide +kernel⟩

end SkillDispatch
