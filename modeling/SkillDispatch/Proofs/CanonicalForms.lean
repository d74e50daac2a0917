import SkillDispatch.Proofs.DecomposedTokens
import SkillDispatch.Proofs.Respelling
import SkillDispatch.Proofs.Spelling

set_option autoImplicit false

namespace SkillDispatch

open Text Unicode

/-! ### Canonical decomposition -/

theorem decompose_of_mem_decomposed {chars : List Char} {c : Char}
    (member : c ∈ decomposed chars) : decompose c = [c] := by
  rw [decomposed, mem_canonicalOrder] at member
  obtain ⟨letter, -, isPiece⟩ := List.mem_flatMap.1 member
  exact (decompose_splits letter).whole c isPiece

theorem flatMap_decompose_decomposed (chars : List Char) :
    (decomposed chars).flatMap decompose = decomposed chars := by
  have whole : ∀ pieces : List Char, (∀ c ∈ pieces, decompose c = [c]) →
      pieces.flatMap decompose = pieces := by
    intro pieces
    induction pieces with
    | nil => exact fun _ => rfl
    | cons c rest ih =>
      intro each
      obtain ⟨here, later⟩ := List.forall_mem_cons.1 each
      rw [List.flatMap_cons, here, ih later]
      rfl
  exact whole _ fun c member => decompose_of_mem_decomposed member

theorem ordered_decomposed (chars : List Char) : Ordered (decomposed chars) := by
  rw [decomposed]
  exact ordered_canonicalOrder _

theorem decomposed_decomposed (chars : List Char) :
    decomposed (decomposed chars) = decomposed chars := by
  have again : decomposed (decomposed chars) =
      canonicalOrder ((decomposed chars).flatMap decompose) := by rw [decomposed]
  rw [again, flatMap_decompose_decomposed, canonicalOrder_of_ordered (ordered_decomposed chars)]

theorem toList_nfd (text : String) : (nfd text).toList = decomposed text.toList := by
  rw [nfd, String.toList_ofList]

theorem nfd_nfd (text : String) : nfd (nfd text) = nfd text := by
  rw [← String.toList_inj, toList_nfd, toList_nfd, decomposed_decomposed]

/-! ### Texts that keep their tokens -/

/-- A text whose tokens stay whole when it is decomposed, and in which canonical order mixes no marks
that separate tokens with others. -/
structure KeepsTokens (text : String) : Prop where
  unmixed : Unmixed (text.toList.flatMap decompose)
  whole : ∀ token ∈ tokenize text, StaysWhole token.surface.toList

theorem forall_tokens_iff_forall_runs (text : String) :
    (∀ token ∈ tokenize text, StaysWhole token.surface.toList) ↔
      ∀ run ∈ runs 0 text.toList, run.isToken = true → StaysWhole run.chars := by
  constructor
  · intro whole run inRuns isToken
    obtain ⟨index, inside, isRun⟩ :=
      List.getElem_of_mem (List.mem_filter.2 ⟨inRuns, isToken⟩)
    have member : Token.ofRun index run ∈ tokenize text :=
      List.mem_mapIdx.2 ⟨index, inside, isRun ▸ rfl⟩
    have stays := whole _ member
    rwa [show (Token.ofRun index run).surface.toList = run.chars from String.toList_ofList]
      at stays
  · intro whole token member
    obtain ⟨run, inRuns, isToken, isOf⟩ := exists_run_of_mem_tokenize member
    rw [isOf, show (Token.ofRun token.position run).surface.toList = run.chars from
      String.toList_ofList]
    exact whole run inRuns isToken

/-- Decomposition keeps the values of the tokens exactly when it keeps the tokens whole. -/
theorem tokenValues_nfd_iff {text : String} (unmixed : Unmixed (text.toList.flatMap decompose)) :
    tokenValues (nfd text) = tokenValues text ↔
      ∀ token ∈ tokenize text, StaysWhole token.surface.toList := by
  have ordered := valuesOf_canonicalOrder unmixed []
  rw [List.nil_append, List.nil_append] at ordered
  rw [tokenValues_eq_valuesOf, tokenValues_eq_valuesOf, toList_nfd, decomposed, ordered,
    valuesOf_decompose_iff 0, forall_tokens_iff_forall_runs]

theorem KeepsTokens.tokenValues_nfd {text : String} (keeps : KeepsTokens text) :
    tokenValues (nfd text) = tokenValues text :=
  (tokenValues_nfd_iff keeps.unmixed).2 keeps.whole

theorem keepsTokens_nfd (text : String) : KeepsTokens (nfd text) := by
  have unmixed : Unmixed ((nfd text).toList.flatMap decompose) := by
    rw [toList_nfd, flatMap_decompose_decomposed]
    exact unmixed_of_ordered (ordered_decomposed _)
  have same : tokenValues (nfd (nfd text)) = tokenValues (nfd text) := by rw [nfd_nfd]
  exact ⟨unmixed, (tokenValues_nfd_iff unmixed).1 same⟩

/-! ### Canonically equivalent texts -/

/-- Canonically equivalent texts that keep their tokens. -/
structure SameText (first second : String) : Prop where
  equivalent : nfd first = nfd second
  first : KeepsTokens first
  second : KeepsTokens second

theorem SameText.sameValues {first second : String} (same : SameText first second) :
    SameValues first second := by
  rw [SameValues, ← same.second.tokenValues_nfd, ← same.first.tokenValues_nfd, same.equivalent]

theorem KeepsTokens.sameText_nfd {text : String} (keeps : KeepsTokens text) :
    SameText text (nfd text) :=
  ⟨(nfd_nfd text).symm, keeps, keepsTokens_nfd text⟩

/-- How far the form of a text counts. -/
structure NfdLaw (text : String) : Prop where
  /-- The folded form is the same in either form. -/
  normalized : normalize (nfd text) = normalize text
  /-- The values of the tokens are the same in either form exactly when the tokens stay whole. -/
  values : Unmixed (text.toList.flatMap decompose) →
    (tokenValues (nfd text) = tokenValues text ↔
      ∀ token ∈ tokenize text, StaysWhole token.surface.toList)
  /-- A text that keeps its tokens is, in this respect, the same as its decomposition. -/
  decomposed : KeepsTokens text → SameText text (nfd text)
  /-- Texts that are the same have the same values, -/
  equal : ∀ other, SameText text other → tokenValues other = tokenValues text
  /-- and to write an utterance, or the words of patterns, in one form or another makes no difference
  to what is recognized. -/
  recognized : ∀ other, SameText text other → ∀ definitions patterns others,
    CompileTo definitions patterns →
    List.Forall₂ (PatternDefinition.Respells SameText) definitions others →
    ∃ otherPatterns, CompileTo others otherPatterns ∧ ∀ scorer,
      (recognize scorer otherPatterns (.ofText other)).score =
          (recognize scorer patterns (.ofText text)).score ∧
        (recognize scorer otherPatterns (.ofText other)).pattern =
          (recognize scorer patterns (.ofText text)).pattern

theorem nfd_law (text : String) : NfdLaw text where
  normalized := normalize_nfd text
  values := tokenValues_nfd_iff
  decomposed := KeepsTokens.sameText_nfd
  equal := fun _ same => same.sameValues
  recognized := by
    intro other same definitions patterns others compiled respells
    have respelled : List.Forall₂ (PatternDefinition.Respells SameValues) definitions others :=
      respells.imp fun _ _ respelled =>
        Element.Respells.imp (fun _ _ => SameText.sameValues) respelled
    have values : (Utterance.ofText other).values = (Utterance.ofText text).values :=
      same.sameValues
    obtain ⟨otherPatterns, otherCompiled, unchanged⟩ := compiled.respell respelled
    refine ⟨otherPatterns, otherCompiled, fun scorer => ?_⟩
    rw [unchanged]
    have alike := recognize_alike scorer patterns values
    exact ⟨alike.score_eq, alike.pattern_eq⟩

def findCafe (cafe : String) : PatternDefinition :=
  ⟨[.literal [cafe], .capture "place"]⟩

theorem findCafe_compile :
    (findCafe "café").compile = .ok ⟨[.literal [⟨"café", ["cafe"]⟩], .capture "place"]⟩ := by
  have spelling : Phrase.spelling "café" = ⟨"café", ["cafe"]⟩ := by decide +kernel
  have tokens : tokenValues "café" ≠ [] := by decide +kernel
  have slot : Element.slotName? (some "place") = some "place" := by decide +kernel
  refine ((findCafe "café").compile_eq_ok_iff _).2 ⟨List.cons_ne_nil _ _, ["place"], ?_⟩
  have parts : Element.Compiles [] (findCafe "café").elements
      (.literal (["café"].map Phrase.spelling) :: [.capture "place"]) ["place"] :=
    .literal rfl (List.cons_ne_nil _ _) (List.forall_mem_singleton.2 tokens)
      (.capture rfl slot List.not_mem_nil (.nil _))
  rwa [List.map_singleton, spelling] at parts

/-- An accent at the end of a word may be a mark of its own, and Hangul letters may stand alone. -/
theorem nfd_law_cafe :
    KeepsTokens "Café 한국" ∧ nfd "Café 한국" ≠ "Café 한국" ∧
      tokenValues (nfd "Café 한국") = tokenValues "Café 한국" ∧
      ∃ patterns, CompileTo [findCafe (nfd "café")] patterns ∧ ∀ scorer,
        (recognize scorer patterns (.ofText (nfd "Café 한국"))).score =
            (recognize scorer [⟨[.literal [⟨"café", ["cafe"]⟩], .capture "place"]⟩]
              (.ofText "Café 한국")).score ∧
          (recognize scorer patterns (.ofText (nfd "Café 한국"))).pattern =
            (recognize scorer [⟨[.literal [⟨"café", ["cafe"]⟩], .capture "place"]⟩]
              (.ofText "Café 한국")).pattern := by
  have keeps : KeepsTokens "Café 한국" := ⟨by decide +kernel, by decide +kernel⟩
  have cafe : KeepsTokens "café" := ⟨by decide +kernel, by decide +kernel⟩
  have respells : (findCafe "café").Respells SameText (findCafe (nfd "café")) :=
    .cons rfl rfl (.cons cafe.sameText_nfd .nil) .nil (.cons rfl rfl .nil .nil .nil)
  have law := nfd_law "Café 한국"
  have same := law.decomposed keeps
  exact ⟨keeps, by decide +kernel, law.equal _ same,
    law.recognized _ same _ _ _ (.cons findCafe_compile .nil) (.cons respells .nil)⟩

/-- An accent inside of a word separates it once it is a mark of its own, and so does a mark that
canonical order brings between letters and a mark that belongs to them. -/
theorem tokenValues_nfd_ne :
    tokenValues "élève" = ["eleve"] ∧ tokenValues (nfd "élève") = ["e", "le", "ve"] ∧
      (recognize literalShare [⟨[.literal [⟨"élève", ["eleve"]⟩]]⟩] (.ofText "élève")).pattern =
        some 0 ∧
      (recognize literalShare [⟨[.literal [⟨"élève", ["eleve"]⟩]]⟩]
        (.ofText (nfd "élève"))).pattern = none ∧
      (∀ token ∈ tokenize "ba\u0301\u064B", StaysWhole token.surface.toList) ∧
      tokenValues "ba\u0301\u064B" = ["ba", ""] ∧
      tokenValues (nfd "ba\u0301\u064B") = ["ba"] :=
  ⟨by decide +kernel, by decide +kernel, by decide +kernel, by decide +kernel, by decide +kernel,
    by decide +kernel, by decide +kernel⟩

end SkillDispatch
