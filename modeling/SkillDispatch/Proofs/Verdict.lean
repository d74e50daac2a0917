import SkillDispatch.Proofs.Compilation

set_option autoImplicit false

/- The verdict of compilation. A definition is walked through depth first and from left to right;
whether something offends depends only on it and on what the walk met before. Compilation succeeds
exactly when nothing offends, and else reports the first offence. -/
namespace SkillDispatch

inductive Station
  | atElement (element : Element)
  | atWord (word : String)

mutual

/-- The walk through an element: first the element, then the words of a literal or the body of an
optional element. Nothing else that an element may hold is met. -/
def Element.walk : Element → List Station
  | ⟨kind, words, name, elements⟩ =>
    .atElement ⟨kind, words, name, elements⟩ ::
      if kind = "literal" then words.map .atWord
      else if kind = "optional" then Element.walkEach elements
      else []

def Element.walkEach : List Element → List Station
  | [] => []
  | element :: rest => element.walk ++ Element.walkEach rest

end

/-- The name of a capture, without the white space at its ends. -/
def Station.captureName? : Station → Option String
  | .atElement element => if element.kind = "capture" then element.name.map trimmed else none
  | .atWord _ => none

/-- The names of the captures on a walk, in its order. -/
def captureNames (walk : List Station) : List String :=
  walk.filterMap Station.captureName?

/-- What is wrong with a station that the walk meets after those in `before`. -/
inductive Station.Offends (before : List Station) : Station → PatternFault → Prop
  | noWords {element : Element} (kind : element.kind = "literal") (none : element.words = []) :
      Offends before (.atElement element) .noWords
  | noTokens {word : String} (none : tokenValues word = []) :
      Offends before (.atWord word) (.noTokens word)
  | noBody {element : Element} (kind : element.kind = "optional") (none : element.elements = []) :
      Offends before (.atElement element) .noBody
  | noSlotName {element : Element} (kind : element.kind = "capture")
      (blank : ∀ name, element.name = some name → trimmed name = "") :
      Offends before (.atElement element) .noSlotName
  | repeatedSlot {element : Element} {name : String} (kind : element.kind = "capture")
      (named : element.name = some name) (notBlank : trimmed name ≠ "")
      (repeated : trimmed name ∈ captureNames before) :
      Offends before (.atElement element) (.repeatedSlot (trimmed name))
  | unknownKind {element : Element}
      (other : element.kind ∉ ["literal", "optional", "capture", "wildcard"]) :
      Offends before (.atElement element) (.unknownKind element.kind)

/-- The first station that offends on a walk that goes on after `before`, with what is wrong. -/
inductive FirstOffence : List Station → List Station → PatternFault → Prop
  | here {before rest : List Station} {station : Station} {fault : PatternFault}
      (offends : station.Offends before fault) : FirstOffence before (station :: rest) fault
  | later {before rest : List Station} {station : Station} {fault : PatternFault}
      (sound : ∀ other, ¬station.Offends before other)
      (first : FirstOffence (before ++ [station]) rest fault) :
      FirstOffence before (station :: rest) fault

/-- Nothing offends on a walk that goes on after `before`. -/
inductive Clean : List Station → List Station → Prop
  | nil (before : List Station) : Clean before []
  | cons {before rest : List Station} {station : Station}
      (sound : ∀ fault, ¬station.Offends before fault) (tail : Clean (before ++ [station]) rest) :
      Clean before (station :: rest)

/-- An element that makes sense by itself. What its kind does not use may be anything. -/
inductive Element.Valid : Element → Prop
  | literal {element : Element} (kind : element.kind = "literal") (words : element.words ≠ [])
      (tokens : ∀ word ∈ element.words, tokenValues word ≠ []) : Valid element
  | optional {element : Element} (kind : element.kind = "optional") (body : element.elements ≠ [])
      (each : ∀ inner ∈ element.elements, Valid inner) : Valid element
  | capture {element : Element} {name : String} (kind : element.kind = "capture")
      (named : element.name = some name) (notBlank : trimmed name ≠ "") : Valid element
  | wildcard {element : Element} (kind : element.kind = "wildcard") : Valid element

theorem Element.walk_of_literal {element : Element} (kind : element.kind = "literal") :
    element.walk = .atElement element :: element.words.map .atWord := by
  rcases element with ⟨_, words, name, elements⟩
  subst kind
  rw [Element.walk, if_pos rfl]

theorem Element.walk_of_optional {element : Element} (kind : element.kind = "optional") :
    element.walk = .atElement element :: Element.walkEach element.elements := by
  rcases element with ⟨_, words, name, elements⟩
  subst kind
  rw [Element.walk, if_neg (by decide), if_pos rfl]

theorem Element.walk_of_leaf {element : Element} (notLiteral : element.kind ≠ "literal")
    (notOptional : element.kind ≠ "optional") : element.walk = [.atElement element] := by
  rcases element with ⟨_, words, name, elements⟩
  rw [Element.walk, if_neg notLiteral, if_neg notOptional]

@[simp] theorem captureNames_append (first second : List Station) :
    captureNames (first ++ second) = captureNames first ++ captureNames second :=
  List.filterMap_append

theorem captureNames_words (words : List String) : captureNames (words.map .atWord) = [] := by
  simp [captureNames, Station.captureName?]

theorem captureNames_cons_of_not_capture {element : Element} (kind : element.kind ≠ "capture")
    (rest : List Station) : captureNames (.atElement element :: rest) = captureNames rest := by
  simp [captureNames, Station.captureName?, kind]

/-- The name of a capture, if it is not blank, is the slot of the capture. -/
theorem Element.slotName?_eq_some_iff (name : Option String) (slot : String) :
    Element.slotName? name = some slot ↔ name.map trimmed = some slot ∧ slot ≠ "" := by
  unfold Element.slotName?
  cases name.map trimmed with
  | none => simp
  | some text =>
    simp only [String.isEmpty_iff, Option.some.injEq]
    constructor
    · intro named
      split at named
      · cases named
      · rename_i notBlank
        cases named
        exact ⟨rfl, notBlank⟩
    · rintro ⟨rfl, notBlank⟩
      exact if_neg notBlank

theorem Element.slotName?_eq_none_iff (name : Option String) :
    Element.slotName? name = none ↔ ∀ text, name = some text → trimmed text = "" := by
  cases name with
  | none => simp [Element.slotName?]
  | some text => simp [Element.slotName?]

theorem captureNames_of_capture {element : Element} (kind : element.kind = "capture")
    {slot : String} (named : Element.slotName? element.name = some slot) :
    captureNames element.walk = [slot] := by
  rw [Element.walk_of_leaf (by rw [kind]; decide) (by rw [kind]; decide)]
  simp [captureNames, Station.captureName?, kind,
    ((Element.slotName?_eq_some_iff ..).1 named).1]

section offences

variable {before : List Station} {element : Element} {fault : PatternFault}

theorem Station.offends_word_iff (word : String) :
    (Station.atWord word).Offends before fault ↔
      tokenValues word = [] ∧ fault = .noTokens word := by
  constructor
  · rintro ⟨⟩
    exact ⟨by assumption, rfl⟩
  · rintro ⟨none, rfl⟩
    exact .noTokens none

theorem Station.offends_literal_iff (kind : element.kind = "literal") :
    (Station.atElement element).Offends before fault ↔ element.words = [] ∧ fault = .noWords := by
  constructor
  · intro offends
    cases offends <;> simp_all
  · rintro ⟨none, rfl⟩
    exact .noWords kind none

theorem Station.offends_optional_iff (kind : element.kind = "optional") :
    (Station.atElement element).Offends before fault ↔
      element.elements = [] ∧ fault = .noBody := by
  constructor
  · intro offends
    cases offends <;> simp_all
  · rintro ⟨none, rfl⟩
    exact .noBody kind none

theorem Station.offends_capture_iff (kind : element.kind = "capture") :
    (Station.atElement element).Offends before fault ↔
      (Element.slotName? element.name = none ∧ fault = .noSlotName) ∨
      ∃ slot, Element.slotName? element.name = some slot ∧ slot ∈ captureNames before ∧
        fault = .repeatedSlot slot := by
  constructor
  · intro offends
    cases offends with
    | noSlotName _ blank => exact Or.inl ⟨(Element.slotName?_eq_none_iff _).2 blank, rfl⟩
    | @repeatedSlot _ name _ named notBlank repeated =>
      have slot := (Element.slotName?_eq_some_iff element.name (trimmed name)).2
        ⟨by rw [named]; rfl, notBlank⟩
      exact Or.inr ⟨trimmed name, slot, repeated, rfl⟩
    | noWords other | noBody other => exact absurd (kind.symm.trans other) (by decide)
    | unknownKind other => exact absurd (by rw [kind]; decide) other
  · rintro (⟨noSlot, rfl⟩ | ⟨slot, isSlot, repeated, rfl⟩)
    · exact .noSlotName kind ((Element.slotName?_eq_none_iff _).1 noSlot)
    · obtain ⟨named, notBlank⟩ := (Element.slotName?_eq_some_iff ..).1 isSlot
      obtain ⟨name, isName, rfl⟩ := Option.map_eq_some_iff.1 named
      exact .repeatedSlot kind isName notBlank repeated

theorem Station.not_offends_wildcard (kind : element.kind = "wildcard") :
    ¬(Station.atElement element).Offends before fault := by
  intro offends
  cases offends <;> simp_all

theorem Station.offends_unknown_iff
    (other : element.kind ∉ ["literal", "optional", "capture", "wildcard"]) :
    (Station.atElement element).Offends before fault ↔ fault = .unknownKind element.kind := by
  constructor
  · intro offends
    cases offends <;> simp_all
  · rintro rfl
    exact .unknownKind other

theorem Station.Offends.unique {station : Station} {other : PatternFault}
    (offends : station.Offends before fault) (offendsToo : station.Offends before other) :
    fault = other := by
  cases offends <;> cases offendsToo <;> simp_all

end offences

section walks

variable {before first second walk : List Station} {fault other : PatternFault}

theorem FirstOffence.unique (offence : FirstOffence before walk fault)
    (offenceToo : FirstOffence before walk other) : fault = other := by
  induction offence with
  | here offends =>
    cases offenceToo with
    | here offendsToo => exact offends.unique offendsToo
    | later sound _ => exact absurd offends (sound _)
  | later sound _ ih =>
    cases offenceToo with
    | here offendsToo => exact absurd offendsToo (sound _)
    | later _ rest => exact ih rest

theorem Clean.not_firstOffence (clean : Clean before walk) : ¬FirstOffence before walk fault := by
  intro offence
  induction clean with
  | nil _ => cases offence
  | cons sound _ ih =>
    cases offence with
    | here offends => exact sound _ offends
    | later _ rest => exact ih rest

theorem Clean.append (clean : Clean before first) (tail : Clean (before ++ first) second) :
    Clean before (first ++ second) := by
  induction clean with
  | nil before => simpa using tail
  | cons sound _ ih =>
    refine .cons sound (ih ?_)
    simpa using tail

theorem FirstOffence.append_left (offence : FirstOffence before first fault) :
    FirstOffence before (first ++ second) fault := by
  induction offence with
  | here offends => exact .here offends
  | later sound _ ih => exact .later sound ih

theorem FirstOffence.append_right (clean : Clean before first)
    (offence : FirstOffence (before ++ first) second fault) :
    FirstOffence before (first ++ second) fault := by
  induction clean with
  | nil before => simpa using offence
  | cons sound _ ih =>
    refine .later sound (ih ?_)
    simpa using offence

end walks

/-- What compilation comes to on a walk that goes on after `before`: a result if the walk is clean,
with the names on it added to those before, and else the first offence. -/
def Verdict {α : Type} (before walk : List Station) :
    Except PatternFault (α × List String) → Prop
  | .ok (_, after) => Clean before walk ∧ after = captureNames (before ++ walk)
  | .error fault => FirstOffence before walk fault

theorem Phrase.ofWords_verdict (before : List Station) (words : List String) :
    match Phrase.ofWords words with
    | .ok _ => Clean before (words.map .atWord)
    | .error fault => FirstOffence before (words.map .atWord) fault := by
  induction words generalizing before with
  | nil => exact .nil before
  | cons word rest ih =>
    have remaining := ih (before ++ [.atWord word])
    rw [Phrase.ofWords, List.map_cons, Phrase.ofWord]
    cases tokens : tokenValues word with
    | nil => exact .here (.noTokens tokens)
    | cons token others =>
      have sound : ∀ fault, ¬(Station.atWord word).Offends before fault := by
        intro fault offends
        have none := ((Station.offends_word_iff word).1 offends).1
        rw [tokens] at none
        cases none
      cases outcome : Phrase.ofWords rest with
      | ok phrases =>
        rw [outcome] at remaining
        exact .cons sound remaining
      | error fault =>
        rw [outcome] at remaining
        exact .later sound remaining

theorem Verdict.bind {α β γ : Type} {before first second : List Station}
    {outcome : Except PatternFault (α × List String)}
    (next : List String → Except PatternFault (β × List String)) (join : α → β → γ)
    (verdict : Verdict before first outcome)
    (rest : Verdict (before ++ first) second (next (captureNames (before ++ first)))) :
    Verdict before (first ++ second) (do
      let (head, between) ← outcome
      let (tail, after) ← next between
      return (join head tail, after)) := by
  cases outcome with
  | error fault => exact FirstOffence.append_left verdict
  | ok pair =>
    obtain ⟨head, between⟩ := pair
    obtain ⟨clean, rfl⟩ := verdict
    show Verdict before (first ++ second) (next (captureNames (before ++ first)) >>= _)
    generalize next (captureNames (before ++ first)) = outcome at rest ⊢
    cases outcome with
    | error fault => exact FirstOffence.append_right clean rest
    | ok pair =>
      obtain ⟨tail, after⟩ := pair
      obtain ⟨cleanRest, rfl⟩ := rest
      exact ⟨clean.append cleanRest, by rw [List.append_assoc]⟩

theorem Element.literal_verdict (before : List Station) {element : Element}
    (kind : element.kind = "literal") :
    Verdict before element.walk (element.compile (captureNames before)) := by
  have notCapture : element.kind ≠ "capture" := by rw [kind]; decide
  have offends := @Station.offends_literal_iff before element
  rw [Element.walk_of_literal kind]
  rcases element with ⟨_, words, name, elements⟩
  subst kind
  rw [Element.compile, if_pos rfl]
  cases words with
  | nil => exact .here (.noWords rfl rfl)
  | cons word rest =>
    have sound : ∀ fault, ¬(Station.atElement ⟨"literal", word :: rest, name, elements⟩).Offends
        before fault := by
      intro fault offence
      exact absurd ((offends rfl).1 offence).1 (List.cons_ne_nil _ _)
    have phrases := Phrase.ofWords_verdict
      (before ++ [.atElement ⟨"literal", word :: rest, name, elements⟩]) (word :: rest)
    rw [if_neg (by simp)]
    cases outcome : Phrase.ofWords (word :: rest) with
    | error fault =>
      rw [outcome] at phrases
      exact .later sound phrases
    | ok found =>
      rw [outcome] at phrases
      refine ⟨.cons sound phrases, ?_⟩
      rw [captureNames_append, captureNames_cons_of_not_capture notCapture, captureNames_words,
        List.append_nil]

theorem Element.optional_verdict (before : List Station) {element : Element}
    (kind : element.kind = "optional")
    (body : ∀ prior, Verdict prior (Element.walkEach element.elements)
      (Element.compileEach (captureNames prior) element.elements)) :
    Verdict before element.walk (element.compile (captureNames before)) := by
  have notCapture : element.kind ≠ "capture" := by rw [kind]; decide
  have offends := @Station.offends_optional_iff before element
  have inner := body (before ++ [.atElement element])
  have names : captureNames (before ++ [.atElement element]) = captureNames before := by
    rw [captureNames_append, captureNames_cons_of_not_capture notCapture]
    exact List.append_nil _
  rw [names] at inner
  rw [Element.walk_of_optional kind]
  rcases element with ⟨_, words, name, elements⟩
  subst kind
  rw [Element.compile, if_neg (by decide), if_pos rfl]
  cases elements with
  | nil => exact .here (.noBody rfl rfl)
  | cons first rest =>
    have sound : ∀ fault, ¬(Station.atElement ⟨"optional", words, name, first :: rest⟩).Offends
        before fault := by
      intro fault offence
      exact absurd ((offends rfl).1 offence).1 (List.cons_ne_nil _ _)
    rw [if_neg (by simp)]
    dsimp only at inner
    generalize Element.compileEach (captureNames before) (first :: rest) = outcome at inner ⊢
    cases outcome with
    | error fault => exact .later sound inner
    | ok pair =>
      obtain ⟨parts, after⟩ := pair
      obtain ⟨clean, rfl⟩ := inner
      refine ⟨.cons sound clean, ?_⟩
      rw [List.append_assoc, List.singleton_append]

theorem Element.capture_verdict (before : List Station) {element : Element}
    (kind : element.kind = "capture") :
    Verdict before element.walk (element.compile (captureNames before)) := by
  have offends := @Station.offends_capture_iff before element
  have names := @captureNames_of_capture element kind
  rw [Element.walk_of_leaf (by rw [kind]; decide) (by rw [kind]; decide)] at names ⊢
  rcases element with ⟨_, words, name, elements⟩
  subst kind
  rw [Element.compile, if_neg (by decide), if_neg (by decide), if_pos rfl]
  cases named : Element.slotName? name with
  | none => exact .here ((offends rfl).2 (Or.inl ⟨named, rfl⟩))
  | some slot =>
    dsimp only
    by_cases repeated : slot ∈ captureNames before
    · rw [if_pos repeated]
      exact .here ((offends rfl).2 (Or.inr ⟨slot, named, repeated, rfl⟩))
    · rw [if_neg repeated]
      refine ⟨.cons ?_ (.nil _), ?_⟩
      · intro fault offence
        rcases (offends rfl).1 offence with ⟨noSlot, -⟩ | ⟨other, isSlot, already, -⟩
        · rw [named] at noSlot
          cases noSlot
        · rw [named] at isSlot
          cases isSlot
          exact repeated already
      · rw [captureNames_append, names named]

/-- The verdict on one element, if that on the body of an optional element is known. -/
theorem Element.compile_verdict (before : List Station) (element : Element)
    (body : ∀ prior, Verdict prior (Element.walkEach element.elements)
      (Element.compileEach (captureNames prior) element.elements)) :
    Verdict before element.walk (element.compile (captureNames before)) := by
  by_cases literal : element.kind = "literal"
  · exact element.literal_verdict before literal
  by_cases optional : element.kind = "optional"
  · exact element.optional_verdict before optional body
  by_cases capture : element.kind = "capture"
  · exact element.capture_verdict before capture
  have unchanged : captureNames (before ++ [.atElement element]) = captureNames before := by
    rw [captureNames_append, captureNames_cons_of_not_capture capture]
    exact List.append_nil _
  rw [Element.walk_of_leaf literal optional]
  have offends := @Station.offends_unknown_iff before element
  have noOffence := @Station.not_offends_wildcard before element
  rcases element with ⟨kind, words, name, elements⟩
  rw [Element.compile, if_neg literal, if_neg optional, if_neg capture]
  by_cases wildcard : kind = "wildcard"
  · rw [if_pos wildcard]
    exact ⟨.cons (fun fault => noOffence wildcard) (.nil _), unchanged.symm⟩
  · rw [if_neg wildcard]
    exact .here ((offends (by simp [literal, optional, capture, wildcard])).2 rfl)

/-- Compilation of elements that come after a walk reports the first offence among them, and
succeeds if there is none. -/
theorem Element.compileEach_verdict (before : List Station) (elements : List Element) :
    Verdict before (Element.walkEach elements)
      (Element.compileEach (captureNames before) elements) := by
  match elements with
  | [] => exact ⟨.nil before, by rw [Element.walkEach, List.append_nil]⟩
  | element :: rest =>
    have smaller : sizeOf element.elements < 1 + sizeOf element + sizeOf rest := by
      cases element
      simp
      omega
    rw [Element.walkEach, Element.compileEach]
    exact Verdict.bind (fun taken => Element.compileEach taken rest) List.cons
      (element.compile_verdict before fun prior =>
        Element.compileEach_verdict prior element.elements)
      (Element.compileEach_verdict (before ++ element.walk) rest)
termination_by sizeOf elements

theorem captureNames_of_literal {element : Element} (kind : element.kind = "literal") :
    captureNames element.walk = [] := by
  rw [Element.walk_of_literal kind, captureNames_cons_of_not_capture (by rw [kind]; decide),
    captureNames_words]

theorem captureNames_of_optional {element : Element} (kind : element.kind = "optional") :
    captureNames element.walk = captureNames (Element.walkEach element.elements) := by
  rw [Element.walk_of_optional kind, captureNames_cons_of_not_capture (by rw [kind]; decide)]

theorem captureNames_of_wildcard {element : Element} (kind : element.kind = "wildcard") :
    captureNames element.walk = [] := by
  rw [Element.walk_of_leaf (by rw [kind]; decide) (by rw [kind]; decide),
    captureNames_cons_of_not_capture (by rw [kind]; decide)]
  rfl

/-- The slots of the parts are the names of the captures, in the order of the walk. -/
theorem Element.Compiles.slots_eq {taken after : List String} {elements : List Element}
    {parts : List Part} (compiled : Element.Compiles taken elements parts after) :
    Part.slotsOf parts = captureNames (Element.walkEach elements) := by
  induction compiled with
  | nil taken => rfl
  | literal kind _ _ _ ih =>
    rw [Element.walkEach, captureNames_append, captureNames_of_literal kind, ← ih]
    rfl
  | capture kind named _ _ ih =>
    rw [Element.walkEach, captureNames_append, captureNames_of_capture kind named, ← ih]
    rfl
  | wildcard kind _ ih =>
    rw [Element.walkEach, captureNames_append, captureNames_of_wildcard kind, ← ih]
    rfl
  | optional kind _ _ _ innerIh ih =>
    rw [Element.walkEach, captureNames_append, captureNames_of_optional kind, ← ih, ← innerIh]
    rfl

theorem Element.Compiles.valid {taken after : List String} {elements : List Element}
    {parts : List Part} (compiled : Element.Compiles taken elements parts after) :
    ∀ element ∈ elements, element.Valid := by
  induction compiled with
  | nil taken => nofun
  | literal kind words tokens _ ih =>
    exact List.forall_mem_cons.2 ⟨.literal kind words tokens, ih⟩
  | capture kind named _ _ ih =>
    obtain ⟨trimmedTo, notBlank⟩ := (Element.slotName?_eq_some_iff ..).1 named
    obtain ⟨name, isName, rfl⟩ := Option.map_eq_some_iff.1 trimmedTo
    exact List.forall_mem_cons.2 ⟨.capture kind isName notBlank, ih⟩
  | wildcard kind _ ih => exact List.forall_mem_cons.2 ⟨.wildcard kind, ih⟩
  | optional kind elements _ _ innerIh ih =>
    exact List.forall_mem_cons.2 ⟨.optional kind elements innerIh, ih⟩

/-- Elements that make sense compile, if no name of a capture is taken or comes twice. -/
theorem Element.exists_compiles_of_valid (taken : List String) (elements : List Element)
    (valid : ∀ element ∈ elements, element.Valid)
    (distinct : (taken ++ captureNames (Element.walkEach elements)).Nodup) :
    ∃ parts, Element.Compiles taken elements parts
      (taken ++ captureNames (Element.walkEach elements)) := by
  match elements with
  | [] =>
    rw [Element.walkEach, captureNames, List.filterMap_nil, List.append_nil]
    exact ⟨[], .nil taken⟩
  | element :: rest =>
    obtain ⟨validHere, validRest⟩ := List.forall_mem_cons.1 valid
    rw [Element.walkEach, captureNames_append] at distinct ⊢
    cases validHere with
    | literal kind words tokens =>
      rw [captureNames_of_literal kind, List.nil_append] at distinct ⊢
      obtain ⟨parts, compiles⟩ := Element.exists_compiles_of_valid taken rest validRest distinct
      exact ⟨_, .literal kind words tokens compiles⟩
    | @capture _ name kind named notBlank =>
      have slot := (Element.slotName?_eq_some_iff element.name (trimmed name)).2
        ⟨by rw [named]; rfl, notBlank⟩
      rw [captureNames_of_capture kind slot, ← List.append_assoc] at distinct ⊢
      have fresh : trimmed name ∉ taken := by
        intro already
        have apart := (List.nodup_append.1 (List.nodup_append.1 distinct).1).2.2
        exact apart _ already _ (List.mem_singleton_self _) rfl
      obtain ⟨parts, compiles⟩ :=
        Element.exists_compiles_of_valid (taken ++ [trimmed name]) rest validRest distinct
      exact ⟨_, .capture kind slot fresh compiles⟩
    | wildcard kind =>
      rw [captureNames_of_wildcard kind, List.nil_append] at distinct ⊢
      obtain ⟨parts, compiles⟩ := Element.exists_compiles_of_valid taken rest validRest distinct
      exact ⟨_, .wildcard kind compiles⟩
    | optional kind body each =>
      have smaller : sizeOf element.elements < 1 + sizeOf element + sizeOf rest := by
        cases element
        simp
        omega
      rw [captureNames_of_optional kind, ← List.append_assoc] at distinct ⊢
      obtain ⟨inner, innerCompiles⟩ := Element.exists_compiles_of_valid taken element.elements
        each (List.nodup_append.1 distinct).1
      obtain ⟨parts, compiles⟩ := Element.exists_compiles_of_valid
        (taken ++ captureNames (Element.walkEach element.elements)) rest validRest distinct
      exact ⟨_, .optional kind body innerCompiles compiles⟩
termination_by sizeOf elements

namespace PatternDefinition

def walk (definition : PatternDefinition) : List Station :=
  Element.walkEach definition.elements

variable {definition : PatternDefinition}

theorem exists_compile_iff (definition : PatternDefinition) :
    (∃ pattern, definition.compile = .ok pattern) ↔ definition.elements ≠ [] ∧
      (∀ element ∈ definition.elements, element.Valid) ∧ (captureNames definition.walk).Nodup := by
  constructor
  · rintro ⟨pattern, compiled⟩
    obtain ⟨some, after, parts⟩ := (definition.compile_eq_ok_iff pattern).1 compiled
    have distinct := PatternDefinition.slots_nodup compiled
    rw [Pattern.slots, parts.slots_eq] at distinct
    exact ⟨some, parts.valid, distinct⟩
  · rintro ⟨some, valid, distinct⟩
    obtain ⟨parts, compiles⟩ :=
      Element.exists_compiles_of_valid [] definition.elements valid distinct
    exact ⟨⟨parts⟩, (definition.compile_eq_ok_iff ⟨parts⟩).2 ⟨some, _, compiles⟩⟩

theorem slots_eq_captureNames {pattern : Pattern} (compiled : definition.compile = .ok pattern) :
    pattern.slots = captureNames definition.walk := by
  obtain ⟨-, after, parts⟩ := (definition.compile_eq_ok_iff pattern).1 compiled
  exact parts.slots_eq

theorem compile_eq_error_iff (definition : PatternDefinition) (fault : PatternFault) :
    definition.compile = .error fault ↔
      (definition.elements = [] ∧ fault = .noElements) ∨ FirstOffence [] definition.walk fault := by
  have verdict := Element.compileEach_verdict [] definition.elements
  rcases definition with ⟨elements⟩
  cases elements with
  | nil =>
    constructor
    · rintro ⟨⟩
      exact Or.inl ⟨rfl, rfl⟩
    · rintro (⟨-, rfl⟩ | offence)
      · rfl
      · cases offence
  | cons element rest =>
    rw [compile, if_neg (by simp)]
    dsimp only at verdict ⊢
    show (Element.compileEach (captureNames []) (element :: rest) >>= _) = _ ↔ _
    generalize Element.compileEach (captureNames []) (element :: rest) = outcome at verdict ⊢
    cases outcome with
    | ok pair =>
      constructor
      · rintro ⟨⟩
      · rintro (⟨none, -⟩ | offence)
        · cases none
        · exact absurd offence verdict.1.not_firstOffence
    | error first =>
      constructor
      · rintro ⟨⟩
        exact Or.inr verdict
      · rintro (⟨none, -⟩ | offence)
        · cases none
        · rw [FirstOffence.unique offence verdict]
          rfl

end PatternDefinition

/-- When a definition compiles, what it compiles to, and what is reported if it does not. -/
structure CompileLaw (definition : PatternDefinition) : Prop where
  /-- A definition compiles exactly when it has elements, all of them make sense, and no two
  captures have the same name. -/
  accepts : (∃ pattern, definition.compile = .ok pattern) ↔ definition.elements ≠ [] ∧
    (∀ element ∈ definition.elements, element.Valid) ∧ (captureNames definition.walk).Nodup
  /-- The slots are the names of the captures, in the order of the walk. -/
  slots : ∀ pattern, definition.compile = .ok pattern →
    pattern.slots = captureNames definition.walk
  /-- What is reported is the first offence on the walk, or that there is nothing to walk. -/
  rejects : ∀ fault, definition.compile = .error fault ↔
    (definition.elements = [] ∧ fault = .noElements) ∨ FirstOffence [] definition.walk fault

theorem compile_law (definition : PatternDefinition) : CompileLaw definition where
  accepts := definition.exists_compile_iff
  slots := fun _ compiled => PatternDefinition.slots_eq_captureNames compiled
  rejects := definition.compile_eq_error_iff

-- The names are the same only without their white space, and the empty body comes after them.
example :
    (PatternDefinition.mk [.capture "song", .optional [.capture " song ", .optional []]]).compile =
      .error (.repeatedSlot "song") := by rfl

end SkillDispatch
