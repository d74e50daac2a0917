import SkillDispatch.Proofs.ExactRecognition
import SkillDispatch.Proofs.FirstOccurrences

set_option autoImplicit false

/- What one wildcard more does to a definition. A wildcard may stand for no token, so every
alignment stays one, and nothing scores less. At either end, and beside another wildcard, it stands
for tokens that are gap anyway: the search finds the same alignments, each first one in the same
order, and some of them again. -/
namespace SkillDispatch

open Text

/-- Elements, and the same with one wildcard more: at their start, between any two of them, at their
end, or so in the body of an optional one. -/
inductive Element.GainsWildcard : List Element → List Element → Prop
  | here {extra : Element} (kind : extra.kind = "wildcard") (elements : List Element) :
      GainsWildcard elements (extra :: elements)
  | later {element : Element} {rest longer : List Element} (tail : GainsWildcard rest longer) :
      GainsWildcard (element :: rest) (element :: longer)
  | inside {element : Element} {rest longer : List Element} (kind : element.kind = "optional")
      (body : GainsWildcard element.elements longer) :
      GainsWildcard (element :: rest) ({ element with elements := longer } :: rest)

/-- Elements, and the same with one wildcard more beside a wildcard. -/
inductive Element.DoublesWildcard : List Element → List Element → Prop
  | before {extra wildcard : Element} (kind : extra.kind = "wildcard")
      (present : wildcard.kind = "wildcard") (rest : List Element) :
      DoublesWildcard (wildcard :: rest) (extra :: wildcard :: rest)
  | after {extra wildcard : Element} (kind : extra.kind = "wildcard")
      (present : wildcard.kind = "wildcard") (rest : List Element) :
      DoublesWildcard (wildcard :: rest) (wildcard :: extra :: rest)
  | later {element : Element} {rest longer : List Element} (tail : DoublesWildcard rest longer) :
      DoublesWildcard (element :: rest) (element :: longer)
  | inside {element : Element} {rest longer : List Element} (kind : element.kind = "optional")
      (body : DoublesWildcard element.elements longer) :
      DoublesWildcard (element :: rest) ({ element with elements := longer } :: rest)

namespace PatternDefinition

/-- The definition has one wildcard more than another one. -/
def GainsWildcard (definition wider : PatternDefinition) : Prop :=
  Element.GainsWildcard definition.elements wider.elements

/-- The definition has one wildcard more than another one, and it stands before all elements, after
all of them, or beside a wildcard. -/
inductive GainsIdleWildcard (definition wider : PatternDefinition) : Prop
  | leading {extra : Element} (kind : extra.kind = "wildcard")
      (elements : wider.elements = extra :: definition.elements)
  | trailing {extra : Element} (kind : extra.kind = "wildcard")
      (elements : wider.elements = definition.elements ++ [extra])
  | doubled (elements : Element.DoublesWildcard definition.elements wider.elements)

end PatternDefinition

theorem Element.DoublesWildcard.gains {elements longer : List Element}
    (doubles : Element.DoublesWildcard elements longer) :
    Element.GainsWildcard elements longer := by
  induction doubles with
  | before kind _ rest => exact .here kind _
  | after kind _ rest => exact .later (.here kind rest)
  | later _ ih => exact .later ih
  | inside kind _ ih => exact .inside kind ih

theorem Element.gainsWildcard_append {extra : Element} (kind : extra.kind = "wildcard")
    (elements : List Element) : Element.GainsWildcard elements (elements ++ [extra]) := by
  induction elements with
  | nil => exact .here kind []
  | cons element rest ih => exact .later ih

theorem PatternDefinition.GainsIdleWildcard.gains {definition wider : PatternDefinition}
    (idle : definition.GainsIdleWildcard wider) : definition.GainsWildcard wider := by
  cases idle with
  | leading kind elements =>
    rw [PatternDefinition.GainsWildcard, elements]
    exact .here kind _
  | trailing kind elements =>
    rw [PatternDefinition.GainsWildcard, elements]
    exact Element.gainsWildcard_append kind _
  | doubled elements => exact elements.gains

theorem Element.GainsWildcard.ne_nil {elements longer : List Element}
    (gains : Element.GainsWildcard elements longer) : longer ≠ [] := by
  cases gains <;> simp

/-- A wildcard takes no slot, so what compiles without it compiles with it. -/
theorem Element.GainsWildcard.compiles {elements longer : List Element}
    (gains : Element.GainsWildcard elements longer) {taken after : List String} {parts : List Part}
    (compiled : Element.Compiles taken elements parts after) :
    ∃ longerParts, Element.Compiles taken longer longerParts after := by
  induction gains generalizing taken parts after with
  | here kind elements => exact ⟨_, .wildcard kind compiled⟩
  | later _ ih =>
    cases compiled with
    | literal kind words tokens tail =>
      obtain ⟨longerParts, compiles⟩ := ih tail
      exact ⟨_, .literal kind words tokens compiles⟩
    | capture kind named fresh tail =>
      obtain ⟨longerParts, compiles⟩ := ih tail
      exact ⟨_, .capture kind named fresh compiles⟩
    | wildcard kind tail =>
      obtain ⟨longerParts, compiles⟩ := ih tail
      exact ⟨_, .wildcard kind compiles⟩
    | optional kind elements inner tail =>
      obtain ⟨longerParts, compiles⟩ := ih tail
      exact ⟨_, .optional kind elements inner compiles⟩
  | inside isOptional body ih =>
    cases compiled with
    | literal kind => exact absurd (isOptional.symm.trans kind) (by decide)
    | capture kind => exact absurd (isOptional.symm.trans kind) (by decide)
    | wildcard kind => exact absurd (isOptional.symm.trans kind) (by decide)
    | optional kind elements inner tail =>
      obtain ⟨longerBody, compiles⟩ := ih inner
      exact ⟨_, .optional kind body.ne_nil compiles tail⟩

variable {tokens : List String}

/-- The wildcard may stand for no token, so every laying stays one. -/
theorem Element.GainsWildcard.lays {elements longer : List Element}
    (gains : Element.GainsWildcard elements longer) {start : Nat} {laying : Laying}
    (lays : Element.Lays tokens elements start laying) (inBounds : start ≤ tokens.length) :
    Element.Lays tokens longer start laying := by
  induction gains generalizing start laying with
  | here kind elements =>
    have noToken := Element.Lays.wildcard kind (Nat.le_refl start) inBounds lays
    rw [Laying.underWildcard, Nat.sub_self] at noToken
    rw [← Laying.empty_followedBy start laying]
    exact noToken
  | @later element rest longer _ ih =>
    have split : Element.Lays tokens ([element] ++ rest) start laying := lays
    obtain ⟨head, tail, headLays, tailLays, rfl⟩ := split.exists_of_append
    exact headLays.append (ih tailLays (headLays.bounds inBounds).2)
  | inside isOptional body ih =>
    cases lays with
    | literal kind => exact absurd (isOptional.symm.trans kind) (by decide)
    | capture kind => exact absurd (isOptional.symm.trans kind) (by decide)
    | wildcard kind => exact absurd (isOptional.symm.trans kind) (by decide)
    | taken kind inner tail => exact .taken kind (ih inner inBounds) tail
    | skipped kind tail => exact .skipped kind tail

theorem PatternDefinition.GainsWildcard.aligns {definition wider : PatternDefinition}
    (gains : definition.GainsWildcard wider) {alignment : Alignment}
    (aligns : definition.Aligns tokens alignment) : wider.Aligns tokens alignment := by
  obtain ⟨start, laying, inBounds, lays, rfl⟩ := aligns
  exact ⟨start, laying, inBounds, Element.GainsWildcard.lays gains lays inBounds, rfl⟩

/-- A wildcard in front takes the tokens up to some stop. -/
theorem Element.Lays.exists_of_wildcard {extra : Element} (kind : extra.kind = "wildcard")
    {rest : List Element} {start : Nat} {laying : Laying}
    (lays : Element.Lays tokens (extra :: rest) start laying) :
    ∃ stop remaining, start ≤ stop ∧ stop ≤ tokens.length ∧
      Element.Lays tokens rest stop remaining ∧
      laying = (Laying.underWildcard start stop).followedBy remaining := by
  cases lays with
  | wildcard _ any inBounds tail => exact ⟨_, _, any, inBounds, tail, rfl⟩
  | literal other => exact absurd (kind.symm.trans other) (by decide)
  | capture other => exact absurd (kind.symm.trans other) (by decide)
  | taken other => exact absurd (kind.symm.trans other) (by decide)
  | skipped other => exact absurd (kind.symm.trans other) (by decide)

theorem Laying.underWildcard_followedBy {start middle stop : Nat} (first : start ≤ middle)
    (second : middle ≤ stop) (laying : Laying) :
    (Laying.underWildcard start middle).followedBy
        ((Laying.underWildcard middle stop).followedBy laying) =
      (Laying.underWildcard start stop).followedBy laying := by
  simp only [Laying.followedBy, Laying.underWildcard, Laying.mk.injEq, Nat.zero_add,
    List.nil_append, true_and, and_true]
  omega

/-- A wildcard in front first stands for no token, and the ways without it are found. -/
theorem Element.layingsEach_wildcard {extra : Element} (kind : extra.kind = "wildcard")
    (elements : List Element) (start : Nat) :
    Element.layingsEach tokens (extra :: elements) start =
      Element.layingsEach tokens elements start ++
        (List.range' (start + 1) (tokens.length - start)).flatMap fun stop =>
          (Element.layingsEach tokens elements stop).map
            (Laying.underWildcard start stop).followedBy := by
  have noToken : (Laying.underWildcard start start).followedBy = id := by
    funext laying
    rw [Laying.underWildcard, Nat.sub_self]
    exact Laying.empty_followedBy start laying
  rw [Element.layingsEach, Element.layings_of_wildcard tokens kind, List.range'_succ,
    List.map_cons, List.flatMap_cons, List.flatMap_map]
  show (Element.layingsEach tokens elements start).map
      (Laying.underWildcard start start).followedBy ++ _ = _
  rw [noToken, List.map_id]
  rfl

/-- A wildcard in front of a wildcard finds nothing new. -/
theorem Element.sameFirsts_wildcard {extra wildcard : Element} (kind : extra.kind = "wildcard")
    (present : wildcard.kind = "wildcard") (rest : List Element) {start : Nat}
    (inBounds : start ≤ tokens.length) :
    SameFirsts (Element.layingsEach tokens (extra :: wildcard :: rest) start)
      (Element.layingsEach tokens (wildcard :: rest) start) := by
  rw [Element.layingsEach_wildcard kind]
  apply SameFirsts.append_left
  intro laying member
  obtain ⟨middle, range, inMiddle⟩ := List.mem_flatMap.1 member
  obtain ⟨remaining, found, rfl⟩ := List.mem_map.1 inMiddle
  have bounds := List.mem_range'_1.1 range
  have within : middle ≤ tokens.length := by omega
  have first : start ≤ middle := by omega
  obtain ⟨stop, last, any, stops, tail, rfl⟩ :=
    (Element.lays_of_mem _ middle within remaining found).exists_of_wildcard present
  rw [Laying.underWildcard_followedBy first any]
  exact (Element.Lays.wildcard present (first.trans any) stops tail).mem

theorem Element.layingsEach_wildcard_comm {extra wildcard : Element}
    (kind : extra.kind = "wildcard") (present : wildcard.kind = "wildcard") (rest : List Element)
    (start : Nat) :
    Element.layingsEach tokens (wildcard :: extra :: rest) start =
      Element.layingsEach tokens (extra :: wildcard :: rest) start := by
  have alike : extra.layings tokens = wildcard.layings tokens := by
    funext position
    rw [Element.layings_of_wildcard tokens kind, Element.layings_of_wildcard tokens present]
  simp only [Element.layingsEach, alike]

theorem Element.stop_le_of_mem_layings {element : Element} {start : Nat} {laying : Laying}
    (inBounds : start ≤ tokens.length) (member : laying ∈ element.layings tokens start) :
    laying.stop ≤ tokens.length := by
  have alone : laying.followedBy (.empty laying.stop) ∈
      Element.layingsEach tokens [element] start :=
    (Element.mem_layingsEach_cons_iff ..).2
      ⟨laying, member, .empty laying.stop, List.mem_singleton_self _, rfl⟩
  exact ((Element.lays_of_mem _ start inBounds _ alone).bounds inBounds).2

theorem Element.DoublesWildcard.sameFirsts {elements longer : List Element}
    (doubles : Element.DoublesWildcard elements longer) {start : Nat}
    (inBounds : start ≤ tokens.length) :
    SameFirsts (Element.layingsEach tokens longer start)
      (Element.layingsEach tokens elements start) := by
  induction doubles generalizing start with
  | before kind present rest => exact Element.sameFirsts_wildcard kind present rest inBounds
  | after kind present rest =>
    rw [Element.layingsEach_wildcard_comm kind present]
    exact Element.sameFirsts_wildcard kind present rest inBounds
  | later _ ih =>
    rw [Element.layingsEach, Element.layingsEach]
    apply SameFirsts.flatMap_congr
    intro first member
    exact (ih (Element.stop_le_of_mem_layings inBounds member)).map _
  | @inside element rest longer kind _ ih =>
    have longerKind : ({ element with elements := longer } : Element).kind = "optional" := kind
    rw [Element.layingsEach, Element.layingsEach, Element.layings_of_optional tokens longerKind,
      Element.layings_of_optional tokens kind]
    exact ((ih inBounds).append (.refl _)).flatMap _

/-- Elements in a row are laid one part after the other. -/
theorem Element.layingsEach_append (first second : List Element) (start : Nat) :
    Element.layingsEach tokens (first ++ second) start =
      (Element.layingsEach tokens first start).flatMap fun head =>
        (Element.layingsEach tokens second head.stop).map head.followedBy := by
  induction first generalizing start with
  | nil =>
    have unchanged : (Laying.empty start).followedBy = id :=
      funext (Laying.empty_followedBy start)
    rw [List.nil_append, Element.layingsEach, List.flatMap_singleton, unchanged, List.map_id]
    rfl
  | cons element rest ih =>
    rw [List.cons_append, Element.layingsEach, Element.layingsEach, List.flatMap_assoc]
    apply List.flatMap_congr
    intro head _
    rw [ih, List.flatMap_map, List.map_flatMap]
    apply List.flatMap_congr
    intro middle _
    rw [List.map_map]
    apply List.map_congr_left
    intro tail _
    exact (Laying.followedBy_assoc head middle tail).symm

variable {definition wider : PatternDefinition}

/-- Tokens under a wildcard in front are gap, as those before the start are. -/
theorem Laying.alignment_underWildcard {start stop : Nat} (ordered : start ≤ stop) (count : Nat)
    (laying : Laying) :
    ((Laying.underWildcard start stop).followedBy laying).alignment count start =
      laying.alignment count stop := by
  simp only [Laying.alignment, Laying.followedBy, Laying.underWildcard, Alignment.mk.injEq,
    Nat.zero_add, List.nil_append, true_and, and_true]
  omega

/-- Tokens under a wildcard at the end are gap, as those after the last part are. -/
theorem Laying.alignment_followedBy_underWildcard {laying : Laying} {stop count : Nat}
    (ordered : laying.stop ≤ stop) (inBounds : stop ≤ count) (start : Nat) :
    (laying.followedBy ((Laying.underWildcard laying.stop stop).followedBy (.empty stop))).alignment
        count start = laying.alignment count start := by
  simp only [Laying.alignment, Laying.followedBy, Laying.underWildcard, Laying.empty,
    Alignment.mk.injEq, Nat.add_zero, List.append_nil, true_and, and_true]
  omega

/-- With a wildcard before all elements, all alignments are found from the first start, in their
order. -/
theorem PatternDefinition.alignmentsFrom_leading {extra : Element}
    (kind : extra.kind = "wildcard") (elements : wider.elements = extra :: definition.elements) :
    wider.alignmentsFrom tokens 0 = definition.alignments tokens := by
  rw [alignmentsFrom, elements, Element.layingsEach, Element.layings_of_wildcard tokens kind,
    List.flatMap_map, List.map_flatMap, alignments, Nat.sub_zero, List.range_eq_range']
  apply List.flatMap_congr
  intro stop _
  rw [List.map_map, alignmentsFrom]
  apply List.map_congr_left
  intro laying _
  exact Laying.alignment_underWildcard (Nat.zero_le stop) tokens.length laying

theorem PatternDefinition.sameFirsts_leading {extra : Element} (kind : extra.kind = "wildcard")
    (elements : wider.elements = extra :: definition.elements) :
    SameFirsts (wider.alignments tokens) (definition.alignments tokens) := by
  rw [alignments, List.range_succ_eq_map, List.flatMap_cons, alignmentsFrom_leading kind elements]
  apply SameFirsts.append_left
  -- From a later start, the wildcard takes tokens that another start leaves out.
  intro alignment member
  obtain ⟨start, range, fromStart⟩ := List.mem_flatMap.1 member
  obtain ⟨earlier, inRange, rfl⟩ := List.mem_map.1 range
  have inBounds : earlier.succ ≤ tokens.length := List.mem_range.1 inRange
  obtain ⟨laying, found, rfl⟩ := List.mem_map.1 fromStart
  rw [elements] at found
  rw [definition.mem_alignments_iff]
  obtain ⟨stop, remaining, any, stops, tail, rfl⟩ :=
    (Element.lays_of_mem _ _ inBounds laying found).exists_of_wildcard kind
  exact ⟨stop, remaining, stops, tail, Laying.alignment_underWildcard any _ _⟩

/-- With a wildcard after all elements, every alignment is found once for each number of tokens that
the wildcard may take. -/
theorem PatternDefinition.sameFirsts_trailing {extra : Element} (kind : extra.kind = "wildcard")
    (elements : wider.elements = definition.elements ++ [extra]) :
    SameFirsts (wider.alignments tokens) (definition.alignments tokens) := by
  rw [alignments, alignments]
  apply SameFirsts.flatMap_congr
  intro start range
  have inBounds : start ≤ tokens.length := Nat.lt_succ_iff.1 (List.mem_range.1 range)
  rw [alignmentsFrom, alignmentsFrom, elements, Element.layingsEach_append, List.map_flatMap,
    List.map_eq_flatMap]
  apply SameFirsts.flatMap_congr
  intro laying member
  have within := ((Element.lays_of_mem _ start inBounds laying member).bounds inBounds).2
  apply SameFirsts.of_forall_eq
  · rw [Element.layingsEach_wildcard kind, Element.layingsEach]
    simp
  · intro alignment found
    obtain ⟨_, inMap, rfl⟩ := List.mem_map.1 found
    obtain ⟨tail, inTail, rfl⟩ := List.mem_map.1 inMap
    obtain ⟨stop, remaining, any, stops, last, rfl⟩ :=
      (Element.lays_of_mem _ _ within tail inTail).exists_of_wildcard kind
    cases last
    exact Laying.alignment_followedBy_underWildcard any stops start

/-- An idle wildcard leaves the order in which each alignment is first found. -/
theorem PatternDefinition.GainsIdleWildcard.sameFirsts
    (idle : definition.GainsIdleWildcard wider) (tokens : List String) :
    SameFirsts (wider.alignments tokens) (definition.alignments tokens) := by
  cases idle with
  | leading kind elements => exact sameFirsts_leading kind elements
  | trailing kind elements => exact sameFirsts_trailing kind elements
  | doubled elements =>
    apply SameFirsts.flatMap_congr
    intro start range
    exact (elements.sameFirsts (Nat.lt_succ_iff.1 (List.mem_range.1 range))).map _

theorem PatternDefinition.GainsIdleWildcard.choice_eq
    (idle : definition.GainsIdleWildcard wider) (tokens : List String) :
    wider.choice tokens = definition.choice tokens :=
  ((idle.sameFirsts tokens).filter _).argmax _

/-- With any wildcard more there is a choice that is as good. -/
theorem PatternDefinition.GainsWildcard.exists_choice (gains : definition.GainsWildcard wider)
    {chosen : Alignment} (isChoice : definition.choice tokens = some chosen) :
    ∃ better, wider.choice tokens = some better ∧ chosen.merit ≤ better.merit := by
  have competes : chosen ∈ (wider.alignments tokens).filter (0 < ·.literal) := by
    obtain ⟨member, positive⟩ := List.mem_filter.1 (List.argmax_mem isChoice)
    have aligns := gains.aligns ((definition.mem_alignments_iff chosen).1 member)
    exact List.mem_filter.2 ⟨(wider.mem_alignments_iff chosen).2 aligns, positive⟩
  cases isBest : wider.choice tokens with
  | none =>
    rw [choice, List.argmax_eq_none] at isBest
    rw [isBest] at competes
    cases competes
  | some better => exact ⟨better, rfl, List.le_of_mem_argmax competes isBest⟩

theorem PatternDefinition.GainsWildcard.exists_pattern (gains : definition.GainsWildcard wider)
    {pattern : Pattern} (compiled : definition.compile = .ok pattern) :
    ∃ widerPattern, wider.compile = .ok widerPattern := by
  obtain ⟨-, after, parts⟩ := (definition.compile_eq_ok_iff pattern).1 compiled
  obtain ⟨widerParts, compiles⟩ := Element.GainsWildcard.compiles gains parts
  have some : wider.elements ≠ [] := Element.GainsWildcard.ne_nil gains
  exact ⟨⟨widerParts⟩, (wider.compile_eq_ok_iff _).2 ⟨some, after, compiles⟩⟩

/-- The score of some patterns is no lower than that of others: as a fraction, and as a double where
doubles keep the order of the shares. -/
structure ScoresNoLower (utterance : Utterance) (patterns others : List Pattern) : Prop where
  exact : (recognizeExactly others utterance).score ≤ (recognizeExactly patterns utterance).score
  rounded : SharesInOrder utterance.length →
    ¬(recognize literalShare patterns utterance).score <
      (recognize literalShare others utterance).score

/-- Some patterns come to the same score and the same slots as others. -/
structure ComesToSame (utterance : Utterance) (patterns others : List Pattern) : Prop where
  exact : recognizeExactly patterns utterance = recognizeExactly others utterance
  rounded : SharesInOrder utterance.length →
    recognize literalShare patterns utterance = recognize literalShare others utterance

/-- Where doubles keep the order of the shares, some patterns come to the pattern and the slots that
they come to with fractions. -/
def FollowsFractions (utterance : Utterance) (patterns : List Pattern) : Prop :=
  SharesInOrder utterance.length →
    (recognize literalShare patterns utterance).pattern =
        (recognizeExactly patterns utterance).pattern ∧
      (recognize literalShare patterns utterance).slots =
        (recognizeExactly patterns utterance).slots

variable {pattern widerPattern : Pattern}

theorem CompileTo.append_cons {earlier later : List PatternDefinition} {before after : List Pattern}
    (compiledBefore : CompileTo earlier before) (compiled : definition.compile = .ok pattern)
    (compiledAfter : CompileTo later after) :
    CompileTo (earlier ++ definition :: later) (before ++ pattern :: after) :=
  List.rel_append compiledBefore (.cons compiled compiledAfter)

theorem PatternDefinition.GainsWildcard.scoresNoLower (gains : definition.GainsWildcard wider)
    (compiled : definition.compile = .ok pattern) (widerCompiled : wider.compile = .ok widerPattern)
    (utterance : Utterance) (before after : List Pattern) :
    ScoresNoLower utterance (before ++ widerPattern :: after) (before ++ pattern :: after) where
  exact := by
    apply recognizeExactly_score_le
    intro chosen aligned
    rw [definition.alignExactly_eq_choice compiled] at aligned
    obtain ⟨better, isChoice, merit⟩ := gains.exists_choice aligned
    rw [wider.alignExactly_eq_choice widerCompiled]
    exact ⟨better, isChoice, Prod.Lex.monotone_fst _ _ merit⟩
  rounded := by
    intro ordered
    apply recognize_score_not_lt
    intro found aligned
    rw [definition.align_eq_choice compiled ordered, Option.map_eq_some_iff] at aligned
    obtain ⟨chosen, isChosen, rfl⟩ := aligned
    obtain ⟨better, isChoice, merit⟩ := gains.exists_choice isChosen
    have aligns : definition.Aligns utterance.values chosen :=
      (definition.mem_alignments_iff chosen).1 (List.mem_of_mem_filter (List.argmax_mem isChosen))
    have betterAligns : wider.Aligns utterance.values better :=
      (wider.mem_alignments_iff better).1 (List.mem_of_mem_filter (List.argmax_mem isChoice))
    have keys := (Alignment.scored_key_le_iff ordered (gains.aligns aligns) betterAligns).2 merit
    rw [wider.align_eq_choice widerCompiled ordered, isChoice]
    refine ⟨_, rfl, ?_⟩
    rw [Confidence.lt_iff_rank, not_lt]
    exact Prod.Lex.monotone_fst _ _ keys

theorem PatternDefinition.GainsIdleWildcard.comesToSame (idle : definition.GainsIdleWildcard wider)
    (compiled : definition.compile = .ok pattern) (widerCompiled : wider.compile = .ok widerPattern)
    (utterance : Utterance) (before after : List Pattern) :
    ComesToSame utterance (before ++ widerPattern :: after) (before ++ pattern :: after) where
  exact := by
    apply recognizeExactly_congr
    rw [wider.alignExactly_eq_choice widerCompiled, definition.alignExactly_eq_choice compiled,
      idle.choice_eq]
  rounded := by
    intro ordered
    apply recognize_congr
    rw [wider.align_eq_choice widerCompiled ordered, definition.align_eq_choice compiled ordered,
      idle.choice_eq]

/-- With one wildcard more in a definition it still compiles, and whatever the other patterns are,
the score is no lower. Before the first element, after the last one, and beside a wildcard, it
changes neither the score nor the slots. If the other patterns are compiled too, then recognition
follows the fractions before and after the change. -/
theorem recognize_wildcard (compiled : definition.compile = .ok pattern)
    (gains : definition.GainsWildcard wider) (utterance : Utterance) (before after : List Pattern) :
    ∃ widerPattern, wider.compile = .ok widerPattern ∧
      ScoresNoLower utterance (before ++ widerPattern :: after) (before ++ pattern :: after) ∧
      (definition.GainsIdleWildcard wider →
        ComesToSame utterance (before ++ widerPattern :: after) (before ++ pattern :: after)) ∧
      ∀ earlier later, CompileTo earlier before → CompileTo later after →
        FollowsFractions utterance (before ++ pattern :: after) ∧
        FollowsFractions utterance (before ++ widerPattern :: after) := by
  obtain ⟨widerPattern, widerCompiled⟩ := gains.exists_pattern compiled
  refine ⟨widerPattern, widerCompiled, ?_, ?_, ?_⟩
  · exact gains.scoresNoLower compiled widerCompiled utterance before after
  · intro idle
    exact idle.comesToSame compiled widerCompiled utterance before after
  · intro earlier later compiledBefore compiledAfter
    have all := compiledBefore.append_cons compiled compiledAfter
    have allWider := compiledBefore.append_cons widerCompiled compiledAfter
    exact ⟨recognize_eq_exactly all, recognize_eq_exactly allWider⟩

/-- A song by an artist, with something said before it. -/
def saySong : PatternDefinition :=
  ⟨.wildcard :: playSong.elements⟩

theorem saySong_idle : playSong.GainsIdleWildcard saySong :=
  .leading rfl rfl

/-- A wildcard before the first element leaves the slots as they are. -/
theorem recognize_wildcard_saySong :
    playSong.compile = .ok playSongPattern ∧ playSong.GainsWildcard saySong ∧
      ∃ widerPattern, saySong.compile = .ok widerPattern ∧
        (recognize literalShare [widerPattern] (.ofText "please play hello by adele")).slots =
          (recognize literalShare [playSongPattern] (.ofText "please play hello by adele")).slots ∧
        (recognize literalShare [playSongPattern]
          (.ofText "please play hello by adele")).slots.text? "song" = some "hello" := by
  refine ⟨playSong_compile, saySong_idle.gains, ?_⟩
  obtain ⟨widerPattern, compiled, -, same, -⟩ := recognize_wildcard playSong_compile
    saySong_idle.gains (.ofText "please play hello by adele") [] []
  have count : (Utterance.ofText "please play hello by adele").length = 5 := by decide +kernel
  have ordered : SharesInOrder (Utterance.ofText "please play hello by adele").length := by
    rw [count]
    exact sharesInOrder_of_lt (by decide)
  exact ⟨widerPattern, compiled, congrArg Match.slots ((same saySong_idle).rounded ordered),
    by decide +kernel⟩

end SkillDispatch
