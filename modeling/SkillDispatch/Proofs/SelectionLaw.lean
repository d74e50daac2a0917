import SkillDispatch.Dispatcher
import SkillDispatch.Proofs.BestFit
import SkillDispatch.Skill.Chain
import SkillDispatch.Skill.PausedClock

set_option autoImplicit false

namespace SkillDispatch

variable {κ ι : Type}

/-- The best of some candidates above a threshold, the first one of equally good ones. -/
structure BestAbove (threshold : Float) (candidates : List (κ × Match))
    (answer : Option (κ × Match)) : Prop where
  /-- There is no answer exactly when no candidate is a match with a score above the threshold. -/
  none_iff : answer = none ↔ ∀ candidate ∈ candidates,
    ¬(candidate.2.isMatch = true ∧ threshold < candidate.2.score.value)
  /-- An answer is one of the candidates that are. No match has a higher score, and those before it
  that are above the threshold have lower scores. -/
  chosen : ∀ best, answer = some best → ∃ before after, candidates = before ++ best :: after ∧
    (best.2.isMatch = true ∧ threshold < best.2.score.value) ∧
    (∀ other ∈ candidates, other.2.isMatch = true → ¬best.2.score < other.2.score) ∧
    ∀ earlier ∈ before, earlier.2.isMatch = true ∧ threshold < earlier.2.score.value →
      earlier.2.score < best.2.score

theorem Match.exceeds_iff (found : Match) (threshold : Float) :
    found.exceeds threshold = true ↔ found.isMatch = true ∧ threshold < found.score.value := by
  rw [Match.exceeds, Bool.and_eq_true, decide_eq_true_iff]

/-- The rank of a candidate is that of its score. -/
def candidateRank (candidate : κ × Match) : ℤ ×ₗ ℤ ×ₗ ℤ :=
  candidate.2.score.rank

theorem bestOf_eq_argmax (threshold : Float) (candidates : List (κ × Match)) :
    bestOf threshold candidates =
      (candidates.filter fun candidate => candidate.2.exceeds threshold).argmax candidateRank := by
  rw [bestOf, List.argmax, List.foldl_filter]
  congr 1
  funext kept offered
  cases offered.2.exceeds threshold with
  | false => rfl
  | true =>
    cases kept with
    | none => rfl
    | some current =>
      simp only [List.argAux, candidateRank, ← Confidence.lt_iff_rank]
      rfl

/-- A match that scores higher than one above the threshold is above the threshold itself. -/
theorem Match.exceeds_of_lt {found other : Match} {threshold : Float}
    (exceeds : found.exceeds threshold = true) (isMatch : other.isMatch = true)
    (higher : found.score < other.score) : other.exceeds threshold = true := by
  rw [Match.exceeds_iff] at exceeds ⊢
  obtain ⟨isNumber, -, above⟩ := (Double.lt_iff _ _).1 exceeds.2
  rw [Confidence.lt_iff_rank] at higher
  exact ⟨isMatch, (Double.lt_iff _ _).2 ⟨isNumber, other.score.value_isNumber, above.trans higher⟩⟩

theorem bestOf_bestAbove (threshold : Float) (candidates : List (κ × Match)) :
    BestAbove threshold candidates (bestOf threshold candidates) := by
  rw [bestOf_eq_argmax]
  constructor
  · simp only [List.argmax_eq_none, List.filter_eq_nil_iff, Match.exceeds_iff]
  · intro best isBest
    obtain ⟨before, after, split, exceeds, worse⟩ := exists_split_of_argmax_filter isBest
    refine ⟨before, after, split, (Match.exceeds_iff ..).1 exceeds, ?_, ?_⟩
    · intro other member isMatch higher
      have competes : other ∈ candidates.filter fun candidate => candidate.2.exceeds threshold :=
        List.mem_filter.2 ⟨member, Match.exceeds_of_lt exceeds isMatch higher⟩
      have notBetter := List.le_of_mem_argmax competes isBest
      rw [Confidence.lt_iff_rank] at higher
      exact not_le_of_gt higher notBetter
    · intro earlier member above
      rw [Confidence.lt_iff_rank]
      exact worse earlier member ((Match.exceeds_iff ..).2 above)

theorem bestOf_map (threshold : Float) (rename : κ → ι) (candidates : List (κ × Match)) :
    bestOf threshold (candidates.map (Prod.map rename id)) =
      (bestOf threshold candidates).map (Prod.map rename id) := by
  rw [bestOf_eq_argmax, bestOf_eq_argmax, List.filter_map, argmax_map]
  rfl

theorem isZero_of_not_isMatch {scorer : Scorer} {patterns : List Pattern} {utterance : Utterance}
    (noMatch : (recognize scorer patterns utterance).isMatch = false) :
    (recognize scorer patterns utterance).score.isZero = true := by
  cases isPattern : (recognize scorer patterns utterance).pattern with
  | none =>
    rw [(recognize_none isPattern).1]
    decide
  | some index => simpa [Match.isMatch, isPattern] using noMatch

theorem Match.not_lt_of_isZero {found other : Match} (isMatch : found.isMatch = true)
    (isZero : other.score.isZero = true) : ¬found.score < other.score := by
  have positive : found.score.isZero = false := by
    rw [Match.isMatch, Bool.and_eq_true, Bool.not_eq_true'] at isMatch
    exact isMatch.2
  rw [Confidence.isZero_eq_false_iff] at positive
  rw [Confidence.lt_iff_rank, (Confidence.isZero_iff_rank _).1 isZero]
  exact not_lt_of_gt positive

namespace SectionRegistry

/-- What the sections of a registry have to offer for an utterance. -/
def candidates (registry : SectionRegistry) (scorer : Scorer) (utterance : Utterance) :
    List (String × Match) :=
  registry.sections.map fun phrasing => (phrasing.skillId, phrasing.recognize scorer utterance)

variable {registry : SectionRegistry} {scorer : Scorer} {threshold : Float} {utterance : Utterance}

theorem select_bestAbove : BestAbove threshold (registry.candidates scorer utterance)
    (registry.select scorer threshold utterance) :=
  bestOf_bestAbove threshold (registry.candidates scorer utterance)

/-- No section at all scores higher than the selected one: one without a match scores zero. -/
theorem select_highest {best : String × Match}
    (selected : registry.select scorer threshold utterance = some best) (phrasing : Section)
    (member : phrasing ∈ registry.sections) :
    ¬best.2.score < (phrasing.recognize scorer utterance).score := by
  obtain ⟨-, -, -, ⟨bestMatch, -⟩, noHigher, -⟩ := select_bestAbove.chosen best selected
  cases isMatch : (phrasing.recognize scorer utterance).isMatch with
  | true =>
    have offered : (phrasing.skillId, phrasing.recognize scorer utterance) ∈
        registry.candidates scorer utterance := List.mem_map.2 ⟨phrasing, member, rfl⟩
    have bound := noHigher _ offered isMatch
    exact bound
  | false => exact Match.not_lt_of_isZero bestMatch (isZero_of_not_isMatch isMatch)

/-- Nothing is selected for an utterance without tokens, whatever the threshold is. -/
theorem select_of_isEmpty (empty : utterance.isEmpty = true) :
    registry.select scorer threshold utterance = none := by
  refine select_bestAbove.none_iff.2 ?_
  intro candidate member above
  obtain ⟨phrasing, -, rfl⟩ := List.mem_map.1 member
  have nothing : phrasing.recognize scorer utterance = .none := by
    rw [Section.recognize, recognize, if_pos empty]
  rw [nothing] at above
  cases above.1

end SectionRegistry

namespace Dispatcher

variable {m : Type → Type} [Monad m]

/-- Asks every skill for its score, once and in order. -/
def asked (utterance : Utterance) (skills : List (String × Skill m)) : m (List (String × Match)) :=
  skills.mapM fun entry => (fun found => (entry.1, found)) <$> entry.2.score utterance

omit [Monad m] in
theorem map_entry_finRange (dispatcher : Dispatcher m) :
    (List.finRange dispatcher.skills.length).map dispatcher.entry = dispatcher.skills :=
  List.map_get_finRange dispatcher.skills

variable [LawfulMonad m]

theorem map_scores (dispatcher : Dispatcher m) (utterance : Utterance) :
    List.map (Prod.map (fun position => (dispatcher.entry position).1) id) <$>
      dispatcher.scores utterance = asked utterance dispatcher.skills := by
  conv_rhs => rw [asked, ← dispatcher.map_entry_finRange, List.mapM_map]
  rw [scores]
  generalize List.finRange dispatcher.skills.length = positions
  induction positions with
  | nil => simp
  | cons position rest ih => simp [List.mapM_cons, ← ih]

/-- The selection of a dispatcher depends on nothing but the scores of its skills. -/
theorem select_eq_map_asked (dispatcher : Dispatcher m) {utterance : Utterance}
    (some : utterance.isEmpty = false) :
    dispatcher.select utterance =
      bestOf dispatcher.config.threshold <$> asked utterance dispatcher.skills := by
  rw [← map_scores]
  simp [select, selectSkill, some, bestOf_map]
  rfl

end Dispatcher

/-- Of the sections of a registry, and of the skills that a dispatcher asks, the best one above the
threshold is selected. -/
theorem select_law (threshold : Float) (utterance : Utterance) :
    (∀ (registry : SectionRegistry) (scorer : Scorer),
      BestAbove threshold (registry.candidates scorer utterance)
        (registry.select scorer threshold utterance) ∧
      ∀ best, registry.select scorer threshold utterance = some best →
        ∀ phrasing ∈ registry.sections,
          ¬best.2.score < (phrasing.recognize scorer utterance).score) ∧
    ∀ (m : Type → Type) [Monad m] [LawfulMonad m] (dispatcher : Dispatcher m),
      dispatcher.config.threshold = threshold → utterance.isEmpty = false →
        ∃ choose : List (String × Match) → Option (String × Match),
          (∀ results, BestAbove threshold results (choose results)) ∧
          dispatcher.select utterance =
            choose <$> Dispatcher.asked utterance dispatcher.skills := by
  refine ⟨?_, ?_⟩
  · intro registry scorer
    exact ⟨SectionRegistry.select_bestAbove, fun best selected =>
      SectionRegistry.select_highest selected⟩
  · intro m _ _ dispatcher sameThreshold some
    subst sameThreshold
    exact ⟨bestOf dispatcher.config.threshold, bestOf_bestAbove _,
      dispatcher.select_eq_map_asked some⟩

/-- A skill that gives every utterance the same match, and has no answer. -/
def Skill.constant (found : Match) : Skill Id where
  score _ := found
  respond _ _ _ := .error .cancelled

/-- A skill with a high score for no pattern, and one with a lower score for a pattern. -/
def loudAndPlain : Dispatcher Id :=
  ((Dispatcher.ofConfig .default).withSkill
    "loud" (.constant ⟨.ofFloat 0.9, none, .empty⟩)).withSkill
    "plain" (.constant ⟨.ofFloat 0.5, some 0, .empty⟩)

/-- A skill may score higher than the selected one, if what it gives is no match. -/
theorem select_outscored :
    (Utterance.ofText "anything").isEmpty = false ∧
      ∃ best, loudAndPlain.select (.ofText "anything") = some best ∧ best.1 = "plain" ∧
        ∃ entry ∈ loudAndPlain.skills,
          best.2.score < (entry.2.score (.ofText "anything")).score := by
  refine ⟨by decide, ("plain", ⟨.ofFloat 0.5, some 0, .empty⟩), by rfl, rfl, ?_⟩
  refine ⟨("loud", .constant ⟨.ofFloat 0.9, none, .empty⟩), List.mem_cons_self .., ?_⟩
  show Confidence.ofFloat 0.5 < Confidence.ofFloat 0.9
  decide

/-- The law holds of the two skills, and what it leaves open is only how high the other one
scores. -/
theorem select_law_loudAndPlain :
    (Utterance.ofText "anything").isEmpty = false ∧
      ∃ choose : List (String × Match) → Option (String × Match),
        (∀ results, BestAbove 0.3 results (choose results)) ∧
        loudAndPlain.select (.ofText "anything") =
          choose <$> Dispatcher.asked (.ofText "anything") loudAndPlain.skills := by
  have some : (Utterance.ofText "anything").isEmpty = false := by decide
  exact ⟨some, (select_law 0.3 (.ofText "anything")).2 Id loudAndPlain rfl some⟩

/-- The score of a chain is what its first stage recognizes. -/
theorem Chain.score_toSkill [Executor] {m : Type → Type} [Monad m] {α : Type}
    (chain : Chain m α) :
    chain.toSkill.score = chain.recognize :=
  rfl

namespace Dispatcher

variable {m : Type → Type} [Monad m]

/-- The skills of a dispatcher are chains, one for each section of a registry and in the same order,
and each of them recognizes by its section. -/
def ListensTo [Executor] (dispatcher : Dispatcher m) (registry : SectionRegistry) (scorer : Scorer) :
    Prop :=
  List.Forall₂
    (fun entry phrasing => entry.1 = phrasing.skillId ∧ ∃ (α : Type) (chain : Chain m α),
      chain.recognize = phrasing.recognizer scorer ∧ entry.2 = chain.toSkill)
    dispatcher.skills registry.sections

variable [Executor] [LawfulMonad m] {dispatcher : Dispatcher m} {registry : SectionRegistry}
  {scorer : Scorer}

/-- Chains that recognize by sections give what the sections have to offer. -/
theorem ListensTo.asked_eq (listens : dispatcher.ListensTo registry scorer)
    (utterance : Utterance) :
    asked utterance dispatcher.skills = pure (registry.candidates scorer utterance) := by
  rw [ListensTo] at listens
  rw [SectionRegistry.candidates]
  generalize dispatcher.skills = skills at listens ⊢
  generalize registry.sections = sections at listens ⊢
  induction listens with
  | nil => simp [asked]
  | @cons entry phrasing skills sections fits _ ih =>
    obtain ⟨sameId, α, chain, recognizes, isChain⟩ := fits
    have score : entry.2.score utterance = pure (phrasing.recognize scorer utterance) := by
      rw [isChain, Chain.score_toSkill, recognizes]
      rfl
    rw [asked] at ih ⊢
    simp [List.mapM_cons, score, ih, sameId]

end Dispatcher

/-- A dispatcher over chains that listen to the sections of a registry selects what is selected from
the sections themselves. -/
theorem select_eq_sections_select [Executor] {m : Type → Type} [Monad m] [LawfulMonad m]
    {dispatcher : Dispatcher m} {registry : SectionRegistry} {scorer : Scorer}
    (listens : dispatcher.ListensTo registry scorer) (utterance : Utterance) :
    dispatcher.select utterance =
      pure (registry.select scorer dispatcher.config.threshold utterance) := by
  cases empty : utterance.isEmpty with
  | true =>
    rw [SectionRegistry.select_of_isEmpty empty]
    simp [Dispatcher.select, Dispatcher.selectSkill, empty]
  | false =>
    rw [dispatcher.select_eq_map_asked empty, listens.asked_eq, map_pure]
    rfl

/-- Two sections with one pattern each, the first of them the wider one. -/
def weatherSections : SectionRegistry :=
  ⟨⟨[⟨"weather", [⟨[.literal [⟨"weather", ["weather"]⟩], .wildcard]⟩]⟩,
    ⟨"forecast", [⟨[.literal [⟨"weather", ["weather"]⟩], .capture "day"]⟩]⟩],
    (Text.NameMap.empty.insert "weather" 0).insert "forecast" 1⟩⟩

/-- A chain that answers with the text of the utterance. -/
def Section.echo (phrasing : Section) : Chain Id String where
  recognize := phrasing.recognizer literalShare
  process utterance _ := ⟨(), [], .ok utterance.text⟩
  output text := .ok (.plain phrasing.skillId text)

def weatherDispatcher : Dispatcher Id where
  skills := weatherSections.sections.map fun phrasing => (phrasing.skillId, phrasing.echo.toSkill)
  fallback := none
  config := .default

/-- The second section takes the utterance from the first one, on both ways. -/
theorem select_eq_sections_select_weather :
    weatherDispatcher.ListensTo weatherSections literalShare ∧
      (weatherSections.select literalShare 0.3 (.ofText "weather tomorrow")).map Prod.fst =
        some "forecast" ∧
      weatherDispatcher.select (.ofText "weather tomorrow") =
        pure (weatherSections.select literalShare 0.3 (.ofText "weather tomorrow")) := by
  have listens : weatherDispatcher.ListensTo weatherSections literalShare :=
    .cons ⟨rfl, String, _, rfl, rfl⟩ (.cons ⟨rfl, String, _, rfl, rfl⟩ .nil)
  exact ⟨listens, by decide +kernel,
    select_eq_sections_select listens (.ofText "weather tomorrow")⟩

end SkillDispatch
