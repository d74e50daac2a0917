import SkillDispatch.Proofs.CallTrace
import SkillDispatch.Proofs.Races

set_option autoImplicit false

namespace SkillDispatch

/-- What a dispatcher makes of what comes of a chain. -/
def Outcome.ofDriven (skillId : String) : Option (Except ChainError Rendered) → Outcome
  | some answer => .ofAnswer skillId answer
  | none => .noMatch

theorem Outcome.ofDriven_injective (skillId : String) :
    Function.Injective (Outcome.ofDriven skillId) := by
  intro first second same
  rcases first with _ | (error | result) <;> rcases second with _ | (error' | result') <;>
    simp_all [ofDriven, ofAnswer]

variable {m : Type → Type} [Monad m] {α : Type}

/-- A chain that writes down what its work is given, when the work starts. -/
def Chain.noting (chain : Chain m α) : Chain (StateT (List (Utterance × Slots)) m) α where
  recognize utterance := StateT.lift (chain.recognize utterance)
  process utterance slots :=
    let work := chain.process utterance slots
    { start := do
        modify fun notes => notes ++ [(utterance, slots)]
        StateT.lift work.start
      pauses := (work.lift _).pauses
      finish := StateT.lift work.finish }
  output data := StateT.lift (chain.output data)

theorem Chain.noting_recognize [LawfulMonad m] (chain : Chain m α) {phrasing : Section}
    {scorer : Scorer} (recognizes : chain.recognize = phrasing.recognizer scorer) :
    chain.noting.recognize = phrasing.recognizer scorer := by
  have lifted : chain.noting.recognize =
      fun utterance => StateT.lift (chain.recognize utterance) := rfl
  rw [lifted, recognizes]
  funext utterance notes
  exact pure_bind _ _

section

variable [Executor]

def Work.begins (work : Work m α) (control : Control) : Bool :=
  0 < (control.race work.waits).2

/-- The rest of the way for a chain that accepted an utterance: its work, and what is rendered of
it. -/
def Recognized.conclude (accepted : Recognized m α) (control : Control) :
    m (Except ChainError Rendered) := do
  match ← accepted.process control with
  | .ok processed => processed.output
  | .error error => return .error error

namespace Chain

/-- Drives the stages by hand. Nothing comes of a chain that does not accept the utterance. -/
def drive (chain : Chain m α) (utterance : Utterance) (threshold : Float) (control : Control) :
    m (Option (Except ChainError Rendered)) := do
  match ← chain.accept utterance threshold with
  | some accepted => return some (← accepted.conclude control)
  | none => return none

def dispatcher (chain : Chain m α) (skillId : String) (threshold : Float) (timeout : Duration) :
    Dispatcher m :=
  (Dispatcher.ofConfig ⟨threshold, timeout⟩).withSkill skillId chain.toSkill

end Chain

variable [LawfulMonad m] (chain : Chain m α) (utterance : Utterance)

omit [Executor] in
theorem Chain.noting_perform (slots : Slots) (taken : ℕ) (notes : List (Utterance × Slots)) :
    ((chain.noting.process utterance slots).perform taken).run notes =
      (·, notes ++ if decide (0 < taken) then [(utterance, slots)] else []) <$>
        (chain.process utterance slots).perform taken := by
  have noted : ∀ notes, (chain.noting.process utterance slots).start.run notes =
      (·, notes ++ [(utterance, slots)]) <$> (chain.process utterance slots).start := by
    intro notes
    simp [noting]
  refine ((chain.process utterance slots).run_perform_noted noted _ taken notes).trans ?_
  cases taken with
  | zero => simp
  | succ count => simp

theorem Chain.noting_within (slots : Slots) (control : Control)
    (notes : List (Utterance × Slots)) :
    ((chain.noting.process utterance slots).within control).run notes =
      (fun result => (result, notes ++
          if (chain.process utterance slots).begins control then [(utterance, slots)] else [])) <$>
        (chain.process utterance slots).within control := by
  have waits : (chain.noting.process utterance slots).waits =
      (chain.process utterance slots).waits := Work.waits_lift _
  unfold Work.within Work.begins
  rw [waits]
  generalize control.race (chain.process utterance slots).waits = race
  obtain ⟨branch, taken⟩ := race
  dsimp only
  rw [StateT.run_bind, chain.noting_perform, bind_map_left, map_bind]
  refine bind_congr fun _ => ?_
  rcases branch with _ | _ | _
  · simp
  · simp
  · simp [noting]

/-- Taking notes does not change what comes of an accepted utterance. -/
theorem Recognized.conclude_noting (found : Match) (control : Control)
    (notes : List (Utterance × Slots)) :
    (Recognized.conclude ⟨chain.noting, utterance, found⟩ control).run notes =
      (fun answer =>
          (answer, notes ++ if (chain.process utterance found.slots).begins control then
            [(utterance, found.slots)] else [])) <$>
        Recognized.conclude ⟨chain, utterance, found⟩ control := by
  simp only [conclude, process, bind_assoc, pure_bind, StateT.run_bind, Chain.noting_within,
    bind_map_left, map_bind]
  refine bind_congr fun result => ?_
  cases result with
  | ok data => simp [Except.map, Processed.output, Chain.noting]
  | error error => simp [Except.map]

namespace Chain

variable {phrasing : Section} {scorer : Scorer}

/-- A chain that recognizes by a section accepts what exceeds the threshold. -/
theorem drive_of_recognizer (recognizes : chain.recognize = phrasing.recognizer scorer)
    (threshold : Float) (control : Control) :
    chain.drive utterance threshold control =
      if (phrasing.recognize scorer utterance).exceeds threshold then
        some <$> Recognized.conclude ⟨chain, utterance, phrasing.recognize scorer utterance⟩ control
      else pure none := by
  rw [drive, accept, recognizes, Section.recognizer]
  by_cases exceeds : (phrasing.recognize scorer utterance).exceeds threshold = true
  · simp [exceeds]
  · simp [exceeds]

/-- The only skill is selected if its match exceeds the threshold. -/
theorem selectSkill_of_recognizer (recognizes : chain.recognize = phrasing.recognizer scorer)
    (skillId : String) (threshold : Float) (timeout : Duration) :
    (chain.dispatcher skillId threshold timeout).selectSkill utterance =
      pure (if (phrasing.recognize scorer utterance).exceeds threshold then
        some (⟨0, Nat.one_pos⟩, phrasing.recognize scorer utterance) else none) := by
  rw [Dispatcher.selectSkill]
  by_cases empty : utterance.isEmpty = true
  · have nothing : phrasing.recognize scorer utterance = .none := by
      rw [Section.recognize, SkillDispatch.recognize, if_pos empty]
    rw [if_pos empty, nothing]
    rfl
  · have score : chain.toSkill.score utterance = pure (phrasing.recognize scorer utterance) := by
      rw [score_toSkill, recognizes]
      rfl
    have asked : (chain.dispatcher skillId threshold timeout).scores utterance =
        pure [(⟨0, Nat.one_pos⟩, phrasing.recognize scorer utterance)] := by
      simp [Dispatcher.scores, dispatcher, Dispatcher.withSkill, Dispatcher.ofConfig,
        Dispatcher.entry, List.finRange, score]
    rw [if_neg empty, asked, pure_bind]
    by_cases exceeds : (phrasing.recognize scorer utterance).exceeds threshold = true
    · simp [bestOf, dispatcher, Dispatcher.withSkill, Dispatcher.ofConfig, exceeds]
    · simp [bestOf, dispatcher, Dispatcher.withSkill, Dispatcher.ofConfig, exceeds]

/-- Held by a dispatcher, a chain comes to what it comes to by hand. -/
theorem run_eq_drive (recognizes : chain.recognize = phrasing.recognizer scorer)
    (skillId : String) (threshold : Float) (timeout : Duration) (cancelAfter : Option Duration) :
    (chain.dispatcher skillId threshold timeout).run utterance cancelAfter =
      Outcome.ofDriven skillId <$> chain.drive utterance threshold ⟨timeout, cancelAfter⟩ := by
  rw [Dispatcher.run_eq_bind_answer, selectSkill_of_recognizer chain utterance recognizes,
    pure_bind, drive_of_recognizer chain utterance recognizes]
  by_cases exceeds : (phrasing.recognize scorer utterance).exceeds threshold = true
  · rw [if_pos exceeds, if_pos exceeds, Functor.map_map]
    rfl
  · rw [if_neg exceeds, if_neg exceeds, map_pure]
    rfl

/-- The slots that the work of a chain is given: those of a match that exceeds the threshold, if the
work begins. -/
def given (chain : Chain m α) (found : Match) (utterance : Utterance) (threshold : Float)
    (control : Control) : List (Utterance × Slots) :=
  if found.exceeds threshold && (chain.process utterance found.slots).begins control then
    [(utterance, found.slots)] else []

omit [Monad m] [LawfulMonad m] in
/-- Under a lawful executor, work begins unless it is cancelled at once. -/
theorem given_of_lawful (lawful : Executor.Lawful) (found : Match) (threshold : Float)
    (control : Control) :
    chain.given found utterance threshold control =
      if found.exceeds threshold && !control.cancelledAtOnce then [(utterance, found.slots)]
      else [] := by
  have begins : (chain.process utterance found.slots).begins control =
      !control.cancelledAtOnce := by
    rw [Bool.eq_iff_iff, Work.begins, decide_eq_true_iff, Control.race_taken_pos_iff lawful]
    simp
  rw [given, begins]

theorem drive_noting (recognizes : chain.recognize = phrasing.recognizer scorer)
    (threshold : Float) (control : Control) :
    (chain.noting.drive utterance threshold control).run [] =
      (·, chain.given (phrasing.recognize scorer utterance) utterance threshold control) <$>
        chain.drive utterance threshold control := by
  rw [drive_of_recognizer chain.noting utterance (chain.noting_recognize recognizes),
    drive_of_recognizer chain utterance recognizes, given]
  by_cases exceeds : (phrasing.recognize scorer utterance).exceeds threshold = true
  · simp [exceeds, Recognized.conclude_noting]
  · simp [exceeds]

end Chain

/-- A chain that is driven by hand and the dispatcher that holds just this chain: what they come to,
and what the work of the chain is given. -/
structure PathsAgree (chain : Chain m α) (skillId text : String) (threshold : Float)
    (control : Control) (given : List (Utterance × Slots)) : Prop where
  /-- There is no match where the chain does not accept the utterance; the result and the error are
  those that the stages come to. -/
  outcome : (chain.dispatcher skillId threshold control.timeout).dispatchOutcome text
      control.cancelAfter =
    Outcome.ofDriven skillId <$> chain.drive (.ofText text) threshold control
  toldApart : Function.Injective (Outcome.ofDriven skillId)
  givenByHand : (chain.noting.drive (.ofText text) threshold control).run [] =
    (·, given) <$> chain.drive (.ofText text) threshold control
  givenByDispatcher :
    ((chain.noting.dispatcher skillId threshold control.timeout).dispatchOutcome text
      control.cancelAfter).run [] =
    (·, given) <$> (chain.dispatcher skillId threshold control.timeout).dispatchOutcome text
      control.cancelAfter

/-- Driven by hand or by a dispatcher, a chain that recognizes by a section comes to the same, and its
work is given the same slots. Under a lawful executor these are the slots of a match that exceeds the
threshold, unless the work is cancelled at once. -/
theorem paths_agree {phrasing : Section} {scorer : Scorer}
    (recognizes : chain.recognize = phrasing.recognizer scorer) (skillId text : String)
    (threshold : Float) (control : Control) :
    PathsAgree chain skillId text threshold control
        (chain.given (phrasing.recognize scorer (.ofText text)) (.ofText text) threshold control) ∧
      (Executor.Lawful →
        chain.given (phrasing.recognize scorer (.ofText text)) (.ofText text) threshold control =
          if (phrasing.recognize scorer (.ofText text)).exceeds threshold &&
              !control.cancelledAtOnce then
            [(.ofText text, (phrasing.recognize scorer (.ofText text)).slots)]
          else []) := by
  have outcome := chain.run_eq_drive (.ofText text) recognizes skillId threshold control.timeout
    control.cancelAfter
  have noted := chain.noting.run_eq_drive (.ofText text) (chain.noting_recognize recognizes) skillId
    threshold control.timeout control.cancelAfter
  have byHand := chain.drive_noting (.ofText text) recognizes threshold control
  refine ⟨⟨outcome, Outcome.ofDriven_injective skillId, byHand, ?_⟩,
    fun lawful => chain.given_of_lawful _ lawful _ threshold control⟩
  rw [Dispatcher.dispatchOutcome, Dispatcher.dispatchOutcome, noted, outcome, StateT.run_map,
    byHand, Functor.map_map, Functor.map_map]

end

def forecastSection : Section :=
  ⟨"forecast", [⟨[.literal [⟨"weather", ["weather"]⟩], .capture "day"]⟩]⟩

/-- The chain accepts the utterance, and its work is given the day. -/
theorem paths_agree_forecast :
    forecastSection.echo.recognize = forecastSection.recognizer literalShare ∧
      ((forecastSection.echo.dispatcher "forecast" 0.3 (.ofSeconds 10 0)).dispatchOutcome
        "weather tomorrow" none).run = .rendered "forecast" (.plain "forecast" "weather tomorrow") ∧
      PathsAgree forecastSection.echo "forecast" "weather tomorrow" 0.3
        (.ofTimeout (.ofSeconds 10 0))
        [(.ofText "weather tomorrow",
          (forecastSection.recognize literalShare (.ofText "weather tomorrow")).slots)] := by
  have agree := paths_agree forecastSection.echo rfl "forecast" "weather tomorrow" 0.3
    (.ofTimeout (.ofSeconds 10 0))
  have accepted : ((forecastSection.recognize literalShare (.ofText "weather tomorrow")).exceeds 0.3 &&
      !(Control.ofTimeout (.ofSeconds 10 0)).cancelledAtOnce) = true := by
    decide +kernel
  have given := (agree.2 PausedClock.lawful).trans (if_pos accepted)
  have raced : (Control.ofTimeout (.ofSeconds 10 0)).race [] = (.inr (some ()), 1) := by
    apply Control.race_eq_done PausedClock.lawful
    · exact Nat.zero_le _
    · intro n after
      cases after
  have concluded (found : Match) : Recognized.conclude
      ⟨forecastSection.echo, .ofText "weather tomorrow", found⟩ (.ofTimeout (.ofSeconds 10 0)) =
        (.ok (.plain "forecast" "weather tomorrow") : Id _) := by
    have waits : (forecastSection.echo.process (.ofText "weather tomorrow") found.slots).waits =
        [] := rfl
    rw [Recognized.conclude, Recognized.process, Work.within, waits, raced]
    rfl
  have rendered : (forecastSection.echo.dispatcher "forecast" 0.3 (.ofSeconds 10 0)).dispatchOutcome
      "weather tomorrow" none =
        (.rendered "forecast" (.plain "forecast" "weather tomorrow") : Id _) := by
    refine agree.1.outcome.trans ?_
    rw [Chain.drive_of_recognizer _ _ rfl, if_pos (Bool.and_eq_true_iff.mp accepted).1, concluded]
    rfl
  exact ⟨rfl, congrArg Id.run rendered, given ▸ agree.1⟩

end SkillDispatch
