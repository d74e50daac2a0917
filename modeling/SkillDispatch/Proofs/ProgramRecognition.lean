import SkillDispatch.Program.Recognition
import SkillDispatch.Proofs.BestFit
import SkillDispatch.Proofs.ProgramSafety

set_option autoImplicit false

namespace SkillDispatch

namespace Program

theorem bind_eq_of_ok {α β : Type} {run : ExceptT Crash Option α} {value : α}
    (isOk : run = some (.ok value)) (next : α → ExceptT Crash Option β) :
    run >>= next = next value := by
  subst isOk
  rfl

/-- A fit of a program is one of its pattern, with the same slots. -/
structure Fit.Binds (utterance : Utterance) (fit : Fit) (named : Recognition.Fit) : Prop where
  index : fit.index = named.index
  score : fit.found.score = named.best.score
  slots : fit.program.slotsOf utterance fit.found = .ok (named.best.alignment.slots utterance)

theorem Fit.Binds.improves_eq {utterance : Utterance} {fit : Fit} {named : Recognition.Fit}
    (binds : fit.Binds utterance named) {kept : Option Fit} {other : Option Recognition.Fit}
    (same : Option.Rel (Fit.Binds utterance) kept other) :
    fit.found.improves kept = named.improves other := by
  cases same with
  | none => rfl
  | some keeps => rw [Found.improves, Recognition.Fit.improves, keeps.score, binds.score]

variable {scorer : Scorer} {utterance : Utterance} {programs : List Program}
  {patterns : List Pattern} {depth : Nat}

theorem Sound.exists_found {program : Program} {pattern : Pattern} (sound : program.Sound pattern)
    (scorer : Scorer) (utterance : Utterance) (deep : program.ops.length < depth) (index : Nat) :
    ∃ best, program.align utterance.tokens scorer depth = some (.ok best) ∧
      Option.Rel (fun found scored => Fit.Binds utterance ⟨index, program, found⟩ ⟨index, scored⟩)
        best (pattern.align scorer utterance.tokens) := by
  obtain ⟨best, isBest, names⟩ := exists_alignsTo sound scorer utterance.tokens
  refine ⟨best, isBest.ends depth deep, ?_⟩
  cases aligned : pattern.align scorer utterance.tokens with
  | none =>
    rw [aligned] at names
    cases names
    exact .none
  | some scored =>
    rw [aligned] at names
    cases names with
    | some same => exact .some ⟨rfl, same.score, same.slotsOf_eq (same.inBounds aligned)⟩

/-- On their way through the programs and through the patterns both keep the same fit. -/
theorem exists_bestFit (sound : List.Forall₂ Sound programs patterns)
    (deep : ∀ program ∈ programs, program.ops.length < depth) (index : Nat) {kept : Option Fit}
    {named : Option Recognition.Fit} (same : Option.Rel (Fit.Binds utterance) kept named) :
    ∃ best, bestFit scorer depth utterance.tokens index programs kept = some (.ok best) ∧
      Option.Rel (Fit.Binds utterance) best
        (Recognition.bestFit scorer utterance.tokens index patterns named) := by
  induction sound generalizing index kept named with
  | nil => exact ⟨kept, rfl, same⟩
  | @cons program pattern programs patterns here _ ih =>
    obtain ⟨deepHere, deepLater⟩ := List.forall_mem_cons.1 deep
    obtain ⟨best, isBest, names⟩ := here.exists_found scorer utterance deepHere index
    rw [bestFit, bind_eq_of_ok isBest]
    cases aligned : pattern.align scorer utterance.tokens with
    | none =>
      rw [aligned] at names
      cases names
      rw [Recognition.bestFit, aligned]
      exact ih deepLater (index + 1) same
    | some scored =>
      rw [aligned] at names
      cases names with
      | @some found _ binds =>
        have score : found.score = scored.score := binds.score
        have improves := binds.improves_eq same
        dsimp only at improves ⊢
        rw [Recognition.bestFit_cons_of_align aligned, improves, score]
        split
        · split
          · exact ⟨_, rfl, .some binds⟩
          · exact ih deepLater (index + 1) (.some binds)
        · exact ih deepLater (index + 1) same

/-- With enough depth, recognition with the programs ends in the result for the patterns. -/
theorem recognize_eq (sound : List.Forall₂ Sound programs patterns)
    (deep : ∀ program ∈ programs, program.ops.length < depth) :
    recognize scorer depth programs utterance =
      some (.ok (SkillDispatch.recognize scorer patterns utterance)) := by
  rw [recognize, SkillDispatch.recognize]
  split
  · rfl
  · obtain ⟨best, isBest, names⟩ := exists_bestFit sound deep 0 .none
    rw [bind_eq_of_ok isBest]
    cases fits : Recognition.bestFit scorer utterance.tokens 0 patterns none with
    | none =>
      rw [fits] at names
      cases names
      rfl
    | some named =>
      rw [fits] at names
      cases names with
      | @some fit _ binds =>
        dsimp only
        rw [binds.slots, binds.score, binds.index]
        rfl

theorem bind_follows {α β : Type} {run deeper : ExceptT Crash Option α}
    {next later : α → ExceptT Crash Option β} {outcome : Except Crash β}
    (same : ∀ result, run = some result → deeper = some result)
    (follows : ∀ value, next value = some outcome → later value = some outcome)
    (ends : run >>= next = some outcome) : deeper >>= later = some outcome := by
  cases isRun : run with
  | none =>
    rw [isRun] at ends
    cases ends
  | some result =>
    rw [same result isRun]
    rw [isRun] at ends
    cases result with
    | error crash => exact ends
    | ok value =>
      rw [bind_eq_of_ok rfl] at ends ⊢
      exact follows value ends

theorem bestFit_follows {deeper : Nat} (le : depth ≤ deeper) {tokens : List Token} {index : Nat}
    {kept : Option Fit} {outcome : Except Crash (Option Fit)}
    (ends : bestFit scorer depth tokens index programs kept = some outcome) :
    bestFit scorer deeper tokens index programs kept = some outcome := by
  induction programs generalizing index kept with
  | nil => exact ends
  | cons program rest ih =>
    rw [bestFit] at ends ⊢
    refine bind_follows (fun _ isRun => align_follows le isRun) (fun best ends => ?_) ends
    cases best with
    | none => exact ih ends
    | some found =>
      dsimp only at ends ⊢
      by_cases improves : found.improves kept = true
      · rw [if_pos improves] at ends ⊢
        by_cases certain : (found.score == .certain) = true
        · rwa [if_pos certain] at ends ⊢
        · rw [if_neg certain] at ends ⊢
          exact ih ends
      · rw [if_neg improves] at ends ⊢
        exact ih ends

theorem recognize_follows {deeper : Nat} (le : depth ≤ deeper) {outcome : Except Crash Match}
    (ends : recognize scorer depth programs utterance = some outcome) :
    recognize scorer deeper programs utterance = some outcome := by
  rw [recognize] at ends ⊢
  by_cases empty : utterance.isEmpty = true
  · rwa [if_pos empty] at ends ⊢
  · rw [if_neg empty] at ends ⊢
    exact bind_follows (fun _ isRun => bestFit_follows le isRun) (fun _ ends => ends) ends

/-- What recognition with some programs comes to. -/
structure RecognizesTo (programs : List Program) (scorer : Scorer) (utterance : Utterance)
    (result : Match) : Prop where
  /-- It ends without a crash, if the calls of the search may nest deeper than any program is long. -/
  ends : ∀ depth, (∀ program ∈ programs, program.ops.length < depth) →
    recognize scorer depth programs utterance = some (.ok result)
  /-- Where it ends with less depth, it comes to the same. -/
  same : ∀ depth outcome, recognize scorer depth programs utterance = some outcome →
    outcome = .ok result

theorem exists_depth (programs : List Program) (depth : Nat) :
    ∃ deeper, depth ≤ deeper ∧ ∀ program ∈ programs, program.ops.length < deeper := by
  induction programs with
  | nil => exact ⟨depth, Nat.le_refl _, nofun⟩
  | cons program rest ih =>
    obtain ⟨deeper, le, enough⟩ := ih
    refine ⟨deeper + program.ops.length + 1, by omega, ?_⟩
    refine List.forall_mem_cons.2 ⟨by omega, fun other member => ?_⟩
    have := enough other member
    omega

theorem recognizesTo (sound : List.Forall₂ Sound programs patterns) (scorer : Scorer)
    (utterance : Utterance) :
    RecognizesTo programs scorer utterance (SkillDispatch.recognize scorer patterns utterance) where
  ends depth deep := recognize_eq sound deep
  same := by
    intro depth outcome ends
    obtain ⟨deeper, le, enough⟩ := exists_depth programs depth
    exact Option.some.inj ((recognize_follows le ends).symm.trans (recognize_eq sound enough))

end Program

theorem Pattern.exists_programs (patterns : List Pattern) :
    ∃ programs, patterns.mapM Pattern.program = .ok programs ∧
      List.Forall₂ Program.Sound programs patterns := by
  induction patterns with
  | nil => exact ⟨[], rfl, .nil⟩
  | cons pattern rest ih =>
    obtain ⟨program, isProgram, sound⟩ := pattern.exists_program
    obtain ⟨programs, isPrograms, others⟩ := ih
    refine ⟨program :: programs, ?_, .cons sound others⟩
    rw [List.mapM_cons, isProgram, isPrograms]
    rfl

/-- All patterns have programs. With any scorer and on any utterance, recognition with the programs
ends without a crash, in the result of recognition with the patterns. -/
theorem programs_recognize (patterns : List Pattern) :
    ∃ programs, patterns.mapM Pattern.program = .ok programs ∧ ∀ scorer utterance,
      Program.RecognizesTo programs scorer utterance (recognize scorer patterns utterance) := by
  obtain ⟨programs, arePrograms, sound⟩ := Pattern.exists_programs patterns
  exact ⟨programs, arePrograms, Program.recognizesTo sound⟩

end SkillDispatch
