import Mathlib
import SkillDispatch.Proofs.FallbackLaw
import SkillDispatch.Proofs.Registration

set_option autoImplicit false

namespace SkillDispatch

/-- A factory that ran, with what came of it. -/
inductive Building (m : Type → Type)
  | skill (info : SkillInfo m) (context : Context) (result : Except SkillError (Skill m))
  | fallback (info : SkillInfo m) (context : Context) (result : Except SkillError (Skill m))

variable {m : Type → Type}

/-- Switched on by the user, or by default where the user did not say. -/
inductive SkillInfo.SwitchedOn (info : SkillInfo m) (context : Context) : Prop
  | byUser
    (said : context.preferences.get? (Preferences.enabledKey info.id) = some (.bool true))
  | byDefault
    (unsaid : ∀ value, context.preferences.get? (Preferences.enabledKey info.id) ≠
      some (.bool value))
    (default : info.enabledByDefault = true)

/-- A preference that is no truth value is as good as none. -/
theorem SkillInfo.switchedOn_iff (info : SkillInfo m) (context : Context) :
    info.SwitchedOn context ↔
      context.preferences.bool (Preferences.enabledKey info.id) info.enabledByDefault = true := by
  have said_iff : ∀ value,
      (context.preferences.get? (Preferences.enabledKey info.id)).bind Json.bool? = some value ↔
        context.preferences.get? (Preferences.enabledKey info.id) = some (.bool value) := by
    intro value
    cases context.preferences.get? (Preferences.enabledKey info.id) with
    | none => simp
    | some json => cases json <;> simp [Json.bool?]
  rw [Preferences.bool]
  constructor
  · intro on
    cases on with
    | byUser said =>
      rw [(said_iff true).2 said]
      rfl
    | byDefault unsaid default =>
      have none :
          (context.preferences.get? (Preferences.enabledKey info.id)).bind Json.bool? = none :=
        Option.eq_none_iff_forall_ne_some.2 fun value said => unsaid value ((said_iff value).1 said)
      rw [none]
      exact default
  · intro on
    cases said : (context.preferences.get? (Preferences.enabledKey info.id)).bind Json.bool? with
    | none =>
      rw [said] at on
      refine .byDefault (fun value isSaid => ?_) on
      cases said.symm.trans ((said_iff value).2 isSaid)
    | some value =>
      rw [said] at on
      obtain rfl : value = true := on
      exact .byUser ((said_iff true).1 said)

namespace SkillRegistry

def named (built : SkillInfo m × Skill m) : String × Skill m :=
  (built.1.id, built.2)

/-- The run of a factory that built a skill. -/
def succeeded (context : Context) (built : SkillInfo m × Skill m) : Building m :=
  .skill built.1 context (.ok built.2)

/-- What comes of building skills in order, and the factories that run. -/
inductive BuiltEach (context : Context) :
    List (SkillInfo m) → Except SkillError (List (String × Skill m)) → List (Building m) → Prop
  /-- Each factory runs, in order, and builds the skill of its own id. -/
  | all (built : List (SkillInfo m × Skill m)) :
    BuiltEach context (built.map Prod.fst) (.ok (built.map named)) (built.map (succeeded context))
  /-- The first factory that fails is the last one that runs, and its error is what comes of it. -/
  | failed (built : List (SkillInfo m × Skill m)) (failing : SkillInfo m) (rest : List (SkillInfo m))
    (error : SkillError) :
    BuiltEach context (built.map Prod.fst ++ failing :: rest) (.error error)
      (built.map (succeeded context) ++ [.skill failing context (.error error)])

/-- What comes of building the fallback, and whether its factory runs. -/
inductive BuiltFallback (registry : SkillRegistry m) (context : Context) :
    Except SkillError (Option (Skill m)) → List (Building m) → Prop
  /-- Without a fallback that can be used, no factory runs. -/
  | unusable
    (none : ∀ info, registry.fallback = some info → info.isAvailable context = false) :
    BuiltFallback registry context (.ok .none) []
  /-- Otherwise its factory runs once. -/
  | built {info : SkillInfo m} (set : registry.fallback = some info)
    (usable : info.isAvailable context = true) (result : Except SkillError (Skill m)) :
    BuiltFallback registry context (result.map some) [.fallback info context result]

/-- What comes of making a dispatcher of a registry, and the factories that run. -/
inductive Assembled (registry : SkillRegistry m) (context : Context) (config : Config) :
    Except SkillError (Dispatcher m) → List (Building m) → Prop
  /-- If a skill cannot be built, no later one is, nor the fallback. -/
  | skillFailed {error : SkillError} {log : List (Building m)}
    (failed : BuiltEach context (registry.enabled context) (.error error) log) :
    Assembled registry context config (.error error) log
  | fallbackFailed {skills : List (String × Skill m)} {log last : List (Building m)}
    {error : SkillError} (built : BuiltEach context (registry.enabled context) (.ok skills) log)
    (failed : registry.BuiltFallback context (.error error) last) :
    Assembled registry context config (.error error) (log ++ last)
  /-- The dispatcher has the skills that were built and the fallback, if there is one. -/
  | whole {skills : List (String × Skill m)} {fallback : Option (Skill m)}
    {log last : List (Building m)}
    (built : BuiltEach context (registry.enabled context) (.ok skills) log)
    (fallbackBuilt : registry.BuiltFallback context (.ok fallback) last) :
    Assembled registry context config (.ok ⟨skills, fallback, config⟩) (log ++ last)

/-- A call of a skill that is enabled, or of a fallback that can be used. -/
inductive Permits (registry : SkillRegistry m) (context : Context) : Call → Prop
  | scored {position : ℕ} {info : SkillInfo m}
    (enabled : (registry.enabled context)[position]? = some info) (utterance : Utterance)
    (found : Match) : Permits registry context (.scored (.skill position) utterance found)
  | responded {position : ℕ} {info : SkillInfo m}
    (enabled : (registry.enabled context)[position]? = some info) (utterance : Utterance)
    (selected : Match) (control : Control) (answer : Except ChainError Rendered) :
    Permits registry context (.responded (.skill position) utterance selected control answer)
  | fallback {info : SkillInfo m} (set : registry.fallback = some info)
    (usable : info.isAvailable context = true) (utterance : Utterance) (selected : Match)
    (control : Control) (answer : Except ChainError Rendered) :
    Permits registry context (.responded .fallback utterance selected control answer)

variable {registry : SkillRegistry m} {context : Context} {config : Config}
  {dispatcher : Dispatcher m} {log : List (Building m)}

theorem BuiltEach.cons {infos : List (SkillInfo m)}
    {result : Except SkillError (List (String × Skill m))} {log : List (Building m)}
    (info : SkillInfo m) (skill : Skill m) (later : BuiltEach context infos result log) :
    BuiltEach context (info :: infos) (result.map (named (info, skill) :: ·))
      (succeeded context (info, skill) :: log) := by
  cases later with
  | all built => exact .all ((info, skill) :: built)
  | failed built failing rest error => exact .failed ((info, skill) :: built) failing rest error

theorem BuiltEach.ids_eq {infos : List (SkillInfo m)} {skills : List (String × Skill m)}
    (built : BuiltEach context infos (.ok skills) log) :
    skills.map Prod.fst = infos.map SkillInfo.id := by
  cases built with
  | all built =>
    rw [List.map_map, List.map_map]
    rfl

theorem BuiltFallback.exists_info {fallback : Option (Skill m)}
    (built : registry.BuiltFallback context (.ok fallback) log) (set : fallback.isSome = true) :
    ∃ info, registry.fallback = some info ∧ info.isAvailable context = true := by
  generalize result_eq : Except.ok fallback = result at built
  cases built with
  | unusable none =>
    cases result_eq
    cases set
  | built isSet usable _ => exact ⟨_, isSet, usable⟩

theorem Assembled.skillIds_eq (assembled : registry.Assembled context config (.ok dispatcher) log) :
    dispatcher.skillIds = (registry.enabled context).map SkillInfo.id := by
  cases assembled with
  | whole built fallbackBuilt => exact built.ids_eq

theorem Assembled.permits (assembled : registry.Assembled context config (.ok dispatcher) log)
    {call : Call} (may : dispatcher.MayCall call) : registry.Permits context call := by
  have same := congrArg List.length assembled.skillIds_eq
  rw [Dispatcher.skillIds, List.length_map, List.length_map] at same
  cases may with
  | scored position utterance found =>
    exact .scored (List.getElem?_eq_getElem (same ▸ position.isLt)) utterance found
  | responded position utterance selected control answer =>
    exact .responded (List.getElem?_eq_getElem (same ▸ position.isLt)) utterance selected control
      answer
  | fallback set utterance selected control answer =>
    cases assembled with
    | whole built fallbackBuilt =>
      obtain ⟨info, isSet, usable⟩ := fallbackBuilt.exists_info set
      exact .fallback isSet usable utterance selected control answer

/-- Where ids differ, a skill that is not enabled has another id than all that are. -/
theorem id_not_mem_of_not_enabled (distinct : registry.ids.Nodup) {info : SkillInfo m}
    (known : info ∈ registry.skills) (disabled : info ∉ registry.enabled context) :
    info.id ∉ (registry.enabled context).map SkillInfo.id := by
  intro named
  obtain ⟨other, enabled, sameId⟩ := List.mem_map.1 named
  have otherKnown : other ∈ registry.skills := (List.mem_filter.1 enabled).1
  have same : other = info := List.inj_on_of_nodup_map distinct otherKnown known sameId
  exact disabled (same ▸ enabled)

end SkillRegistry

theorem Dispatcher.entry_mem_skillIds (dispatcher : Dispatcher m)
    (position : Fin dispatcher.skills.length) :
    (dispatcher.entry position).1 ∈ dispatcher.skillIds :=
  List.mem_map_of_mem (List.get_mem _ position)

variable [Monad m]

/-- A skill that pays no heed to what is written down. -/
def Skill.lifted {σ : Type} (skill : Skill m) : Skill (StateT σ m) where
  score utterance := StateT.lift (skill.score utterance)
  respond utterance selected control := StateT.lift (skill.respond utterance selected control)

/-- A skill with what it writes down dropped. -/
def Skill.lowered {α : Type} (skill : Skill (StateT (List α) m)) : Skill m where
  score utterance := Prod.fst <$> (skill.score utterance).run []
  respond utterance selected control :=
    Prod.fst <$> (skill.respond utterance selected control).run []

def SkillInfo.watched
    (note : SkillInfo m → Context → Except SkillError (Skill m) → Building m) (info : SkillInfo m) :
    SkillInfo (StateT (List (Building m)) m) where
  id := info.id
  name := info.name
  enabledByDefault := info.enabledByDefault
  factory context := do
    let result ← info.factory context
    modify fun log => log ++ [note info context result]
    return result.map Skill.lifted
  availability := info.availability
  settings := info.settings

def SkillRegistry.watched (registry : SkillRegistry m) :
    SkillRegistry (StateT (List (Building m)) m) where
  roster := ⟨registry.roster.entries.map (SkillInfo.watched .skill), registry.roster.places⟩
  fallback := registry.fallback.map (SkillInfo.watched .fallback)

/-- Skills under their ids, with what they write down dropped. -/
def Skill.loweredEach {α : Type} (skills : List (String × Skill (StateT (List α) m))) :
    List (String × Skill m) :=
  skills.map (Prod.map id Skill.lowered)

/-- A dispatcher with what its skills write down dropped. -/
def Dispatcher.lowered {α : Type} (dispatcher : Dispatcher (StateT (List α) m)) : Dispatcher m where
  skills := Skill.loweredEach dispatcher.skills
  fallback := dispatcher.fallback.map Skill.lowered
  config := dispatcher.config

theorem Skill.lowered_lifted [LawfulMonad m] {α : Type} (skill : Skill m) :
    (skill.lifted : Skill (StateT (List α) m)).lowered = skill := by
  simp [lowered, lifted]

theorem SkillInfo.watched_factory_run [LawfulMonad m]
    (note : SkillInfo m → Context → Except SkillError (Skill m) → Building m) (info : SkillInfo m)
    (context : Context) (log : List (Building m)) :
    ((info.watched note).factory context).run log =
      (fun result => (result.map Skill.lifted, log ++ [note info context result])) <$>
        info.factory context := by
  simp [watched]

namespace SkillRegistry

variable [LawfulMonad m] (registry : SkillRegistry m) (context : Context)

omit [LawfulMonad m] in
theorem enabled_watched : registry.watched.enabled context =
    (registry.enabled context).map (SkillInfo.watched .skill) := by
  rw [enabled, enabled, skills, skills, watched, List.filter_map]
  rfl

theorem buildEach_erased (infos : List (SkillInfo m)) (log : List (Building m)) :
    (fun run => run.1.map Skill.loweredEach) <$>
        (buildEach context (infos.map (SkillInfo.watched .skill))).run log =
      buildEach context infos := by
  induction infos generalizing log with
  | nil => simp [buildEach, Except.map, Skill.loweredEach]
  | cons info rest ih =>
    rw [List.map_cons, buildEach, buildEach, StateT.run_bind, SkillInfo.watched_factory_run,
      bind_map_left, map_bind]
    refine bind_congr fun result => ?_
    cases result with
    | error error => simp [Except.map]
    | ok skill =>
      rw [← ih (log ++ [.skill info context (.ok skill)])]
      simp only [Except.map, StateT.run_bind, map_bind, bind_map_left]
      refine bind_congr fun run => ?_
      cases run.1 with
      | error error => simp
      | ok skills => simp [Except.map, Skill.loweredEach, SkillInfo.watched, Skill.lowered_lifted]

/-- Skills are built in order, up to the first that fails. -/
theorem buildEach_builtEach (infos : List (SkillInfo m)) (log : List (Building m)) :
    SatisfiesM
      (fun run => ∃ builds, run.2 = log ++ builds ∧
        BuiltEach context infos (run.1.map Skill.loweredEach) builds)
      ((buildEach context (infos.map (SkillInfo.watched .skill))).run log) := by
  induction infos generalizing log with
  | nil => exact .pure ⟨[], (List.append_nil log).symm, .all []⟩
  | cons info rest ih =>
    rw [List.map_cons, buildEach, StateT.run_bind, SkillInfo.watched_factory_run, bind_map_left]
    refine SatisfiesM.trivial.bind fun result _ => ?_
    cases result with
    | error error => exact .pure ⟨_, rfl, .failed [] info rest error⟩
    | ok skill =>
      simp only [Except.map, StateT.run_bind]
      refine (ih _).bind fun run ⟨builds, log_eq, built⟩ => ?_
      have whole := built.cons info skill
      rw [List.append_assoc] at log_eq
      cases later : run.1 with
      | error error =>
        rw [later] at whole
        exact .pure ⟨_, log_eq, whole⟩
      | ok skills =>
        rw [later] at whole
        refine .pure ⟨_, log_eq, ?_⟩
        simpa [Except.map, Skill.loweredEach, named, succeeded, SkillInfo.watched, Skill.lowered_lifted]
          using whole

/-- The fallback of a watched registry is built, and that is written down, if it can be used. -/
theorem buildFallback_watched_run (log : List (Building m)) :
    (registry.watched.buildFallback context).run log =
      match registry.fallback with
      | none => pure (.ok none, log)
      | some info =>
        if info.isAvailable context then
          (fun result => ((result.map Skill.lifted).map some,
            log ++ [.fallback info context result])) <$> info.factory context
        else pure (.ok none, log) := by
  rw [buildFallback, watched]
  cases registry.fallback with
  | none => rfl
  | some info =>
    have same : (info.watched .fallback).isAvailable context = info.isAvailable context := rfl
    simp only [Option.map_some, same]
    split
    · rw [bind_pure_comp, StateT.run_map, SkillInfo.watched_factory_run, Functor.map_map]
    · rfl

theorem buildFallback_erased (log : List (Building m)) :
    (fun run => run.1.map (Option.map Skill.lowered)) <$>
        (registry.watched.buildFallback context).run log =
      registry.buildFallback context := by
  rw [buildFallback_watched_run, buildFallback]
  cases registry.fallback with
  | none => simp [Except.map]
  | some info =>
    simp only
    split
    · rw [Functor.map_map, bind_pure_comp]
      refine map_congr fun result => ?_
      cases result with
      | error error => rfl
      | ok skill => simp [Except.map, Skill.lowered_lifted]
    · simp [Except.map]

theorem buildFallback_builtFallback (log : List (Building m)) :
    SatisfiesM
      (fun run => ∃ last, run.2 = log ++ last ∧
        registry.BuiltFallback context (run.1.map (Option.map Skill.lowered)) last)
      ((registry.watched.buildFallback context).run log) := by
  rw [buildFallback_watched_run]
  cases set : registry.fallback with
  | none =>
    refine .pure ⟨[], (List.append_nil log).symm, .unusable fun info isSet => ?_⟩
    cases set.symm.trans isSet
  | some info =>
    by_cases usable : info.isAvailable context = true
    · simp only [usable, if_true]
      refine SatisfiesM.map .trivial fun {result} _ => ⟨_, rfl, ?_⟩
      have built := BuiltFallback.built set usable result
      cases result with
      | error error => exact built
      | ok skill => simpa [Except.map, Skill.lowered_lifted] using built
    · simp only [usable]
      refine .pure ⟨[], (List.append_nil log).symm, .unusable fun other isSet => ?_⟩
      cases set.symm.trans isSet
      exact Bool.not_eq_true _ ▸ usable

theorem ofRegistry_erased (config : Config) (log : List (Building m)) :
    (fun run => run.1.map Dispatcher.lowered) <$>
        (Dispatcher.ofRegistry registry.watched context config).run log =
      Dispatcher.ofRegistry registry context config := by
  rw [Dispatcher.ofRegistry, Dispatcher.ofRegistry, buildEnabled, buildEnabled, enabled_watched,
    ← buildEach_erased context (registry.enabled context) log, StateT.run_bind, map_bind,
    bind_map_left]
  refine bind_congr fun run => ?_
  cases run.1 with
  | error error => simp [Except.map]
  | ok skills =>
    rw [← buildFallback_erased registry context run.2]
    simp only [Except.map, StateT.run_bind, map_bind, bind_map_left]
    refine bind_congr fun next => ?_
    cases next.1 with
    | error error => simp
    | ok fallback => simp [Dispatcher.lowered]

theorem ofRegistry_assembled (config : Config) :
    SatisfiesM
      (fun run => registry.Assembled context config (run.1.map Dispatcher.lowered) run.2)
      ((Dispatcher.ofRegistry registry.watched context config).run []) := by
  rw [Dispatcher.ofRegistry, buildEnabled, enabled_watched, StateT.run_bind]
  refine (buildEach_builtEach context (registry.enabled context) []).bind
    fun run ⟨builds, log_eq, built⟩ => ?_
  rw [List.nil_append] at log_eq
  cases result : run.1 with
  | error error =>
    rw [result] at built
    exact .pure (log_eq ▸ .skillFailed built)
  | ok skills =>
    rw [result] at built
    simp only [StateT.run_bind]
    refine (buildFallback_builtFallback registry context _).bind
      fun next ⟨last, all_eq, fallbackBuilt⟩ => ?_
    rw [log_eq] at all_eq
    cases outcome : next.1 with
    | error error =>
      rw [outcome] at fallbackBuilt
      exact .pure (all_eq ▸ .fallbackFailed built fallbackBuilt)
    | ok fallback =>
      rw [outcome] at fallbackBuilt
      exact .pure (all_eq ▸ .whole built fallbackBuilt)

/-- What a dispatcher of a registry does: whatever is asked of it, and however often, it calls and
names no skill of the registry that is not enabled. -/
structure Confines (registry : SkillRegistry m) (context : Context) (dispatcher : Dispatcher m) :
    Prop where
  /-- The skills of the dispatcher are the enabled ones, in order. -/
  skillIds_eq : dispatcher.skillIds = (registry.enabled context).map SkillInfo.id
  calls : ∀ requests : List Request,
    SatisfiesM (fun run => ∀ call ∈ run.2, registry.Permits context call)
      ((requests.forM dispatcher.watched.serve).run [])
  selected : ∀ utterance,
    SatisfiesM (fun selected => ∀ chosen, selected = some chosen → chosen.1 ∈ dispatcher.skillIds)
      (dispatcher.select utterance)
  outcomes : ∀ text cancelAfter,
    SatisfiesM (fun outcome => ∀ skillId, outcome.skillId? = some skillId →
      skillId ∈ dispatcher.skillIds) (dispatcher.dispatchOutcome text cancelAfter)
  /-- The id of a skill that is not enabled is not among them. -/
  unnamed : ∀ info ∈ registry.skills, info ∉ registry.enabled context →
    info.id ∉ dispatcher.skillIds

end SkillRegistry

namespace Dispatcher

variable [LawfulMonad m] (dispatcher : Dispatcher m)

theorem select_named (utterance : Utterance) :
    SatisfiesM (fun selected => ∀ chosen, selected = some chosen → chosen.1 ∈ dispatcher.skillIds)
      (dispatcher.select utterance) := by
  rw [select, bind_pure_comp]
  refine SatisfiesM.map .trivial fun {selected} _ chosen isChosen => ?_
  obtain ⟨candidate, -, rfl⟩ := Option.map_eq_some_iff.1 isChosen
  exact dispatcher.entry_mem_skillIds candidate.1

theorem dispatchOutcome_named (text : String) (cancelAfter : Option Duration) :
    SatisfiesM (fun outcome => ∀ skillId, outcome.skillId? = some skillId →
      skillId ∈ dispatcher.skillIds) (dispatcher.dispatchOutcome text cancelAfter) := by
  rw [dispatchOutcome, run_eq_bind_answer]
  refine SatisfiesM.trivial.bind fun selected _ => ?_
  cases selected with
  | none =>
    refine .pure fun skillId isNamed => ?_
    cases isNamed
  | some chosen =>
    refine SatisfiesM.map .trivial fun {answer} _ skillId isNamed => ?_
    have same : skillId = (dispatcher.entry chosen.1).1 := by
      cases answer with
      | ok result => exact (Option.some.inj isNamed).symm
      | error error => exact (Option.some.inj isNamed).symm
    rw [same]
    exact dispatcher.entry_mem_skillIds chosen.1

end Dispatcher

namespace SkillRegistry

variable {registry : SkillRegistry m} {context : Context} {config : Config}
  {dispatcher : Dispatcher m} {log : List (Building m)}

theorem Assembled.confines [LawfulMonad m] (distinct : registry.ids.Nodup)
    (assembled : registry.Assembled context config (.ok dispatcher) log) :
    registry.Confines context dispatcher where
  skillIds_eq := assembled.skillIds_eq
  calls requests := Dispatcher.forM_serve_keeps (fun _ may => assembled.permits may) requests []
    fun _ member => nomatch member
  selected utterance := dispatcher.select_named utterance
  outcomes text cancelAfter := dispatcher.dispatchOutcome_named text cancelAfter
  unnamed info known disabled := by
    rw [assembled.skillIds_eq]
    exact id_not_mem_of_not_enabled distinct known disabled

/-- How a registry makes dispatchers. -/
structure Assembles (registry : SkillRegistry m) (context : Context) (config : Config) : Prop where
  /-- Enabled are the skills that can be used and are switched on, in order. -/
  enabled_sublist : (registry.enabled context).Sublist registry.skills
  mem_enabled : ∀ info, info ∈ registry.enabled context ↔
    info ∈ registry.skills ∧ info.isAvailable context = true ∧ info.SwitchedOn context
  /-- Watching changes nothing about the dispatcher. -/
  erased : (fun run => run.1.map Dispatcher.lowered) <$>
      (Dispatcher.ofRegistry registry.watched context config).run [] =
    Dispatcher.ofRegistry registry context config
  /-- The skills are built, and then the fallback. -/
  assembled : SatisfiesM
    (fun run => registry.Assembled context config (run.1.map Dispatcher.lowered) run.2)
    ((Dispatcher.ofRegistry registry.watched context config).run [])
  /-- Whatever dispatcher is made keeps to the enabled skills. -/
  confined : SatisfiesM
    (fun made => ∀ dispatcher, made = .ok dispatcher → registry.Confines context dispatcher)
    (Dispatcher.ofRegistry registry context config)

theorem assembles [LawfulMonad m] (distinct : registry.ids.Nodup) :
    registry.Assembles context config := by
  have erased := registry.ofRegistry_erased context config []
  have assembled := registry.ofRegistry_assembled context config
  constructor
  case enabled_sublist => exact List.filter_sublist
  case mem_enabled =>
    intro info
    rw [enabled, List.mem_filter, SkillInfo.isEnabled, Bool.and_eq_true, SkillInfo.switchedOn_iff]
  case erased => exact erased
  case assembled => exact assembled
  case confined =>
    rw [← erased]
    refine SatisfiesM.map assembled fun {run} isAssembled dispatcher isMade => ?_
    rw [isMade] at isAssembled
    exact isAssembled.confines distinct

end SkillRegistry

/-- A dispatcher of a registry has the enabled skills, which are built in the order of registration up
to the first that fails; the fallback is built after them, if it can be used. No other skill of the
registry is built, called or named by the dispatcher. -/
theorem ofRegistry_enabled [LawfulMonad m] (changes : List (SkillRegistry.Change m))
    (context : Context) (config : Config) :
    (SkillRegistry.changed changes).Assembles context config :=
  SkillRegistry.assembles (SkillRegistry.changed_shows changes).ids_nodup

/-- A skill that is off by default and of no use at home, and which can be built or not. -/
def SkillInfo.abroad (id : String) (built : Bool) : SkillInfo Id where
  id := id
  name := id
  enabledByDefault := false
  factory _ := if built then .ok .repeating else .error (.buildFailed id "no reason")
  availability := some fun context => context.locale != "en"
  settings := none

/-- Calls that register three skills, of which the second one cannot be built, and set a fallback. -/
def travels : List (SkillRegistry.Change Id) :=
  [.setFallback (.abroad "guide" true), .register (.abroad "map" true),
    .register (.abroad "lost" false), .register (.abroad "road" true)]

/-- Surroundings abroad in which the user switched some skills on. -/
def Context.switching (ids : List String) : Context where
  locale := "fr"
  preferences := ids.foldl (fun kept id => kept.set (Preferences.enabledKey id) (.bool true)) .empty
  sections := .empty

/-- The second skill fails when it is on, and then nothing else is built; with the third one alone,
that one and the fallback are built. -/
theorem ofRegistry_enabled_travels :
    (SkillRegistry.changed travels).Assembled (.switching ["road", "lost", "map"]) .default
        (.error (.buildFailed "lost" "no reason"))
        [.skill (.abroad "map" true) (.switching ["road", "lost", "map"]) (.ok .repeating),
          .skill (.abroad "lost" false) (.switching ["road", "lost", "map"])
            (.error (.buildFailed "lost" "no reason"))] ∧
      (SkillRegistry.changed travels).Assembled (.switching ["road"]) .default
        (.ok ⟨[("road", .repeating)], some .repeating, .default⟩)
        [.skill (.abroad "road" true) (.switching ["road"]) (.ok .repeating),
          .fallback (.abroad "guide" true) (.switching ["road"]) (.ok .repeating)] ∧
      (SkillRegistry.changed travels).Confines (.switching ["road"])
        ⟨[("road", .repeating)], some .repeating, .default⟩ := by
  have failing :=
    (ofRegistry_enabled travels (.switching ["road", "lost", "map"]) .default).assembled
  have building := (ofRegistry_enabled travels (.switching ["road"]) .default).assembled
  have confined := (ofRegistry_enabled travels (.switching ["road"]) .default).confined
  rw [SatisfiesM_Id_eq] at failing building confined
  exact ⟨failing, building, confined _ rfl⟩

end SkillDispatch
