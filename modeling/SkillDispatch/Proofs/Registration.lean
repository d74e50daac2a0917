import Mathlib.Data.List.Forall2
import SkillDispatch.Proofs.RosterRuns
import SkillDispatch.Skill.Registry

set_option autoImplicit false

namespace SkillDispatch

namespace SectionRegistry

variable {registry : SectionRegistry} {phrasing : Section}

theorem insert_of_mem (indexed : registry.roster.Indexed Section.skillId)
    (known : phrasing.skillId ∈ registry.ids) :
    registry.insert phrasing = (.error (.duplicateSection phrasing.skillId), registry) := by
  rw [insert, indexed.enter_of_mem known]
  rfl

theorem insert_of_not_mem (indexed : registry.roster.Indexed Section.skillId)
    (unknown : phrasing.skillId ∉ registry.ids) :
    ∃ extended, registry.insert phrasing = (.ok (), extended) ∧
      extended.sections = registry.sections ++ [phrasing] := by
  obtain ⟨roster, entered, entries_eq⟩ := indexed.enter_of_not_mem unknown
  refine ⟨⟨roster⟩, ?_, entries_eq⟩
  rw [insert, entered]
  rfl

theorem insert_indexed (indexed : registry.roster.Indexed Section.skillId) (phrasing : Section) :
    (registry.insert phrasing).2.roster.Indexed Section.skillId :=
  indexed.enter phrasing

/-- The registry after calls that insert sections, one after the other. -/
def inserted (calls : List Section) : SectionRegistry :=
  calls.foldl (fun registry phrasing => (registry.insert phrasing).2) .empty

theorem inserted_roster (calls : List Section) :
    (inserted calls).roster = Roster.entered Section.skillId calls := by
  rw [inserted, Roster.entered]
  exact (List.foldl_hom SectionRegistry.roster fun _ _ => rfl).symm

/-- What a registry shows after some calls that insert sections. -/
structure Shows (calls : List Section) (registry : SectionRegistry) : Prop where
  /-- The ids are listed where they came first, and once. -/
  ids_nodup : registry.ids.Nodup
  ids_eq : registry.ids = (calls.map Section.skillId).eraseDups
  /-- The section listed with an id is the one that is looked up. -/
  get?_of_mem : ∀ phrasing ∈ registry.sections, registry.get? phrasing.skillId = some phrasing
  size_eq : registry.size = registry.ids.length
  /-- Each id has the section that came first with it. -/
  get?_eq : ∀ skillId, registry.get? skillId = calls.find? fun phrasing => phrasing.skillId = skillId
  resolve_eq : ∀ skillId, registry.resolve skillId =
    (calls.find? fun phrasing => phrasing.skillId = skillId).elim
      (.error (.unknownSection skillId)) .ok
  /-- No place in the index lies past the end. -/
  place_lt : ∀ skillId place, registry.roster.places.get? skillId = some place →
    place < registry.size
  /-- A section with a known id is refused, and that changes nothing. -/
  refused : ∀ phrasing : Section, phrasing.skillId ∈ registry.ids →
    registry.insert phrasing = (.error (.duplicateSection phrasing.skillId), registry)
  /-- A section with a new id is listed at the end. -/
  accepted : ∀ phrasing : Section, phrasing.skillId ∉ registry.ids →
    ∃ extended, registry.insert phrasing = (.ok (), extended) ∧
      extended.sections = registry.sections ++ [phrasing]

/-- What a registry shows depends on the first call with each id. -/
theorem inserted_shows (calls : List Section) : Shows calls (inserted calls) := by
  have indexed : (inserted calls).roster.Indexed Section.skillId := by
    rw [inserted_roster]
    exact Roster.entered_indexed calls
  have get?_eq : ∀ skillId, (inserted calls).get? skillId =
      calls.find? fun phrasing => phrasing.skillId = skillId := by
    intro skillId
    rw [get?, inserted_roster, Roster.entered_get?]
  constructor
  case ids_nodup => exact indexed.nodup
  case ids_eq => rw [ids, sections, inserted_roster, Roster.entered_names]
  case get?_of_mem =>
    intro phrasing member
    exact indexed.get?_of_mem member
  case size_eq => rw [size, ids, List.length_map]
  case get?_eq => exact get?_eq
  case resolve_eq =>
    intro skillId
    rw [resolve, get?_eq]
    cases calls.find? fun phrasing => phrasing.skillId = skillId with
    | some phrasing => rfl
    | none => rfl
  case place_lt =>
    intro skillId place placed
    exact indexed.place_lt placed
  case refused =>
    intro phrasing known
    exact insert_of_mem indexed known
  case accepted =>
    intro phrasing unknown
    exact insert_of_not_mem indexed unknown

/-- A section of a definition: its patterns are those of the definition that compile, in order. -/
def OfDefinition (definition : SectionDefinition) (phrasing : Section) : Prop :=
  phrasing.skillId = definition.skillId ∧
    phrasing.patterns.map Except.ok =
      (definition.patterns.map PatternDefinition.compile).filter Except.isOk

theorem ofDefinition_ofDefinition (definition : SectionDefinition) :
    OfDefinition definition (.ofDefinition definition) := by
  refine ⟨rfl, ?_⟩
  rw [Section.ofDefinition]
  induction definition.patterns with
  | nil => rfl
  | cons pattern rest ih =>
    cases compiled : pattern.compile with
    | ok whole =>
      simp only [List.filterMap_cons, compiled, Except.toOption, List.map_cons, List.filter_cons,
        Except.isOk, Except.toBool, ↓reduceIte, ← ih]
    | error fault =>
      simp only [List.filterMap_cons, compiled, Except.toOption, List.map_cons, List.filter_cons,
        Except.isOk, Except.toBool, Bool.false_eq_true, ↓reduceIte, ← ih]

/-- The first definition with an id that is known, or that an earlier definition has. -/
def FirstRepeat (known : List String) (definitions : List SectionDefinition)
    (definition : SectionDefinition) : Prop :=
  ∃ before after, definitions = before ++ definition :: after ∧
    (known ++ before.map SectionDefinition.skillId).Nodup ∧
    definition.skillId ∈ known ++ before.map SectionDefinition.skillId

namespace FirstRepeat

variable {known : List String} {definitions : List SectionDefinition}
  {definition first : SectionDefinition}

theorem not_nodup (repeats : FirstRepeat known definitions definition) :
    ¬(known ++ definitions.map SectionDefinition.skillId).Nodup := by
  obtain ⟨before, after, split, -, member⟩ := repeats
  intro differ
  rw [split, List.map_append, List.map_cons, ← List.append_assoc, List.nodup_append] at differ
  exact differ.2.2 _ member _ (List.mem_cons_self ..) rfl

theorem head (distinct : known.Nodup) (member : first.skillId ∈ known) :
    FirstRepeat known (first :: definitions) first := by
  refine ⟨[], definitions, rfl, ?_, ?_⟩
  · rwa [List.map_nil, List.append_nil]
  · rwa [List.map_nil, List.append_nil]

theorem tail (repeats : FirstRepeat (known ++ [first.skillId]) definitions definition) :
    FirstRepeat known (first :: definitions) definition := by
  obtain ⟨before, after, split, distinct, member⟩ := repeats
  rw [List.append_assoc] at distinct member
  exact ⟨first :: before, after, by rw [split, List.cons_append], distinct, member⟩

end FirstRepeat

/-- Either all ids are new, and the sections of all definitions are inserted; or the first one that is
not is named. -/
theorem insertEach_verdict (definitions : List SectionDefinition) {registry : SectionRegistry}
    (indexed : registry.roster.Indexed Section.skillId) :
    (∃ loaded, registry.insertEach definitions = .ok loaded ∧
      (registry.ids ++ definitions.map SectionDefinition.skillId).Nodup ∧
      loaded = (definitions.map Section.ofDefinition).foldl
        (fun registry phrasing => (registry.insert phrasing).2) registry ∧
      loaded.sections = registry.sections ++ definitions.map Section.ofDefinition) ∨
    ∃ definition, FirstRepeat registry.ids definitions definition ∧
      registry.insertEach definitions = .error (.duplicateSection definition.skillId) := by
  -- For any registry, since each definition that is accepted adds its id to the known ones.
  induction definitions generalizing registry with
  | nil =>
    left
    refine ⟨registry, rfl, ?_, rfl, ?_⟩
    · rw [List.map_nil, List.append_nil]
      exact indexed.nodup
    · rw [List.map_nil, List.append_nil]
  | cons definition rest ih =>
    by_cases known : (Section.ofDefinition definition).skillId ∈ registry.ids
    · right
      refine ⟨definition, FirstRepeat.head indexed.nodup known, ?_⟩
      rw [insertEach, insert_of_mem indexed known]
      rfl
    · obtain ⟨extended, accepted, sections_eq⟩ := insert_of_not_mem indexed known
      have stillIndexed := insert_indexed indexed (.ofDefinition definition)
      rw [accepted] at stillIndexed
      have ids_eq : extended.ids = registry.ids ++ [definition.skillId] := by
        rw [ids, sections_eq, List.map_append]
        rfl
      rw [insertEach, accepted, List.map_cons, List.map_cons, List.foldl_cons, accepted]
      rcases ih stillIndexed with ⟨loaded, succeeds, distinct, runs, lists⟩ | ⟨repeating, first, fails⟩
      · left
        rw [ids_eq, List.append_assoc] at distinct
        rw [sections_eq, List.append_assoc] at lists
        exact ⟨loaded, succeeds, distinct, runs, lists⟩
      · right
        rw [ids_eq] at first
        exact ⟨repeating, first.tail, fails⟩

structure Loads (definitions : List SectionDefinition) : Prop where
  /-- It succeeds if the ids differ, whatever the patterns are. -/
  succeeds_iff : (∃ registry, load definitions = .ok registry) ↔
    (definitions.map SectionDefinition.skillId).Nodup
  /-- It comes to inserting the sections of the definitions in order. -/
  loaded : ∀ registry, load definitions = .ok registry →
    registry = inserted registry.sections ∧ List.Forall₂ OfDefinition definitions registry.sections
  /-- Otherwise the first id that repeats an earlier one is named. -/
  refused : ∀ error, load definitions = .error error → ∃ definition,
    FirstRepeat [] definitions definition ∧ error = .duplicateSection definition.skillId

theorem loads (definitions : List SectionDefinition) : Loads definitions := by
  have indexed : SectionRegistry.empty.roster.Indexed Section.skillId := Roster.indexed_empty
  rcases insertEach_verdict definitions indexed with
    ⟨loaded, succeeds, distinct, runs, lists⟩ | ⟨definition, first, fails⟩
  · refine ⟨⟨fun _ => distinct, fun _ => ⟨loaded, succeeds⟩⟩, ?_, ?_⟩
    · intro registry isLoaded
      obtain rfl : loaded = registry := Except.ok.inj (succeeds.symm.trans isLoaded)
      have lists : loaded.sections = definitions.map Section.ofDefinition := lists
      rw [lists, List.forall₂_map_right_iff, List.forall₂_same]
      exact ⟨runs, fun definition _ => ofDefinition_ofDefinition definition⟩
    · intro error isRefused
      cases succeeds.symm.trans isRefused
  · refine ⟨⟨?_, fun differ => absurd differ first.not_nodup⟩, ?_, ?_⟩
    · rintro ⟨registry, isLoaded⟩
      cases fails.symm.trans isLoaded
    · intro registry isLoaded
      cases fails.symm.trans isLoaded
    · intro error isRefused
      exact ⟨definition, first, Except.error.inj (isRefused.symm.trans fails)⟩

end SectionRegistry

/-- Whatever is inserted into a registry of sections, it keeps the first section of each id, in order
and where it is looked up; and loading definitions is inserting their sections, or else names the
first id that is repeated. -/
theorem section_registration (calls : List Section) (definitions : List SectionDefinition) :
    SectionRegistry.Shows calls (.inserted calls) ∧ SectionRegistry.Loads definitions :=
  ⟨SectionRegistry.inserted_shows calls, SectionRegistry.loads definitions⟩

namespace SkillRegistry

variable {m : Type → Type} {registry : SkillRegistry m} {info : SkillInfo m}

theorem register_of_mem (indexed : registry.roster.Indexed SkillInfo.id)
    (known : info.id ∈ registry.ids) :
    registry.register info = (.error (.duplicateSkill info.id), registry) := by
  rw [register, indexed.enter_of_mem known]
  rfl

theorem register_of_not_mem (indexed : registry.roster.Indexed SkillInfo.id)
    (unknown : info.id ∉ registry.ids) :
    ∃ extended, registry.register info = (.ok (), extended) ∧
      extended.skills = registry.skills ++ [info] ∧ extended.fallback = registry.fallback := by
  obtain ⟨roster, entered, entries_eq⟩ := indexed.enter_of_not_mem unknown
  refine ⟨{ registry with roster }, ?_, entries_eq, rfl⟩
  rw [register, entered]
  rfl

inductive Change (m : Type → Type)
  | register (info : SkillInfo m)
  | setFallback (info : SkillInfo m)

namespace Change

def apply (registry : SkillRegistry m) : Change m → SkillRegistry m
  | .register info => (registry.register info).2
  | .setFallback info => registry.setFallback info

def registers? : Change m → Option (SkillInfo m)
  | .register info => some info
  | .setFallback _ => none

def fallback? : Change m → Option (SkillInfo m)
  | .register _ => none
  | .setFallback info => some info

end Change

def changed (changes : List (Change m)) : SkillRegistry m :=
  changes.foldl Change.apply .empty

theorem changed_concat (changes : List (Change m)) (change : Change m) :
    changed (changes ++ [change]) = change.apply (changed changes) := by
  simp only [changed, List.foldl_append, List.foldl_cons, List.foldl_nil]

theorem changed_roster (changes : List (Change m)) :
    (changed changes).roster = Roster.entered SkillInfo.id (changes.filterMap Change.registers?) := by
  induction changes using List.reverseRecOn with
  | nil => rfl
  | append_singleton changes change ih =>
    rw [changed_concat, List.filterMap_append]
    cases change with
    | register info =>
      simp only [List.filterMap_cons, Change.registers?, List.filterMap_nil]
      rw [Roster.entered_concat, ← ih]
      rfl
    | setFallback info =>
      simp only [List.filterMap_cons, Change.registers?, List.filterMap_nil, List.append_nil]
      rw [← ih]
      rfl

theorem changed_fallback (changes : List (Change m)) :
    (changed changes).fallback = (changes.filterMap Change.fallback?).getLast? := by
  induction changes using List.reverseRecOn with
  | nil => rfl
  | append_singleton changes change ih =>
    rw [changed_concat, List.filterMap_append]
    cases change with
    | register info =>
      simp only [List.filterMap_cons, Change.fallback?, List.filterMap_nil, List.append_nil]
      rw [← ih]
      rfl
    | setFallback info =>
      simp only [List.filterMap_cons, Change.fallback?, List.filterMap_nil, List.getLast?_concat]
      rfl

/-- What can be asked of two registries has the same answers, the fallback apart. -/
structure SameSkills (first second : SkillRegistry m) : Prop where
  skills_eq : first.skills = second.skills
  size_eq : first.size = second.size
  resolve_eq : ∀ id, first.resolve id = second.resolve id
  available_eq : ∀ context, first.available context = second.available context
  enabled_eq : ∀ context, first.enabled context = second.enabled context

/-- What a registry shows after some calls, in any surroundings. -/
structure Shows (changes : List (Change m)) (registry : SkillRegistry m) : Prop where
  /-- The ids are listed where they were first to be registered, and once. -/
  ids_nodup : registry.ids.Nodup
  ids_eq : registry.ids = ((changes.filterMap Change.registers?).map SkillInfo.id).eraseDups
  size_eq : registry.size = registry.ids.length
  /-- The skill listed with an id is the one that is looked up. -/
  resolve_of_mem : ∀ info ∈ registry.skills, registry.resolve info.id = .ok info
  /-- Each id has the skill that was first to be registered with it. -/
  resolve_eq : ∀ id, registry.resolve id =
    ((changes.filterMap Change.registers?).find? fun info => info.id = id).elim
      (.error (.unknownSkill id)) .ok
  /-- No place in the index lies past the end. -/
  place_lt : ∀ id place, registry.roster.places.get? id = some place → place < registry.size
  fallback_eq : registry.fallback = (changes.filterMap Change.fallback?).getLast?
  /-- A skill with a known id is refused, and that changes nothing. -/
  refused : ∀ info : SkillInfo m, info.id ∈ registry.ids →
    registry.register info = (.error (.duplicateSkill info.id), registry)
  /-- A skill with a new id is listed at the end, and the fallback stays. -/
  accepted : ∀ info : SkillInfo m, info.id ∉ registry.ids →
    ∃ extended, registry.register info = (.ok (), extended) ∧
      extended.skills = registry.skills ++ [info] ∧ extended.fallback = registry.fallback
  /-- A new fallback leaves the skills as they are, whatever its id is. -/
  setFallback : ∀ info : SkillInfo m, (registry.setFallback info).fallback = some info ∧
    SameSkills (registry.setFallback info) registry
  /-- The skills that can be used, and of them those that are switched on, keep their order. -/
  available_sublist : ∀ context, (registry.available context).Sublist registry.skills
  enabled_sublist : ∀ context, (registry.enabled context).Sublist (registry.available context)
  mem_available_iff : ∀ context info, info ∈ registry.available context ↔
    info ∈ registry.skills ∧ info.isAvailable context = true
  mem_enabled_iff : ∀ context info, info ∈ registry.enabled context ↔
    info ∈ registry.available context ∧
      context.preferences.bool (Preferences.enabledKey info.id) info.enabledByDefault = true

theorem setFallback_sameSkills (registry : SkillRegistry m) (info : SkillInfo m) :
    SameSkills (registry.setFallback info) registry :=
  ⟨rfl, rfl, fun _ => rfl, fun _ => rfl, fun _ => rfl⟩

/-- Enabled skills are the available ones that are switched on. -/
theorem enabled_eq_filter_available (registry : SkillRegistry m) (context : Context) :
    registry.enabled context = (registry.available context).filter fun info =>
      context.preferences.bool (Preferences.enabledKey info.id) info.enabledByDefault := by
  rw [available, List.filter_filter, enabled]
  congr 1
  funext info
  rw [SkillInfo.isEnabled, Bool.and_comm]

/-- What a registry shows depends on the first call that registers each id, and on the last one that
sets the fallback. -/
theorem changed_shows (changes : List (Change m)) : Shows changes (changed changes) := by
  have indexed : (changed changes).roster.Indexed SkillInfo.id := by
    rw [changed_roster]
    exact Roster.entered_indexed _
  constructor
  case ids_nodup => exact indexed.nodup
  case ids_eq => rw [ids, skills, changed_roster, Roster.entered_names]
  case size_eq => rw [size, ids, List.length_map]
  case resolve_of_mem =>
    intro info member
    rw [resolve, indexed.get?_of_mem member]
  case resolve_eq =>
    intro id
    rw [resolve, changed_roster, Roster.entered_get?]
    cases (changes.filterMap Change.registers?).find? fun info => info.id = id with
    | some info => rfl
    | none => rfl
  case place_lt =>
    intro id place placed
    exact indexed.place_lt placed
  case fallback_eq => exact changed_fallback changes
  case refused =>
    intro info known
    exact register_of_mem indexed known
  case accepted =>
    intro info unknown
    exact register_of_not_mem indexed unknown
  case setFallback =>
    intro info
    exact ⟨rfl, setFallback_sameSkills _ info⟩
  case available_sublist =>
    intro context
    exact List.filter_sublist
  case enabled_sublist =>
    intro context
    rw [enabled_eq_filter_available]
    exact List.filter_sublist
  case mem_available_iff =>
    intro context info
    rw [available, List.mem_filter]
  case mem_enabled_iff =>
    intro context info
    rw [enabled_eq_filter_available, List.mem_filter]

end SkillRegistry

/-- Whatever is registered and set as the fallback, a registry of skills keeps the first skill of each
id, in order and where it is looked up, and the last fallback. -/
theorem skill_registration {m : Type → Type} (changes : List (SkillRegistry.Change m)) :
    SkillRegistry.Shows changes (.changed changes) :=
  SkillRegistry.changed_shows changes

end SkillDispatch
