import SkillDispatch.Context
import SkillDispatch.Roster
import SkillDispatch.Skill
import SkillDispatch.Skill.Settings

set_option autoImplicit false

namespace SkillDispatch

/-- What is known of a skill before it is built, and how to build it. -/
structure SkillInfo (m : Type → Type) where
  id : String
  name : String
  enabledByDefault : Bool
  factory : Context → m (Except SkillError (Skill m))
  /-- Whether the skill can be used in some surroundings; always, if nothing is said. -/
  availability : Option (Context → Bool)
  settings : Option SkillSettings

namespace SkillInfo

variable {m : Type → Type}

def isAvailable (info : SkillInfo m) (context : Context) : Bool :=
  match info.availability with
  | some check => check context
  | none => true

/-- Whether the skill can be used and is switched on, by the user or by default. -/
def isEnabled (info : SkillInfo m) (context : Context) : Bool :=
  info.isAvailable context &&
    context.preferences.bool (Preferences.enabledKey info.id) info.enabledByDefault

/-- The text of what is known, with the names of the parts that can be shown. -/
def describe (info : SkillInfo m) : String :=
  "SkillInfo \x7b id: " ++ Text.quoted info.id ++ ", name: " ++ Text.quoted info.name ++
    ", enabled_by_default: " ++ toString info.enabledByDefault ++ ", settings: " ++
    (match info.settings with
      | some settings => "Some(" ++ settings.describe ++ ")"
      | none => "None") ++ ", .. \x7d"

end SkillInfo

structure SkillRegistry (m : Type → Type) where
  roster : Roster (SkillInfo m)
  fallback : Option (SkillInfo m)

namespace SkillRegistry

variable {m : Type → Type}

def empty : SkillRegistry m := ⟨.empty, none⟩

def skills (registry : SkillRegistry m) : List (SkillInfo m) :=
  registry.roster.entries

def size (registry : SkillRegistry m) : Nat :=
  registry.skills.length

def ids (registry : SkillRegistry m) : List String :=
  registry.skills.map SkillInfo.id

/-- Registers a skill, and gives the registry after that. An id that is taken stays with its
skill. -/
def register (registry : SkillRegistry m) (info : SkillInfo m) :
    Except SkillError Unit × SkillRegistry m :=
  let (entered, roster) := registry.roster.enter info.id info
  (if entered then .ok () else .error (.duplicateSkill info.id), { registry with roster })

/-- Sets the skill that answers when no other does. It is never selected. -/
def setFallback (registry : SkillRegistry m) (info : SkillInfo m) : SkillRegistry m :=
  { registry with fallback := some info }

def resolve (registry : SkillRegistry m) (id : String) : Except SkillError (SkillInfo m) :=
  match registry.roster.get? id with
  | some info => .ok info
  | none => .error (.unknownSkill id)

def available (registry : SkillRegistry m) (context : Context) : List (SkillInfo m) :=
  registry.skills.filter fun info => info.isAvailable context

def enabled (registry : SkillRegistry m) (context : Context) : List (SkillInfo m) :=
  registry.skills.filter fun info => info.isEnabled context

variable [Monad m]

def build (registry : SkillRegistry m) (id : String) (context : Context) :
    m (Except SkillError (Skill m)) :=
  match registry.resolve id with
  | .ok info => info.factory context
  | .error error => pure (.error error)

/-- Builds skills in order, up to the first that fails. -/
def buildEach (context : Context) :
    List (SkillInfo m) → m (Except SkillError (List (String × Skill m)))
  | [] => pure (.ok [])
  | info :: rest => do
    match ← info.factory context with
    | .error error => return .error error
    | .ok skill =>
      match ← buildEach context rest with
      | .error error => return .error error
      | .ok skills => return .ok ((info.id, skill) :: skills)

def buildEnabled (registry : SkillRegistry m) (context : Context) :
    m (Except SkillError (List (String × Skill m))) :=
  buildEach context (registry.enabled context)

/-- Builds the fallback, if there is one that can be used. -/
def buildFallback (registry : SkillRegistry m) (context : Context) :
    m (Except SkillError (Option (Skill m))) := do
  match registry.fallback with
  | none => return .ok none
  | some info =>
    if info.isAvailable context then return (← info.factory context).map some
    else return .ok none

end SkillRegistry

end SkillDispatch
