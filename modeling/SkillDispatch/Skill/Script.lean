import SkillDispatch.Skill.Chain
import SkillDispatch.Skill.PausedClock
import SkillDispatch.Skill.Registry

set_option autoImplicit false

namespace SkillDispatch

structure Journal where
  /-- What happened, in order. -/
  lines : Array String
  /-- For each skill that was built, how often its work was done. -/
  runs : Array Nat

namespace Journal

def empty : Journal := ⟨#[], #[]⟩

def write (line : String) : StateM Journal Unit :=
  modify fun journal => { journal with lines := journal.lines.push line }

def takeLines : StateM Journal (List String) :=
  modifyGet fun journal => (journal.lines.toList, { journal with lines := #[] })

/-- Starts to count the runs of one more skill, and gives the place of the count. -/
def openCount : StateM Journal Nat :=
  modifyGet fun journal => (journal.runs.size, { journal with runs := journal.runs.push 0 })

def countRun (place : Nat) : StateM Journal Nat :=
  modifyGet fun journal =>
    let count := journal.runs.getD place 0 + 1
    (count, { journal with runs := journal.runs.setIfInBounds place count })

end Journal

namespace Script

inductive Scoring
  | coverage
  | constant (value : Float)
  /-- The share of literal tokens among all. -/
  | strict
  /-- The share of captured tokens among all. -/
  | captured
  /-- The fewer literal tokens, the better. -/
  | fewLiterals
  /-- A tenth for each literal token after the second. -/
  | tenths

def Scoring.scorer : Scoring → Scorer
  | .coverage => literalShare
  | .constant value => fun _ => .ofFloat value
  | .strict => fun coverage => .ofFloat (coverage.literal.toFloat / coverage.total.toFloat)
  | .captured => fun coverage => .ofFloat (coverage.captured.toFloat / coverage.total.toFloat)
  | .fewLiterals => fun coverage => .ofFloat (1.0 / (1 + coverage.literal).toFloat)
  | .tenths => fun coverage => .ofFloat ((coverage.literal.toFloat - 2.0) / 10.0)

inductive Yield
  /-- The text of the utterance. -/
  | text
  /-- The slots in words. -/
  | slots
  /-- The number of the run. -/
  | run
  /-- An empty text. -/
  | empty
  /-- It claims to be cancelled. -/
  | cancelled
  /-- It claims to be out of time. -/
  | timedOut
  deriving DecidableEq

structure Job where
  /-- The time that the work takes. -/
  delay : Duration
  /-- Fails with this reason, if one is given. -/
  failure : Option String
  /-- Gives the text of this slot, if one is named. -/
  slot : Option String
  yields : Yield

structure Output where
  /-- Fails with this reason, if one is given. -/
  failure : Option String
  title : String
  speech : Option String
  items : List RenderedItem

inductive Availability
  | always (usable : Bool)
  /-- If this preference is set. -/
  | preference (key : String)
  /-- In this locale. -/
  | locale (name : String)

def Availability.check (availability : Availability) (context : Context) : Bool :=
  match availability with
  | .always usable => usable
  | .preference key => context.preferences.bool key false
  | .locale name => context.locale = name

inductive Build
  | fails (reason : String)
  /-- A chain that listens to the section of some skill. -/
  | chain (sectionOf : String) (scoring : Scoring) (process : Job) (output : Output)
  /-- A skill that gives every utterance the same match. -/
  | fixed (found : Match) (output : Output)

end Script

open Script

structure Script where
  id : String
  name : String
  enabled : Bool
  availability : Option Availability
  settings : Option SkillSettings
  build : Build

namespace Script

def Job.result (process : Job) (utterance : Utterance) (slots : Slots) (run : Nat) :
    Except ChainError String :=
  match process.failure, process.slot with
  | some reason, _ => .error (.processingFailed reason)
  | none, some slot =>
    match slots.text? slot with
    | some text => .ok text
    | none => .error (.processingFailed ("no slot '" ++ slot ++ "'"))
  | none, none =>
    match process.yields with
    | .text => .ok utterance.text
    | .slots => .ok slots.describe
    | .run => .ok ("run " ++ toString run)
    | .empty => .ok ""
    | .cancelled => .error .cancelled
    | .timedOut => .error (.timedOut ⟨1500000⟩)

/-- The longest time that scripted work sleeps: thirty years of 365 days. -/
def longestSleep : Duration := .ofSeconds (30 * 365 * 86400) 0

/-- Scripted work with its effects: it is noted when it starts and when it is done. -/
def Job.work (process : Job) (id : String) (count : Nat) (utterance : Utterance)
    (slots : Slots) : Work (StateM Journal) String where
  start := Journal.write ("process " ++ id ++ " " ++ slots.describe)
  pauses := [⟨⟨min process.delay.nanos longestSleep.nanos⟩, pure ()⟩]
  finish := do
    let run ← Journal.countRun count
    Journal.write ("processed " ++ id ++ " run " ++ toString run)
    return process.result utterance slots run

/-- The rendered data, with the title, the speech and the items of the script. -/
def Output.rendered (output : Output) (body : String) : Rendered :=
  ⟨output.title, body, output.speech, output.items⟩

/-- The result of scripted rendering. Nothing can be made of no data. -/
def Output.result (output : Output) (data : String) : Except ChainError Rendered :=
  match output.failure with
  | some reason => .error (.renderingFailed reason)
  | none =>
    if data.isEmpty then .error (.renderingFailed "empty data") else .ok (output.rendered data)

def chainOver (id : String) (phrasing : Section) (scoring : Scoring) (process : Job)
    (output : Output) : StateM Journal (Chain (StateM Journal) String) := do
  let count ← Journal.openCount
  return {
    recognize := fun utterance => do
      let found ← phrasing.recognizer scoring.scorer utterance
      Journal.write ("recognize " ++ id ++ " " ++ phrasing.skillId ++ ": " ++ found.describe)
      return found
    process := process.work id count
    output := fun data => do
      Journal.write ("output " ++ id ++ " " ++ data)
      return output.result data }

/-- A skill that gives every utterance the same match. It does not look at its bounds, but notes
them. -/
def fixedSkill (id : String) (found : Match) (output : Output) : Skill (StateM Journal) where
  score _ := do
    Journal.write ("score " ++ id ++ ": " ++ found.describe)
    return found
  respond utterance selected control := do
    Journal.write ("respond " ++ id ++ " " ++ selected.describe ++ " timeout " ++
      toString control.timeout.millis ++ " cancelled " ++ toString control.cancelledAtOnce)
    match output.failure with
    | some reason => return .error (.processingFailed reason)
    | none => return .ok (output.rendered (utterance.text ++ " " ++ selected.describe))

def buildSkill (script : Script) (context : Context) :
    StateM Journal (Except SkillError (Skill (StateM Journal))) := do
  Journal.write ("build " ++ script.id)
  match script.build with
  | .fails reason => return .error (.buildFailed script.id reason)
  | .chain sectionOf scoring process output =>
    match context.sections.resolve sectionOf with
    | .error error => return .error (.grammar error)
    | .ok phrasing =>
      let chain ← chainOver script.id phrasing scoring process output
      return .ok chain.toSkill
  | .fixed found output => return .ok (fixedSkill script.id found output)

def info (script : Script) : SkillInfo (StateM Journal) where
  id := script.id
  name := script.name
  enabledByDefault := script.enabled
  factory := script.buildSkill
  availability := script.availability.map Availability.check
  settings := script.settings

end Script

end SkillDispatch
