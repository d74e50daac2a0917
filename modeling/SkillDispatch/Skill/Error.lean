import SkillDispatch.Duration
import SkillDispatch.Section.Registry

set_option autoImplicit false

namespace SkillDispatch

open Json (Fault)

/-- Why a skill could not be registered, found, configured or built. -/
inductive SkillError
  | duplicateSkill (id : String)
  | unknownSkill (id : String)
  | buildFailed (id : String) (reason : String)
  | invalidConfig (fault : Fault)
  | grammar (error : GrammarError)
  deriving DecidableEq

def SkillError.message : SkillError → String
  | .duplicateSkill id => "skill '" ++ id ++ "' is already registered"
  | .unknownSkill id => "no skill is registered as '" ++ id ++ "'"
  | .buildFailed id reason => "failed to build skill '" ++ id ++ "': " ++ reason
  | .invalidConfig fault => "invalid configuration: " ++ fault.message
  | .grammar error => error.message

inductive ChainError
  | processingFailed (reason : String)
  | timedOut (timeout : Duration)
  | cancelled
  | renderingFailed (reason : String)
  deriving DecidableEq

def ChainError.message : ChainError → String
  | .processingFailed reason => "processing failed: " ++ reason
  | .timedOut timeout => "processing timed out after " ++ toString timeout
  | .cancelled => "processing was cancelled"
  | .renderingFailed reason => "rendering failed: " ++ reason

end SkillDispatch
