set_option autoImplicit false

namespace SkillDispatch.Json

inductive Mismatch
  | wrongType (found expected : String)
  | wrongValue (found expected : String)
  | wrongLength (length : Nat) (expected : String)
  | missingField (name : String)
  | repeatedField (name : String)
  /-- The shape is right, and the value is refused all the same. -/
  | refused (reason : String)
  deriving DecidableEq

def Mismatch.message : Mismatch → String
  | .wrongType found expected => "invalid type: " ++ found ++ ", expected " ++ expected
  | .wrongValue found expected => "invalid value: " ++ found ++ ", expected " ++ expected
  | .wrongLength length expected =>
    "invalid length " ++ toString length ++ ", expected " ++ expected
  | .missingField name => "missing field `" ++ name ++ "`"
  | .repeatedField name => "duplicate field `" ++ name ++ "`"
  | .refused reason => reason

/-- What is wrong with a JSON text, or with the value it holds. -/
inductive Fault
  /-- The text ends too early. -/
  | truncated
  /-- The text is not JSON, or goes beyond what a reader takes on. -/
  | malformed
  | mismatch (cause : Mismatch)
  deriving DecidableEq

def Fault.message : Fault → String
  | .truncated => "the text ends too early"
  | .malformed => "the text is malformed"
  | .mismatch cause => cause.message

end SkillDispatch.Json
