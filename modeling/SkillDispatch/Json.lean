import SkillDispatch.Decimal.Shortest
import SkillDispatch.Text.NameMap
import SkillDispatch.Text.Quoted

set_option autoImplicit false

namespace SkillDispatch

open Text

/-- A number: whole, if it was written as a whole number that fits 64 bits, and else a double. -/
inductive Json.Number
  | whole (value : Int)
  | real (value : Float)
  deriving DecidableEq

/-- A JSON value. The fields of an object have different names and are in the order of their
names. -/
inductive Json
  | null
  | bool (value : Bool)
  | number (value : Json.Number)
  | string (value : String)
  | array (items : List Json)
  | object (fields : List (String × Json))

namespace Json

/-- An object with these fields; a later field replaces an earlier one of its name. -/
def ofFields (fields : List (String × Json)) : Json :=
  .object (fields.foldl (fun bound (name, value) => bindName name value bound) [])

def ofStrings (strings : List String) : Json :=
  .array (strings.map .string)

/-- A field that is written only if there is something to write. -/
def fieldUnless (absent : Bool) (name : String) (value : Json) : List (String × Json) :=
  if absent then [] else [(name, value)]

/-- A field for a string that may be absent. -/
def fieldIfSome (name : String) : Option String → List (String × Json)
  | none => []
  | some value => [(name, .string value)]

def bool? : Json → Option Bool
  | .bool value => some value
  | _ => none

def string? : Json → Option String
  | .string value => some value
  | _ => none

def Number.describe : Number → String
  | .whole value => toString value
  | .real value => Decimal.compact value

mutual

def describe : Json → String
  | .null => "Null"
  | .bool value => "Bool(" ++ toString value ++ ")"
  | .number value => "Number(" ++ value.describe ++ ")"
  | .string value => "String(" ++ quoted value ++ ")"
  | .array items => "Array [" ++ ", ".intercalate (describeItems items) ++ "]"
  | .object fields => "Object \x7b" ++ ", ".intercalate (describeFields fields) ++ "\x7d"

def describeItems : List Json → List String
  | [] => []
  | item :: rest => item.describe :: describeItems rest

def describeFields : List (String × Json) → List String
  | [] => []
  | (name, value) :: rest => (quoted name ++ ": " ++ value.describe) :: describeFields rest

end

end Json

end SkillDispatch
