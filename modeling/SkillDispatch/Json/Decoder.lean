import SkillDispatch.Json.Document

set_option autoImplicit false

/- Decoders: from documents to values of a domain. A record is written as an object of its fields or
as an array of them. Whatever the form, the fault that lies furthest left is the one reported, and a
field that is missing comes last. -/
namespace SkillDispatch.Json

open Text

/-- Where a document comes from. In a text, an array with an item too many does not end where it
should; in a value, it just has the wrong length. -/
inductive Source
  | text
  | value
  deriving DecidableEq

abbrev Decoder (α : Type) := Source → Document → Except Fault α

def Document.describe : Document → String
  | .null => "null"
  | .bool value => "boolean `" ++ toString value ++ "`"
  | .number (.whole value) => "integer `" ++ toString value ++ "`"
  | .number (.real value) => "floating point `" ++ Decimal.compact value ++ "`"
  | .string value => "string " ++ quoted value
  | .array _ _ => "sequence"
  | .object _ _ => "map"
  | .unreadable => "unreadable value"
  | .broken _ => "broken text"

namespace Decoder

variable {α β : Type}

/-- The fault of a document that should be something else. A scalar is read before its type is
looked at; the type of an array or object shows at once. -/
def unexpected (expected : String) : Document → Fault
  | .unreadable => .malformed
  | .broken fault => fault.reading
  | document => .mismatch (.wrongType document.describe expected)

def json : Decoder Json := fun _ document =>
  document.value

def string : Decoder String
  | _, .string value => .ok value
  | _, document => .error (unexpected "a string" document)

def real : Decoder Float
  | _, .number (.whole value) => .ok (Float.ofInt value)
  | _, .number (.real value) => .ok value
  | _, document => .error (unexpected "a number" document)

/-- Accepts a whole number of 64 bits without sign. -/
def natural : Decoder Nat
  | _, .number (.whole value) =>
    if 0 ≤ value ∧ value.toNat < UInt64.size then .ok value.toNat
    else
      let found := Document.describe (.number (.whole value))
      .error (.mismatch (.wrongValue found "a natural number of 64 bits"))
  | _, document => .error (unexpected "a natural number of 64 bits" document)

/-- Accepts null in place of a value. -/
def nullable (decoder : Decoder α) : Decoder (Option α)
  | _, .null => .ok none
  | source, document => (decoder source document).map some

def items (decoder : Decoder α) (source : Source) : Items → Except Fault (List α)
  | .nil => .ok []
  | .fault fault => .error fault
  | .cons item rest => do
    let value ← decoder source item
    return value :: (← items decoder source rest)

def list (decoder : Decoder α) : Decoder (List α)
  | source, .array deep found => if deep then .error .malformed else items decoder source found
  | _, document => .error (unexpected "a sequence" document)

/-- Accepts an object with any keys. The last value of a key counts. -/
def map : Decoder (NameMap Json)
  | _, .object deep members => do
    if deep then .error .malformed
    let found ← members.values
    return found.foldl (fun bound (key, value) => bound.insert key value) .empty
  | _, document => .error (unexpected "a map" document)

/-- Decodes a text. Nothing may follow the value. -/
def ofText (decoder : Decoder α) (text : String) : Except Fault α := do
  let (document, more) := Reader.standard.read text
  let value ← decoder .text document
  if more then .error .malformed
  return value

def ofJson (decoder : Decoder α) (value : Json) : Except Fault α :=
  decoder .value (Document.ofJson value)

end Decoder

/-- The fields of a record as they were found. -/
structure Fields where
  found : List (String × Document)
  /-- What ended the search for fields, if it was not the end of the record. -/
  fault : Option Fault

namespace Fields

def ended (fault : Option Fault) : Fields := ⟨[], fault⟩

def after (name : String) (value : Document) (fields : Fields) : Fields :=
  ⟨(name, value) :: fields.found, fields.fault⟩

/-- The items of an array as the fields of these names; `surplus` is the fault of an item too
many. -/
def ofItems (surplus : Fault) : List String → Items → Fields
  | _, .fault fault => ended (some fault)
  | _, .nil => ended none
  | [], .cons _ _ => ended (some surplus)
  | name :: names, .cons item rest => after name item (ofItems surplus names rest)

/-- The members of an object that have one of these names. A name that repeats an earlier one is a
fault; members with other names are skipped. -/
def ofMembers (names : List String) : (earlier : List String) → Members → Fields
  | _, .nil => ended none
  | _, .fault fault => ended (some fault.reading)
  | _, .cons none _ _ => ended (some .malformed)
  | earlier, .cons (some key) value rest =>
    if key ∈ names then
      if key ∈ earlier then ended (some (.mismatch (.repeatedField key)))
      else after key value (ofMembers names (key :: earlier) rest)
    else match value.skip with
      | .error fault => ended (some fault)
      | .ok () => ofMembers names earlier rest

/-- The value of a name with its place among the fields, or the place where it is missing. -/
def find (name : String) : (place : Nat) → List (String × Document) → Nat × Option Document
  | place, [] => (place, none)
  | place, (other, value) :: rest =>
    if name = other then (place, some value) else find name (place + 1) rest

end Fields

/-- A decoder for a record with the given field names. It is told the fault of a field that is
missing, and gives each fault with its place among the fields. -/
structure RecordDecoder (α : Type) where
  names : List String
  decode : Source → (missing : String → Fault) → Fields → Except (Nat × Fault) α

namespace RecordDecoder

variable {α β : Type}

/-- A field; without a default it has to be there. -/
def field (name : String) (default : Option α) (decoder : Decoder α) : RecordDecoder α where
  names := [name]
  decode source missing fields :=
    match Fields.find name 0 fields.found with
    | (place, some document) => (decoder source document).mapError fun fault => (place, fault)
    | (place, none) =>
      match fields.fault, default with
      | some fault, _ => .error (place, fault)
      | none, some value => .ok value
      | none, none => .error (place, missing name)

def required (name : String) (decoder : Decoder α) : RecordDecoder α :=
  field name none decoder

def optional (name : String) (default : α) (decoder : Decoder α) : RecordDecoder α :=
  field name (some default) decoder

/-- Of two faults, the one further left. -/
def both (first : Except (Nat × Fault) (α → β)) (second : Except (Nat × Fault) α) :
    Except (Nat × Fault) β :=
  match first, second with
  | .ok function, .ok argument => .ok (function argument)
  | .ok _, .error fault => .error fault
  | .error fault, .ok _ => .error fault
  | .error fault, .error other => .error (if other.1 < fault.1 then other else fault)

/-- Reads two parts of one record. -/
instance : Applicative RecordDecoder where
  pure value := ⟨[], fun _ _ _ => .ok value⟩
  seq first second :=
    ⟨first.names ++ (second ()).names, fun source missing fields =>
      both (first.decode source missing fields) ((second ()).decode source missing fields)⟩

/-- Decodes the fields, and then nothing may be wrong with what follows them. -/
def run (decoder : RecordDecoder α) (source : Source) (missing : String → Fault)
    (fields : Fields) : Except Fault α :=
  match decoder.decode source missing fields, fields.fault with
  | .error (_, fault), _ => .error fault
  | .ok _, some fault => .error fault
  | .ok value, none => .ok value

def elements (count : Nat) : String :=
  toString count ++ if count = 1 then " element" else " elements"

/-- The fault of an array with more items than a record has fields. -/
def surplus (items : Items) : Source → Fault
  | .text => .malformed
  | .value => .mismatch (.wrongLength items.length "fewer elements in array")

def toDecoder (record : String) (decoder : RecordDecoder α) : Decoder α
  | source, .array deep items =>
    let fields := Fields.ofItems (surplus items source) decoder.names items
    let missing := fun _ => .mismatch (.wrongLength fields.found.length
      ("struct " ++ record ++ " with " ++ elements decoder.names.length))
    if deep then .error .malformed else decoder.run source missing fields
  | source, .object deep members =>
    let missing := fun name => .mismatch (.missingField name)
    if deep then .error .malformed
    else decoder.run source missing (Fields.ofMembers decoder.names [] members)
  | _, document => .error (Decoder.unexpected ("struct " ++ record) document)

end RecordDecoder

end SkillDispatch.Json
