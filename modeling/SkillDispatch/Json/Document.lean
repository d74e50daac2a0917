import SkillDispatch.Json
import SkillDispatch.Json.Lexeme

set_option autoImplicit false

/- JSON documents: texts read as far as they can be read, faults included. What is wrong with a text
depends on what is wanted of it: a value that is skipped may hold numbers that are too large,
surrogates that do not pair up, and any depth of nesting. So a document keeps each fault where it
lies, and the readers of a document meet them from left to right. -/
namespace SkillDispatch.Json

open Decimal

mutual

/-- A value of a text, or what stands in its place. -/
inductive Document
  | null
  | bool (value : Bool)
  | number (value : Number)
  | string (value : String)
  /-- A number or a string that can be skipped but has no value. -/
  | unreadable
  /-- An array; a deep one lies deeper than values are read. -/
  | array (deep : Bool) (items : Items)
  | object (deep : Bool) (members : Members)
  | broken (fault : Break)

/-- The items of an array, up to its end or to a fault. -/
inductive Items
  | nil
  | fault (fault : Fault)
  | cons (item : Document) (rest : Items)

/-- The members of an object, up to its end or to a fault. A key has no text, when its surrogates do
not pair up. -/
inductive Members
  | nil
  | fault (fault : Break)
  | cons (key : Option String) (value : Document) (rest : Members)

end

structure Reader where
  /-- How many arrays and objects may lie in each other. -/
  depth : Nat
  /-- The value of a number; none, if it is too large. -/
  number? : Literal → Option Number

/-- The number that a literal is read as: whole, if it is written so and fits 64 bits, and else a
double. Zero with a sign is no whole number. -/
def Number.ofLiteral? (double? : Literal → Option Float) (literal : Literal) : Option Number :=
  let whole := Literal.number literal.whole
  if literal.isWhole && !literal.negative && whole < UInt64.size then some (.whole (Int.ofNat whole))
  else if literal.isWhole && literal.negative && 0 < whole && whole ≤ UInt64.size / 2 then
    some (.whole (-Int.ofNat whole))
  else (double? literal).map .real

def Reader.standard : Reader where
  depth := 127
  number? := Number.ofLiteral? Literal.double?

namespace Reader

mutual

/-- The value at the start of the lexemes, with the rest of them. -/
def value (reader : Reader) (depth : Nat) :
    (steps : Nat) → List Lexeme → Document × List Lexeme
  | 0, _ => (.broken .truncated, [])
  | steps + 1, text =>
    match text with
    | [] => (.broken .truncated, [])
    | .null :: rest => (.null, rest)
    | .bool value :: rest => (.bool value, rest)
    | .number literal :: rest =>
      (match reader.number? literal with
        | some value => .number value
        | none => .unreadable, rest)
    | .string value :: rest =>
      (match value with
        | some value => .string value
        | none => .unreadable, rest)
    | .openArray :: .closeArray :: rest => (.array (reader.depth ≤ depth) .nil, rest)
    | [.openArray] => (.array (reader.depth ≤ depth) (.fault .truncated), [])
    | .openArray :: rest =>
      let (items, rest) := reader.items (depth + 1) steps rest
      (.array (reader.depth ≤ depth) items, rest)
    | .openObject :: .closeObject :: rest => (.object (reader.depth ≤ depth) .nil, rest)
    | .openObject :: rest =>
      let (members, rest) := reader.members (depth + 1) steps rest
      (.object (reader.depth ≤ depth) members, rest)
    | .brokenString fault :: _ => (.broken fault, [])
    | .broken fault :: _ => (.broken fault, [])
    | _ :: _ => (.broken .malformed, [])

def items (reader : Reader) (depth : Nat) :
    (steps : Nat) → List Lexeme → Items × List Lexeme
  | 0, _ => (.fault .truncated, [])
  | steps + 1, text =>
    let (item, rest) := reader.value depth steps text
    match rest with
    | .closeArray :: rest => (.cons item .nil, rest)
    | .comma :: rest =>
      let (more, rest) := reader.items depth steps rest
      (.cons item more, rest)
    | [] => (.cons item (.fault .truncated), [])
    | _ :: _ => (.cons item (.fault .malformed), [])

def members (reader : Reader) (depth : Nat) :
    (steps : Nat) → List Lexeme → Members × List Lexeme
  | 0, _ => (.fault .truncated, [])
  | steps + 1, text =>
    match text with
    | .string key :: .colon :: rest =>
      let (item, rest) := reader.value depth steps rest
      match rest with
      | .closeObject :: rest => (.cons key item .nil, rest)
      | .comma :: rest =>
        let (more, rest) := reader.members depth steps rest
        (.cons key item more, rest)
      | [] => (.cons key item (.fault .truncated), [])
      | _ :: _ => (.cons key item (.fault .malformed), [])
    | [.string key] => (.cons key (.broken .truncated) .nil, [])
    | .string key :: _ => (.cons key (.broken .malformed) .nil, [])
    | [] => (.fault .truncated, [])
    | .brokenString fault :: _ => (.fault fault, [])
    | _ :: _ => (.fault .malformed, [])

end

/-- The document that a text holds, and whether anything follows it. Each step goes one lexeme on or
one level down. -/
def read (reader : Reader) (text : String) : Document × Bool :=
  let found := lexemes text.toList
  let (document, rest) := reader.value 0 (2 * found.length + 1) found
  (document, !rest.isEmpty)

end Reader

mutual

/-- What a reader meets that only looks for the end of a value. -/
def Document.skip : Document → Except Fault Unit
  | .array _ items => items.skip
  | .object _ members => members.skip
  | .broken fault => .error fault.skipping
  | _ => .ok ()

def Items.skip : Items → Except Fault Unit
  | .nil => .ok ()
  | .fault fault => .error fault
  | .cons item rest => do
    item.skip
    rest.skip

def Members.skip : Members → Except Fault Unit
  | .nil => .ok ()
  | .fault fault => .error fault.skipping
  | .cons _ value rest => do
    value.skip
    rest.skip

end

mutual

def Document.value : Document → Except Fault Json
  | .null => .ok .null
  | .bool value => .ok (.bool value)
  | .number value => .ok (.number value)
  | .string value => .ok (.string value)
  | .unreadable => .error .malformed
  | .array deep items => do
    if deep then .error .malformed
    return .array (← items.values)
  | .object deep members => do
    if deep then .error .malformed
    return .ofFields (← members.values)
  | .broken fault => .error fault.reading

def Items.values : Items → Except Fault (List Json)
  | .nil => .ok []
  | .fault fault => .error fault
  | .cons item rest => do
    let value ← item.value
    return value :: (← rest.values)

def Members.values : Members → Except Fault (List (String × Json))
  | .nil => .ok []
  | .fault fault => .error fault.reading
  | .cons none _ _ => .error .malformed
  | .cons (some key) value rest => do
    let value ← value.value
    return (key, value) :: (← rest.values)

end

/-- The number of items before the end or the fault. -/
def Items.length : Items → Nat
  | .cons _ rest => rest.length + 1
  | _ => 0

mutual

/-- How deep arrays and objects lie in each other. -/
def Document.height : Document → Nat
  | .array _ items => items.height + 1
  | .object _ members => members.height + 1
  | _ => 0

def Items.height : Items → Nat
  | .cons item rest => max item.height rest.height
  | _ => 0

def Members.height : Members → Nat
  | .cons _ value rest => max value.height rest.height
  | _ => 0

end

mutual

/-- The document of a JSON value. It has no faults and is nowhere too deep. -/
def Document.ofJson : Json → Document
  | .null => .null
  | .bool value => .bool value
  | .number value => .number value
  | .string value => .string value
  | .array items => .array false (Items.ofJson items)
  | .object fields => .object false (Members.ofJson fields)

def Items.ofJson : List Json → Items
  | [] => .nil
  | item :: rest => .cons (Document.ofJson item) (Items.ofJson rest)

def Members.ofJson : List (String × Json) → Members
  | [] => .nil
  | (key, value) :: rest => .cons (some key) (Document.ofJson value) (Members.ofJson rest)

end

end SkillDispatch.Json
