import Abridge.Error
import Abridge.Json.Reader

/-!
Formats: how a part of a configuration is decoded, from a JSON value in memory or from JSON text as
it is read.

A record is an object, whose unknown members are passed over, or an array that lists its fields in
order; fields that are not given keep their default. Members are visited in the order in which they
stand, and the first error wins. Text is read only as far as the format asks for, so that what is
wrong with it and what is wrong with its meaning are reported in the order in which they stand.
-/
namespace Abridge

abbrev Decoded (α : Type) := Except DecodeError α

/-- How a value is decoded. -/
structure Format (α : Type) where
  /-- From a JSON value. -/
  decode : Json → Decoded α
  /-- From the front of a JSON text, within a depth of nesting; with what follows. -/
  read : Nat → Text → Decoded (α × Text)

namespace Format

open Json.Reader (skipSpace)

/-- A fault of the text as an error. -/
def lift {α : Type} (result : Except Json.Fault α) : Decoded α :=
  result.mapError .syntaxFault

/-! ### Simple values -/

/-- A format without parts. An array or an object in its place is not looked into. -/
def simple {α : Type} (decode : Json → Decoded α) : Format α where
  decode
  read := fun _ t =>
    match skipSpace t with
    | '[' :: rest => do return (← decode (.array []), rest)
    | '\x7b' :: rest => do return (← decode (.object []), rest)
    | t => do
      let (json, rest) ← lift (Json.Reader.scalar t)
      return (← decode json, rest)

/-- A format whose text is read as a value first. -/
def buffered {α : Type} (decode : Json → Decoded α) : Format α where
  decode
  read := fun depth t => do
    let (json, rest) ← lift (Json.Reader.whole depth t)
    return (← decode json, rest)

def natural : Format Nat :=
  simple fun
    | .number (.natural n) => .ok n
    | .number (.negative n) => .error (.invalidValue (.number (.negative n)) .natural)
    | found => .error (.invalidType found .natural)

def boolean : Format Bool :=
  simple fun
    | .bool b => .ok b
    | found => .error (.invalidType found .boolean)

def string : Format String :=
  simple fun
    | .string s => .ok s
    | found => .error (.invalidType found .text)

def unit : Format Unit :=
  simple fun
    | .null => .ok ()
    | found => .error (.invalidType found .unit)

/-- A value that may be absent, which `null` says. -/
def option {α : Type} (f : Format α) : Format (Option α) where
  decode := fun
    | .null => .ok none
    | found => some <$> f.decode found
  read := fun depth t =>
    match skipSpace t with
    | 'n' :: rest => do return (none, ← lift (Json.Reader.word ['u', 'l', 'l'] rest))
    | t => do
      let (a, rest) ← f.read depth t
      return (some a, rest)

/-! ### Lists -/

/-- Reads the items of an array up to its bracket; each step takes one item. -/
def readItems {α : Type} (f : Format α) (depth : Nat) :
    Nat → List α → Text → Decoded (List α × Text)
  | 0, _, _ => .error (.syntaxFault .eofInList)
  | steps + 1, done, t => do
    match ← lift (Json.Reader.nextItem done.isEmpty t) with
    | .inl rest => return (done.reverse, rest)
    | .inr rest =>
      let (a, rest) ← f.read depth rest
      readItems f depth steps (a :: done) rest

/-- An array of values of one format. -/
def list {α : Type} (f : Format α) : Format (List α) where
  decode := fun
    | .array items => items.mapM f.decode
    | found => .error (.invalidType found .sequence)
  read := fun depth t =>
    match skipSpace t with
    | '[' :: rest => do readItems f (← lift (Json.Reader.enter depth)) (rest.length + 1) [] rest
    | '\x7b' :: _ => .error (.invalidType (.object []) .sequence)
    | t => do
      let (json, _) ← lift (Json.Reader.scalar t)
      throw (.invalidType json .sequence)

/-! ### Choices -/

/-- The choice with a name. -/
def choose {α : Type} (table : List (String × α)) (name : String) : Decoded α :=
  match table.lookup name with
  | some a => .ok a
  | none => .error (.unknownVariant name (table.map Prod.fst))

/-- Reads the only member of an object, whose opening brace has been read, as a choice. -/
def readMember {α : Type} (table : List (String × α)) (depth : Nat) (t : Text) :
    Decoded (α × Text) :=
  match skipSpace t with
  | '"' :: rest => do
    let (name, rest) ← lift (Json.Reader.string rest)
    let a ← choose table name
    let (_, rest) ← unit.read depth (← lift (Json.Reader.colon rest))
    match skipSpace rest with
    | '\x7d' :: rest => return (a, rest)
    | [] => throw (.syntaxFault .eofInObject)
    | _ => throw (.syntaxFault .expectedValue)
  | '\x7d' :: _ => .error (.syntaxFault .expectedValue)
  | [] => .error (.syntaxFault .eofInObject)
  | _ => .error (.syntaxFault .keyMustBeString)

/-- A choice by name: the name as a string, or as the only member of an object, with `null`. -/
def choice {α : Type} (table : List (String × α)) : Format α where
  decode := fun
    | .string name => choose table name
    | .object [(name, payload)] => do
      let a ← choose table name
      unit.decode payload
      return a
    | .object members => .error (.invalidValue (.object members) .singleKey)
    | found => .error (.invalidType found .choice)
  read := fun depth t =>
    match skipSpace t with
    | '"' :: rest => do
      let (name, rest) ← lift (Json.Reader.string rest)
      return (← choose table name, rest)
    | '\x7b' :: rest => do readMember table (← lift (Json.Reader.enter depth)) rest
    | [] => .error (.syntaxFault .eofInValue)
    | _ => .error (.syntaxFault .expectedValue)

/-! ### Records -/

/-- A field of a record: its name, and how it is set from a value or from text. -/
structure Field (σ : Type) where
  name : String
  decode : Json → σ → Decoded σ
  read : Nat → Text → σ → Decoded (σ × Text)

/-- The field that a setter gives a format to. -/
def field {σ α : Type} (name : String) (f : Format α) (put : α → σ → σ) : Field σ where
  name
  decode := fun json record => return put (← f.decode json) record
  read := fun depth t record => do
    let (a, rest) ← f.read depth t
    return (put a record, rest)

/-- Sets the fields that the members of an object name; `seen` holds the names so far. -/
def decodeMembers {σ : Type} (fields : List (Field σ)) :
    List String → σ → List (String × Json) → Decoded σ
  | _, record, [] => .ok record
  | seen, record, (name, json) :: rest =>
    match fields.find? (·.name == name) with
    | none => decodeMembers fields seen record rest
    | some f =>
      if seen.contains name then .error (.duplicateField name)
      else do decodeMembers fields (name :: seen) (← f.decode json record) rest

/-- Sets the fields in order from the items of an array, of which there are `length` in all. -/
def decodeItems {σ : Type} (length : Nat) : List (Field σ) → σ → List Json → Decoded σ
  | _, record, [] => .ok record
  | [], _, _ :: _ => .error (.invalidLength length)
  | f :: fields, record, json :: rest => do
    decodeItems length fields (← f.decode json record) rest

/-- Reads the members of an object up to its brace; each step takes one member. -/
def readFields {σ : Type} (fields : List (Field σ)) (depth : Nat) :
    Nat → Bool → List String → σ → Text → Decoded (σ × Text)
  | 0, _, _, _, _ => .error (.syntaxFault .eofInObject)
  | steps + 1, first, seen, record, t => do
    match ← lift (Json.Reader.nextName first t) with
    | .inl rest => return (record, rest)
    | .inr (name, rest) =>
      match fields.find? (·.name == name) with
      | none =>
        let rest ← lift (do Json.Reader.skip (← Json.Reader.colon rest))
        readFields fields depth steps false seen record rest
      | some f =>
        if seen.contains name then throw (.duplicateField name)
        let (record, rest) ← f.read depth (← lift (Json.Reader.colon rest)) record
        readFields fields depth steps false (name :: seen) record rest

/-- What follows the bracket that has to come behind the last field. -/
def closeArray (t : Text) : Decoded Text :=
  match skipSpace t with
  | ']' :: rest => .ok rest
  | [] => .error (.syntaxFault .eofInList)
  | ',' :: rest =>
    match skipSpace rest with
    | ']' :: _ => .error (.syntaxFault .trailingComma)
    | _ => .error (.syntaxFault .trailingCharacters)
  | _ => .error (.syntaxFault .trailingCharacters)

/-- Reads the fields in order from an array, `first` if none has been read. -/
def readInOrder {σ : Type} (depth : Nat) : List (Field σ) → Bool → σ → Text → Decoded (σ × Text)
  | [], _, record, t => do return (record, ← closeArray t)
  | f :: fields, first, record, t => do
    match ← lift (Json.Reader.nextItem first t) with
    | .inl rest => return (record, rest)
    | .inr rest =>
      let (record, rest) ← f.read depth rest record
      readInOrder depth fields false record rest

/-- A record, from the defaults that it starts with. -/
def record {σ : Type} (name : String) (fields : List (Field σ)) (start : σ) : Format σ where
  decode := fun
    | .object members => decodeMembers fields [] start members
    | .array items => decodeItems items.length fields start items
    | found => .error (.invalidType found (.record name))
  read := fun depth t =>
    match skipSpace t with
    | '[' :: rest => do readInOrder (← lift (Json.Reader.enter depth)) fields true start rest
    | '\x7b' :: rest => do
      readFields fields (← lift (Json.Reader.enter depth)) (rest.length + 1) true [] start rest
    | t => do
      let (json, _) ← lift (Json.Reader.scalar t)
      throw (.invalidType json (.record name))

/-! ### Objects with any names -/

/-- The members of an object, of which a repeated one replaces the one before. -/
def members : Format (List (String × Json)) where
  decode := fun
    | .object found => .ok (Json.sortedMembers found [])
    | found => .error (.invalidType found .map)
  read := fun depth t =>
    match skipSpace t with
    | '\x7b' :: _ => do
      match ← lift (Json.Reader.whole depth t) with
      | (.object found, rest) => return (Json.sortedMembers found [], rest)
      | (found, _) => throw (.invalidType found .map)
    | '[' :: _ => .error (.invalidType (.array []) .map)
    | t => do
      let (json, _) ← lift (Json.Reader.scalar t)
      throw (.invalidType json .map)

/-- The value that a whole text writes down. -/
def ofText {α : Type} (f : Format α) (t : Text) : Decoded α := do
  let (a, rest) ← f.read Json.Reader.depthLimit t
  lift (Json.Reader.finish rest)
  return a

end Format

end Abridge
