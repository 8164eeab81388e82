/-
Typed values out of JSON.

* `Json.Decoder`: how a type is read from a text, and how it is taken from a
  value that has been read. The two differ in what they say of a fault: only
  the first knows where it is;
* `Decoder.text`, `Decoder.list`, `Decoder.viaValue`, `Decoder.record`.
-/
import ConsoleStrip.Json.Reader

namespace ConsoleStrip

namespace Json

/-- How a type is read. -/
structure Decoder (α : Type) where
  /-- From a text in which at most `depth - 1` brackets may be open. -/
  read : (depth : Nat) → Read α
  /-- From a value. -/
  take : Json → Except Cause α

namespace Decoder

/-- A value of a type; what is wrong, as a message. -/
def ofText {α : Type} (d : Decoder α) (s : String) : Except String α :=
  match Read.text (d.read maxDepth) s with
  | .ok a => .ok a
  | .error f => .error (f.message s)

/-- Fails on a value of another type than expected. Lists and objects are not
entered. -/
def mismatch {α : Type} (expected : String) (c : Char) : Read α := do
  let f ← match c with
    | '[' => pure Found.sequence
    | '\x7b' => pure Found.map
    | c => return ← Read.placed (do Read.refuse (.invalidType (← Read.scalar c).found expected))
  Read.placed (Read.refuse (.invalidType f expected))

/-- A value of another type than expected. -/
def mismatched {α : Type} (expected : String) (v : Json) : Except Cause α :=
  .error (.invalidType v.found expected)

/-- A string. -/
def text : Decoder String where
  read _ := do
    match ← Read.someChar .endInValue with
    | '"' =>
      Read.advance
      Read.string
    | c => mismatch "a string" c
  take
    | .str s => .ok s
    | v => mismatched "a string" v

/-- A list. -/
def list {α : Type} (d : Decoder α) : Decoder (List α) where
  read depth := Read.placed do
    match ← Read.someChar .endInValue with
    | '[' =>
      if depth ≤ 1 then Read.failNext .tooDeep
      Read.advance
      let n ← Read.fuel
      Read.enclosed (Read.elements (d.read (depth - 1)) n true) Read.endList
    | c => mismatch "a sequence" c
  take
    | .arr vs => vs.mapM d.take
    | v => mismatched "a sequence" v

/-- A type whose values are first read as they are. -/
def viaValue {α : Type} (f : Json → Except Cause α) : Decoder α where
  read depth := do
    match f (← Read.value depth) with
    | .ok a => return a
    | .error c => Read.refuse c
  take := f

/-! ### Records -/

/-- The fields of a record that have been read. -/
abbrev Fields (β : Type) := List (String × β)

/-- The members of an object that are left, with those that have been read.
A field that is not known is passed over; one that is there twice is a fault. -/
def readMembers {β : Type} (fields : List (String × Decoder β)) (depth : Nat) :
    (fuel : Nat) → (first : Bool) → Fields β → Read (Fields β)
  | 0, _, acc => return acc
  | fuel + 1, first, acc => do
    unless ← Read.hasMember first do return acc
    let k ← Read.key
    match fields.lookup k with
    | none =>
      Read.colon
      Read.skipValue
      readMembers fields depth fuel false acc
    | some d =>
      if (acc.lookup k).isSome then Read.refuse (.duplicateField k)
      Read.colon
      let b ← d.read depth
      readMembers fields depth fuel false (acc ++ [(k, b)])

/-- The fields of a record that is written as a list, in their order. Those at
the end may be missing. -/
def readPositional {β : Type} (depth : Nat) :
    List (String × Decoder β) → (first : Bool) → Read (Fields β)
  | [], _ => return []
  | (k, d) :: rest, first => do
    unless ← Read.hasElement first do return []
    let b ← d.read depth
    return (k, b) :: (← readPositional depth rest false)

/-- The fields of a record out of the members of an object. -/
def takeMembers {β : Type} (fields : List (String × Decoder β)) :
    List (String × Json) → Except Cause (Fields β)
  | [] => .ok []
  | (k, v) :: rest => do
    match fields.lookup k with
    | none => takeMembers fields rest
    | some d =>
      let b ← d.take v
      return (k, b) :: (← takeMembers fields rest)

/-- The fields of a record out of a list. -/
def takePositional {β : Type} (total : Nat) :
    List (String × Decoder β) → List Json → Except Cause (Fields β)
  | _, [] => .ok []
  | [], _ :: _ => .error (.invalidLength total "fewer elements in array")
  | (k, d) :: fields, v :: rest => do
    let b ← d.take v
    return (k, b) :: (← takePositional total fields rest)

/-- A record with a name: an object, or a list of its fields. -/
def record {β : Type} (name : String) (fields : List (String × Decoder β)) :
    Decoder (Fields β) where
  read depth := Read.placed do
    match ← Read.someChar .endInValue with
    | '[' =>
      if depth ≤ 1 then Read.failNext .tooDeep
      Read.advance
      Read.enclosed (readPositional (depth - 1) fields true) Read.endList
    | '\x7b' =>
      if depth ≤ 1 then Read.failNext .tooDeep
      Read.advance
      let n ← Read.fuel
      Read.enclosed (readMembers fields (depth - 1) n true []) Read.endObject
    | c => mismatch ("struct " ++ name) c
  take
    | .arr vs => takePositional vs.length fields vs
    | .obj ms => takeMembers fields (distinctMembers ms)
    | v => mismatched ("struct " ++ name) v

/-- A decoder of another type, by a function on what is decoded. -/
def map {α β : Type} (f : α → β) (d : Decoder α) : Decoder β where
  read depth := do return f (← d.read depth)
  take v := return f (← d.take v)

end Decoder

end Json

end ConsoleStrip
