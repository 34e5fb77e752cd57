import EntityQuery.Number.Binary64

/-!
JSON documents. The members of an object are kept in the order of their keys, one for each key, so
two documents that differ in the order of members only are the same value.
-/

namespace EntityQuery

/-- A number of a document: whole numbers that fit 64 bits are kept exactly. -/
inductive JsonNumber where
  | natural (n : UInt64)
  | negative (n : Int64)
  | float (x : Binary64)
  deriving DecidableEq, Repr

/-- A JSON document. -/
inductive Json where
  | null
  | bool (b : Bool)
  | number (n : JsonNumber)
  | string (s : String)
  | array (items : List Json)
  | object (members : List (String × Json))
  deriving Repr

/-- Equality of numbers; floats are compared numerically. -/
def JsonNumber.equal : JsonNumber → JsonNumber → Bool
  | .natural a, .natural b => a == b
  | .negative a, .negative b => a == b
  | .float a, .float b => a.equal b
  | _, _ => false

namespace Json

mutual

/-- Equality of documents. -/
def equal : Json → Json → Bool
  | .null, .null => true
  | .bool a, .bool b => a == b
  | .number a, .number b => a.equal b
  | .string a, .string b => a == b
  | .array as, .array bs => equalItems as bs
  | .object as, .object bs => equalMembers as bs
  | _, _ => false

/-- Equality of the items of two arrays, place by place. -/
def equalItems : List Json → List Json → Bool
  | [], [] => true
  | a :: as, b :: bs => equal a b && equalItems as bs
  | _, _ => false

/-- Equality of the members of two objects, in the order of keys. -/
def equalMembers : List (String × Json) → List (String × Json) → Bool
  | [], [] => true
  | (k, a) :: as, (l, b) :: bs => k == l && equal a b && equalMembers as bs
  | _, _ => false

end

/-- Members with one more; it replaces a member of the same key. -/
def insert (key : String) (value : Json) : List (String × Json) → List (String × Json)
  | [] => [(key, value)]
  | (k, v) :: rest =>
    match compare key k with
    | .lt => (key, value) :: (k, v) :: rest
    | .eq => (key, value) :: rest
    | .gt => (k, v) :: insert key value rest

/-- An object; of several members with one key the last counts. -/
def ofMembers (members : List (String × Json)) : Json :=
  .object (members.foldl (fun sorted (k, v) => insert k v sorted) [])

/-- The member of an object with the given key. -/
def get? (key : String) : Json → Option Json
  | .object members => members.lookup key
  | _ => none

mutual

/-- The document with every text in it passed through a function; keys stay. -/
def mapText (f : String → String) : Json → Json
  | .string s => .string (f s)
  | .array items => .array (mapTextItems f items)
  | .object members => .object (mapTextMembers f members)
  | j => j

/-- The items of an array with every text in them passed through a function. -/
def mapTextItems (f : String → String) : List Json → List Json
  | [] => []
  | item :: rest => mapText f item :: mapTextItems f rest

/-- The members of an object with every text in them passed through a function. -/
def mapTextMembers (f : String → String) : List (String × Json) → List (String × Json)
  | [] => []
  | (k, v) :: rest => (k, mapText f v) :: mapTextMembers f rest

end

/-- A natural number. -/
def ofNat (n : Nat) : Json := .number (.natural (UInt64.ofNat n))

/-- A 64 bit integer. -/
def ofInt64 (i : Int64) : Json :=
  if i < 0 then .number (.negative i) else .number (.natural i.toUInt64)

/-- A text or null. -/
def ofString? : Option String → Json
  | none => .null
  | some s => .string s

end Json

end EntityQuery
