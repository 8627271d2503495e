import JsonQuery.Number.Basic

/-!
JSON values. Objects keep the order of their members, because rows are shown and
exported in that order. A record is the member list of an object, read as an
ordered map: each key occurs once, and a write to a present key keeps its place.
-/

namespace JsonQuery

/-- A JSON value. -/
inductive Value where
  | null
  | bool (value : Bool)
  | number (value : Number)
  | string (value : String)
  | array (items : List Value)
  | object (members : List (String × Value))
  deriving Repr, Inhabited

/-- An ordered map from keys to values. -/
abbrev Record := List (String × Value)

namespace Value

/-- An integer as a value. -/
def ofInt (n : Int) : Value := .number (.int n)

/-- A double-precision number as a value. -/
def ofFloat (x : Binary64) : Value := .number (.float x)

/-- Whether the value is null. -/
def isNull : Value → Bool
  | .null => true
  | _ => false

/-- The number a value is; booleans are none. -/
def number? : Value → Option Number
  | .number n => some n
  | _ => none

/-- The items of an array. -/
def items? : Value → Option (List Value)
  | .array items => some items
  | _ => none

/-- The members of an object. -/
def record? : Value → Option Record
  | .object members => some members
  | _ => none

/-- The word for the kind of a value in a report about it. -/
def kindWord : Value → String
  | .null => "NoneType"
  | .bool _ => "bool"
  | .number (.int _) => "int"
  | .number (.float _) => "float"
  | .string _ => "str"
  | .array _ => "list"
  | .object _ => "dict"

/-- Whether a value counts as given: null, false, zero and everything empty do not. -/
def isGiven : Value → Bool
  | .null => false
  | .bool b => b
  | .number n => !n.same (.int 0)
  | .string s => !s.isEmpty
  | .array items => !items.isEmpty
  | .object members => !members.isEmpty

end Value

namespace Record

/-- The value under a key. -/
def get? (r : Record) (key : String) : Option Value := r.lookup key

/-- The value under a key, null when the key is absent. -/
def get (r : Record) (key : String) : Value := (r.get? key).getD .null

/-- Whether the key is present. -/
def hasKey (r : Record) (key : String) : Bool := (r.get? key).isSome

/-- The record with a value written under a key: in the key's place if it is present,
at the end otherwise. -/
def put (r : Record) (key : String) (value : Value) : Record :=
  match r with
  | [] => [(key, value)]
  | (k, v) :: rest => if k == key then (key, value) :: rest else (k, v) :: put rest key value

/-- The members written into the record one after the other. -/
def putAll (r : Record) (members : List (String × Value)) : Record :=
  members.foldl (fun acc m => acc.put m.1 m.2) r

/-- The keys in order. -/
def keys (r : Record) : List String := r.map (·.1)

end Record

/-- The keys of all records in the order in which they first appear, each once. -/
def columnNames (rows : List Record) : List String :=
  rows.foldl (fun names row =>
    row.foldl (fun names m => if names.contains m.1 then names else names ++ [m.1]) names) []

end JsonQuery
