import JsonQuery.Value.Basic

/-!
The data of a YAML document: scalars, which may be moments of time and bytes beside the
scalars of JSON, sequences, mappings whose keys are scalars of any kind, sets of such keys,
and pairs whose first parts need not be scalars.
-/

namespace JsonQuery

/-- A scalar of a document: a value without parts, a day or a time as it is told, or bytes. -/
inductive YamlScalar where
  | value (v : Value)
  | day (text : String)
  | time (text : String)
  | bytes (octets : List UInt8)

/-- The data of a document. -/
inductive Yaml where
  | scalar (s : YamlScalar)
  | sequence (items : List Yaml)
  | mapping (entries : List (YamlScalar × Yaml))
  | keySet (keys : List YamlScalar)
  | pairs (items : List (Yaml × Yaml))

namespace YamlScalar

/-- The word for the kind of a scalar in a report about it. -/
def kindWord : YamlScalar → String
  | .value v => v.kindWord
  | .day _ => "datetime.date"
  | .time _ => "datetime.datetime"
  | .bytes _ => "bytes"

/-- The number that a scalar counts as; truth values count as one and zero. -/
def number? : YamlScalar → Option Number
  | .value (.number n) => some n
  | .value (.bool b) => some (.int (if b then 1 else 0))
  | _ => none

/-- The text of a scalar that is a text. -/
def text? : YamlScalar → Option String
  | .value (.string s) => some s
  | _ => none

/-- Whether two scalars are the same key. -/
def same (a b : YamlScalar) : Bool :=
  match a.number?, b.number? with
  | some m, some n => m.same n
  | none, none =>
      match a, b with
      | .value .null, .value .null => true
      | .value (.string s), .value (.string t) => s == t
      | .day s, .day t => s == t
      | .time s, .time t => s == t
      | .bytes s, .bytes t => s == t
      | _, _ => false
  | _, _ => false

/-- The value of a scalar. A moment is a text, and so are bytes, one character for each. -/
def toValue : YamlScalar → Value
  | .value v => v
  | .day text => .string text
  | .time text => .string text
  | .bytes octets => .string (String.ofList (octets.map fun b => Char.ofNat b.toNat))

end YamlScalar

namespace Yaml

/-- The entries with a value written under a key, in the place of the key if it is there. -/
def put (entries : List (YamlScalar × Yaml)) (key : YamlScalar) (value : Yaml) :
    List (YamlScalar × Yaml) :=
  match entries with
  | [] => [(key, value)]
  | (k, v) :: rest => if k.same key then (k, value) :: rest else (k, v) :: put rest key value

/-- The data under a text as key, null if there is none. -/
def member (entries : List (YamlScalar × Yaml)) (name : String) : Yaml :=
  match entries.find? fun e => e.1.same (.value (.string name)) with
  | some (_, value) => value
  | none => .scalar (.value .null)

mutual

/-- The data as a value. Keys of mappings become texts, and a pair is an array of two. -/
def toValue : Yaml → Value
  | .scalar s => s.toValue
  | .sequence items => .array (itemValues items)
  | .mapping entries => .object (entryValues entries)
  | .keySet keys => .array (keys.map YamlScalar.toValue)
  | .pairs items => .array (pairValues items)

/-- The values of items. -/
def itemValues : List Yaml → List Value
  | [] => []
  | item :: items => toValue item :: itemValues items

/-- The members that entries become. -/
def entryValues : List (YamlScalar × Yaml) → Record
  | [] => []
  | (key, value) :: entries => (key.text?.getD key.kindWord, toValue value) :: entryValues entries

/-- The values of pairs. -/
def pairValues : List (Yaml × Yaml) → List Value
  | [] => []
  | (first, second) :: items => .array [toValue first, toValue second] :: pairValues items

end

mutual

/-- A value as data of a document. -/
def ofValue : Value → Yaml
  | .array items => .sequence (ofItems items)
  | .object members => .mapping (ofMembers members)
  | v => .scalar (.value v)

/-- The items of an array as data. -/
def ofItems : List Value → List Yaml
  | [] => []
  | item :: items => ofValue item :: ofItems items

/-- The members of an object as entries. -/
def ofMembers : Record → List (YamlScalar × Yaml)
  | [] => []
  | (name, value) :: members => (.value (.string name), ofValue value) :: ofMembers members

end

end Yaml

end JsonQuery
