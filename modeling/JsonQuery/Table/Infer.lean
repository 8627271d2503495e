import JsonQuery.Text.Charset
import JsonQuery.Value.Basic

/-!
What a column of values can be stored as. The values are looked at in order, up to the
first scalar that is no integer; truth values decide before fractions, fractions before
integers, and integers before texts. Nested values have a nested type, and a column that
mixes nested and plain values, or lists and objects, has none.
-/

namespace JsonQuery

/-- A storage type. -/
inductive StorageType where
  | null
  | bool
  | int64
  | double
  | string
  | list (item : StorageType)
  | struct (fields : List (String × StorageType))

/-- What storing a value of a type comes to. -/
inductive Fit where
  | fits
  | misfit
  | overflow
  /-- A text cannot be written. -/
  | unwritable (place : Text.Unwritable)
  deriving DecidableEq, Repr

/-- What storing a text comes to. -/
def Fit.ofText (s : String) : Fit :=
  match Text.Charset.utf8.unwritable? s with
  | none => .fits
  | some place => .unwritable place

/-- The outcome for values stored one after the other: the first one that does not fit
decides. -/
def Fit.first : List Fit → Fit
  | [] => .fits
  | .fits :: rest => Fit.first rest
  | outcome :: _ => outcome

namespace StorageType

/-- Whether the values behind this one are left out of account. -/
def settles : Value → Bool
  | .bool _ => true
  | .string _ => true
  | .number (.float _) => true
  | _ => false

/-- The values that are looked at: up to the first one that settles the type. -/
def examined : List Value → List Value
  | [] => []
  | v :: rest => if settles v then [v] else v :: examined rest

/-- The type of plain values that are looked at. -/
def ofScalars (values : List Value) : StorageType :=
  let has (p : Value → Bool) : Bool := values.any p
  if has fun v => match v with | .bool _ => true | _ => false then .bool
  else if has fun v => match v with | .number (.float _) => true | _ => false then .double
  else if has fun v => match v with | .number _ => true | _ => false then .int64
  else if has fun v => match v with | .string _ => true | _ => false then .string
  else .null

/-- The keys of some records in the order of their code points, each once. -/
def sortedKeys (records : List Record) : List String := Text.sortTexts (columnNames records)

/-- The type of the values that are looked at, unless they are mixed. Nesting is followed
to the given depth. -/
def infer? : Nat → List Value → Option StorageType
  | 0, _ => none
  | depth + 1, values =>
      let given := values.filter fun v => !v.isNull
      let lists := given.filterMap Value.items?
      let records := given.filterMap Value.record?
      if !lists.isEmpty then
        if lists.length == given.length then
          (infer? depth (lists.flatMap examined)).map .list
        else none
      else if !records.isEmpty then
        if records.length == given.length then
          ((sortedKeys records).mapM fun key =>
            (infer? depth (records.filterMap fun r => r.get? key)).map fun type =>
              (key, type)).map .struct
        else none
      else some (ofScalars given)

end StorageType

mutual

/-- How deeply a value is nested. -/
def Value.depth : Value → Nat
  | .array items => itemsDepth items + 1
  | .object members => membersDepth members + 1
  | _ => 0

/-- How deeply the deepest of some items is nested. -/
def itemsDepth : List Value → Nat
  | [] => 0
  | item :: items => max item.depth (itemsDepth items)

/-- How deeply the deepest of some members is nested. -/
def membersDepth : List (String × Value) → Nat
  | [] => 0
  | (_, item) :: members => max item.depth (membersDepth members)

end

namespace StorageType

/-- The type of the values of a column, unless they are mixed. -/
def ofColumn? (values : List Value) : Option StorageType :=
  infer? (itemsDepth values + 1) (examined values)

/-- Whether an integer is within 64 bits. -/
def isInt64 (n : Int) : Bool := -(powerOfTwo 63 : Int) ≤ n && n < powerOfTwo 63

/-- Whether every integer up to this one has a double-precision number of its own. -/
def isExactDouble (n : Int) : Bool := -(powerOfTwo 53 : Int) ≤ n && n ≤ powerOfTwo 53

mutual

/-- What storing a value of the type comes to. Null can always be stored, and a truth
value counts as a number among fractions. -/
def fit : StorageType → Value → Fit
  | _, .null => .fits
  | .bool, .bool _ => .fits
  | .int64, .number (.int n) => if isInt64 n then .fits else .overflow
  | .double, .number (.float _) => .fits
  | .double, .number (.int n) => if isExactDouble n then .fits else .misfit
  | .double, .bool _ => .fits
  | .string, .string s => Fit.ofText s
  | .list item, .array items => Fit.first (items.map (fit item))
  | .struct fields, .object members => Fit.first (fitFields fields members)
  | _, _ => .misfit

/-- What storing the fields of a record comes to, a missing field being null. -/
def fitFields : List (String × StorageType) → Record → List Fit
  | [], _ => []
  | (key, type) :: fields, members => fit type (members.get key) :: fitFields fields members

end

end StorageType

end JsonQuery
