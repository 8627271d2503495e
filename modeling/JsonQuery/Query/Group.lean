import JsonQuery.Fault
import JsonQuery.Query.Basic
import JsonQuery.Value.Basic

/-!
Groups of rows and functions over them. One pass over the rows keeps, for every group
met so far, its first row and what each function has gathered; the groups stay in the
order of their first rows. Without grouping columns all rows form one group, and there
is one group even without rows.
-/

namespace JsonQuery

/-- What decides whether two values of a grouping column are the same: numbers and truth
values by their place on the number line, texts by themselves. What JSON texts spell as no
number has no place, but it is the same one in every row, and one is the same as itself. -/
inductive KeyPart where
  | missing
  | placed (place : Place)
  | spelledNan
  | text (s : String)
  /-- A value equal to no other, not even its like. -/
  | alone
  deriving DecidableEq, Repr

/-- The part of a group's key that a number makes. -/
def Number.keyPart : Number → KeyPart
  | .float .spelledNan => .spelledNan
  | n => match n.place? with
      | some p => .placed p
      | none => .alone

/-- The part of a group's key that a value makes. -/
def Value.keyPart : Value → KeyPart
  | .null => .missing
  | .bool b => (Number.int (if b then 1 else 0)).keyPart
  | .number n => n.keyPart
  | .string s => .text s
  | .array _ => .alone
  | .object _ => .alone

/-- The key of a row. -/
def groupKey (columns : List String) (row : Record) : List KeyPart :=
  columns.map fun column => (row.get column).keyPart

/-- Whether two keys make one group. -/
def sameGroup (a b : List KeyPart) : Bool := a == b && !a.contains .alone

/-- What a function has gathered from the rows of a group. -/
structure Tally where
  count : Nat
  sum : Number
  least : Option Number
  greatest : Option Number
  deriving Repr

/-- A function that has seen no row. -/
def Tally.empty : Tally := ⟨0, .int 0, none, none⟩

/-- The tally with a number added. A number is only replaced by one that is less, or
greater, than it. -/
def Tally.add (t : Tally) (n : Number) : Except Fault Tally := do
  match t.sum.add? n with
  | none => .error .integerExceedsFloat
  | some sum =>
      let least := match t.least with
        | none => n
        | some m => if n.less m then n else m
      let greatest := match t.greatest with
        | none => n
        | some m => if m.less n then n else m
      return ⟨t.count + 1, sum, some least, some greatest⟩

/-- The tally of an entry with a row taken in. Counting takes every row, or every row
with a value; the other functions take numbers only. -/
def SelectItem.gather (item : SelectItem) (t : Tally) (row : Record) : Except Fault Tally :=
  match item.shape with
  | .aggregate .count .rows _ => return { t with count := t.count + 1 }
  | .aggregate .count (.column name) _ =>
      return if (row.get name).isNull then t else { t with count := t.count + 1 }
  | .aggregate _ argument _ =>
      match (row.get argument.name).number? with
      | some n => t.add n
      | none => return t
  | _ => return t

/-- The value of a function once all rows are taken in. -/
def AggregateFunction.result (f : AggregateFunction) (t : Tally) : Except Fault Value :=
  let orNull (n : Option Number) : Value := (n.map Value.number).getD .null
  match f with
  | .count => return Value.ofInt t.count
  | .sum => return .number t.sum
  | .mean =>
      if t.count == 0 then return .null
      else match t.sum.mean? t.count with
        | some x => return Value.ofFloat x
        | none => .error .quotientExceedsFloat
  | .least => return orNull t.least
  | .greatest => return orNull t.greatest

/-- A group under way: its key, its first row and the tally of each entry. -/
structure Group where
  key : List KeyPart
  first : Option Record
  tallies : List Tally

/-- The group with a row taken in. -/
def Group.gather (items : List SelectItem) (g : Group) (row : Record) : Except Fault Group := do
  return { g with tallies := ← (items.zip g.tallies).mapM fun p => p.1.gather p.2 row }

/-- The groups with a row taken into the one it belongs to, or into a new one. -/
def addToGroups (items : List SelectItem) (key : List KeyPart) (row : Record) :
    List Group → Except Fault (List Group)
  | [] => do
      return [← Group.gather items ⟨key, some row, items.map fun _ => Tally.empty⟩ row]
  | g :: rest => do
      if sameGroup g.key key then return (← g.gather items row) :: rest
      else return g :: (← addToGroups items key row rest)

/-- The groups of some rows. -/
def groupsOf (items : List SelectItem) (columns : List String) (rows : List Record) :
    Except Fault (List Group) :=
  rows.foldlM (fun groups row => addToGroups items (groupKey columns row) row groups) []

/-- The row with the value of an entry written into it. An entry without a function shows
the first row of the group, and nothing if that has no such key. -/
def SelectItem.show (item : SelectItem) (first : Option Record) (t : Tally) (output : Record) :
    Except Fault Record :=
  match item.function? with
  | some f => do return output.put item.outputName (← f.result t)
  | none => match first.bind fun row => row.get? item.columnOrText with
      | some v => return output.put item.outputName v
      | none => return output

/-- The row of a group. -/
def Group.row (items : List SelectItem) (g : Group) : Except Fault Record :=
  (items.zip g.tallies).foldlM (fun output p => p.1.show g.first p.2 output) []

/-- One row for each group. -/
def aggregate (items : List SelectItem) (columns : List String) (rows : List Record) :
    Except Fault (List Record) := do
  let groups ← groupsOf items columns rows
  let groups := if groups.isEmpty && columns.isEmpty then
      [⟨[], none, items.map fun _ => Tally.empty⟩]
    else groups
  groups.mapM (Group.row items)

end JsonQuery
