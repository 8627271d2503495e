import JsonQuery.Number.Reading
import JsonQuery.Text.Case
import JsonQuery.Value.Text

/-!
Filters over raw records. A rule compares one member of a record with a text, and a
record is kept if it satisfies every rule. Texts are compared without regard to case, and
the ordering operators apply to numbers only.
-/

namespace JsonQuery

/-- What a filter rule asks of a value. -/
inductive FilterOperator where
  | equals
  | contains
  | greater
  | less
  | greaterEqual
  | lessEqual
  deriving DecidableEq, Repr

namespace FilterOperator

/-- The name of an operator. -/
def name : FilterOperator → String
  | .equals => "equals"
  | .contains => "contains"
  | .greater => "greater"
  | .less => "less"
  | .greaterEqual => "greater_equal"
  | .lessEqual => "less_equal"

/-- The operator with the given name. -/
def ofName (s : String) : Except Fault FilterOperator :=
  match [equals, contains, greater, less, greaterEqual, lessEqual].find? fun o => o.name == s with
  | some operator => .ok operator
  | none => .error (.unknownFilterOperator s)

/-- Whether an ordering operator accepts the outcome of a comparison; no outcome is never
accepted. -/
def accepts (operator : FilterOperator) (outcome : Option Ordering) : Bool :=
  match operator, outcome with
  | .greater, some .gt => true
  | .less, some .lt => true
  | .greaterEqual, some o => o != .lt
  | .lessEqual, some o => o != .gt
  | _, _ => false

end FilterOperator

/-- A rule that a record may satisfy. -/
structure FilterRule where
  column : String
  operator : FilterOperator
  value : String
  deriving DecidableEq, Repr

namespace FilterRule

/-- Whether a value that is not null satisfies the rule. -/
def acceptsValue (rule : FilterRule) (v : Value) : Except Fault Bool := do
  match rule.operator with
  | .equals =>
      match v with
      | .bool _ => return (← v.text) == rule.value
      | _ => return Text.lower (← v.text) == Text.lower rule.value
  | .contains => return Text.contains (Text.lower (← v.text)) (Text.lower rule.value)
  | operator =>
      match v.number?, Binary64.ofText? rule.value with
      | some n, some x => return operator.accepts (n.compare? (.float x))
      | _, _ => return false

/-- Whether a record satisfies the rule. A missing or null member, like a record that is
no object, equals the empty text and nothing else. -/
def accepts (rule : FilterRule) (item : Value) : Except Fault Bool :=
  let v := match item with
    | .object members => Record.get members rule.column
    | _ => .null
  if v.isNull then return rule.operator == .equals && rule.value.isEmpty
  else rule.acceptsValue v

end FilterRule

/-- Whether a record satisfies every rule. Rules are tried in order up to the first one
that is not satisfied. -/
def acceptsAll (item : Value) : List FilterRule → Except Fault Bool
  | [] => return true
  | rule :: rules => do
      if ← rule.accepts item then acceptsAll item rules else return false

/-- The records that satisfy every rule, in order. -/
def applyFilters (data : List Value) (rules : List FilterRule) : Except Fault (List Value) :=
  data.filterM fun item => acceptsAll item rules

end JsonQuery
