import JsonQuery.Number.Reading
import JsonQuery.Query.Basic
import JsonQuery.Text.Case
import JsonQuery.Value.Text

/-!
Whether a row satisfies a condition. The literal of a condition is text, and what it
takes to equal it depends on the value in the row: numbers are compared by value, truth
values by their name, and a missing value equals the empty text only.
-/

namespace JsonQuery

/-- Whether a text matches a pattern in which a percent sign stands for any characters,
and everything else for itself. -/
def likeMatches : List Char → List Char → Bool
  | [], text => text.isEmpty
  | p :: pattern, text =>
      if p == '%' then spans (likeMatches pattern) text
      else match text with
        | [] => false
        | c :: rest => p == c && likeMatches pattern rest
where
  /-- Whether the rest of a pattern matches some end of a text. -/
  spans (matchesRest : List Char → Bool) : List Char → Bool
    | [] => matchesRest []
    | c :: rest => matchesRest (c :: rest) || spans matchesRest rest

/-- Whether a value equals the literal of a condition. -/
def Value.equalsLiteral (v : Value) (literal : String) : Except Fault Bool :=
  match v with
  | .null => return literal.isEmpty
  | .string s => return s == literal
  | .bool b => return b == (Text.lower literal == "true")
  | .number n => return match Binary64.ofText? literal with
      | some x => n.same (.float x)
      | none => false
  | nested => return (← nested.text) == literal

/-- Whether a value is a text that matches the pattern of a condition. -/
def Value.isLike (v : Value) (pattern : String) : Bool :=
  match v with
  | .string s => likeMatches pattern.toList s.toList
  | _ => false

/-- Whether a row satisfies the condition. -/
def Condition.holds (c : Condition) (row : Record) : Except Fault Bool :=
  match c.comparison with
  | .equals => (row.get c.column).equalsLiteral c.literal
  | .like => return (row.get c.column).isLike c.literal

end JsonQuery
