import JsonQuery.Text.Literal

/-!
Queries: what to show, under which condition, grouped and sorted how, and how much of
it. A query also remembers what in its text was not understood; such a part has no
effect, and a warning says so.
-/

namespace JsonQuery

/-- How a condition compares a column with its literal. -/
inductive Comparison where
  | equals
  | like
  deriving DecidableEq, Repr

/-- The spelling of a comparison. -/
def Comparison.symbol : Comparison → String
  | .equals => "="
  | .like => "LIKE"

/-- The comparison with the given spelling. -/
def Comparison.ofSymbol? (s : String) : Option Comparison :=
  [Comparison.equals, .like].find? fun c => c.symbol == s

/-- The direction of a sort. -/
inductive Direction where
  | ascending
  | descending
  deriving DecidableEq, Repr

/-- The keyword of a direction. -/
def Direction.keyword : Direction → String
  | .ascending => "ASC"
  | .descending => "DESC"

/-- A function over the rows of a group. -/
inductive AggregateFunction where
  | count
  | sum
  | mean
  | least
  | greatest
  deriving DecidableEq, Repr

namespace AggregateFunction

/-- The name of a function in a query. -/
def name : AggregateFunction → String
  | .count => "COUNT"
  | .sum => "SUM"
  | .mean => "AVG"
  | .least => "MIN"
  | .greatest => "MAX"

/-- The function with the given name in capitals. -/
def ofName? (s : String) : Option AggregateFunction :=
  [AggregateFunction.count, .sum, .mean, .least, .greatest].find? fun f => f.name == s

end AggregateFunction

/-- What a function is applied to: whole rows or one column. -/
inductive Argument where
  | rows
  | column (name : String)
  deriving DecidableEq, Repr

namespace Argument

/-- The spelling of an argument. -/
def name : Argument → String
  | .rows => "*"
  | .column name => name

/-- The argument with the given spelling; a column cannot be named like the whole row. -/
def ofName (s : String) : Argument := if s == "*" then .rows else .column s

end Argument

/-- What an entry of the selection list is understood as. -/
inductive ItemShape where
  /-- Text of no known shape. -/
  | expression
  /-- A column, under its own name or another one. -/
  | column (name : String) (label : Option String)
  /-- A function of the rows of a group, under another name if one is given. -/
  | aggregate (function : AggregateFunction) (argument : Argument) (label : Option String)
  deriving DecidableEq, Repr

/-- An entry of the selection list with its text in the query. -/
structure SelectItem where
  text : String
  shape : ItemShape
  deriving DecidableEq, Repr

namespace SelectItem

/-- The column of an entry that shows one. -/
def column? (item : SelectItem) : Option String :=
  match item.shape with
  | .column name _ => some name
  | _ => none

/-- The function of an entry that applies one. -/
def function? (item : SelectItem) : Option AggregateFunction :=
  match item.shape with
  | .aggregate f _ _ => some f
  | _ => none

/-- The argument of an entry that applies a function. -/
def argument? (item : SelectItem) : Option Argument :=
  match item.shape with
  | .aggregate _ a _ => some a
  | _ => none

/-- The other name of an entry. -/
def alias? (item : SelectItem) : Option String :=
  match item.shape with
  | .expression => none
  | .column _ label => label
  | .aggregate _ _ label => label

/-- Whether the entry applies a function. -/
def isAggregate (item : SelectItem) : Bool := item.function?.isSome

/-- The name of a column if it has one that is not empty, and otherwise the text. -/
def columnOrText (item : SelectItem) : String :=
  match item.column? with
  | some name => if name.isEmpty then item.text else name
  | none => item.text

/-- The key of a row that the entry shows when no groups are made: the column if the
entry is just that, and otherwise its text. -/
def lookupKey (item : SelectItem) : String :=
  if item.alias?.isSome then item.text else item.columnOrText

/-- The key under which the entry appears in the row of a group. -/
def outputName (item : SelectItem) : String :=
  match item.alias? with
  | some name => name
  | none => item.columnOrText

end SelectItem

/-- What a query shows of each row. -/
inductive Projection where
  /-- All of it. -/
  | everything
  /-- The entries of a list. -/
  | listed (items : List SelectItem)
  deriving DecidableEq, Repr

namespace Projection

/-- The entries of the list. -/
def entries : Projection → List SelectItem
  | .everything => []
  | .listed items => items

/-- Whether some entry applies a function. -/
def hasAggregates (p : Projection) : Bool := p.entries.any SelectItem.isAggregate

end Projection

/-- A condition on one column. The literal is kept as text, without its quotes. -/
structure Condition where
  column : String
  comparison : Comparison
  literal : String
  quoted : Bool
  deriving DecidableEq, Repr

/-- The column to sort by, and the direction. -/
structure SortKey where
  column : String
  direction : Direction
  deriving DecidableEq, Repr

/-- The clauses of a query. -/
inductive ClauseKind where
  | select
  | source
  | condition
  | grouping
  | order
  | limit
  deriving DecidableEq, Repr

/-- The keywords of a clause. -/
def ClauseKind.keywords : ClauseKind → String
  | .select => "SELECT"
  | .source => "FROM"
  | .condition => "WHERE"
  | .grouping => "GROUP BY"
  | .order => "ORDER BY"
  | .limit => "LIMIT"

/-- A part of a query that has no effect, or not the effect it may have been meant to
have. -/
inductive Warning where
  | keywordAsName (keyword value : String)
  | repeatedClause (clause : ClauseKind)
  | noSource
  | emptySelection
  | emptyEntry
  | unnamedSource
  | textAfterSource (text : String)
  | emptyCondition
  | unclearCondition (text : String)
  | unclearGrouping
  | unclearOrder
  | furtherSortKeys (column : String)
  | textAfterSortKey (text : String)
  | unclearLimit
  | textAfterLimit (text : String)
  | inertAggregates
  deriving DecidableEq, Repr

/-- The wording of a warning. -/
def Warning.message : Warning → String
  | .keywordAsName keyword value =>
      keyword ++ " read as a clause keyword; quote column names that are " ++
        "keywords, e.g. \"" ++ value ++ "\""
  | .repeatedClause clause => "Repeated " ++ clause.keywords ++ " clause ignored"
  | .noSource => "No FROM clause; returning all columns"
  | .emptySelection => "Empty SELECT list; returning all columns"
  | .emptyEntry => "Empty entry in SELECT list ignored"
  | .unnamedSource => "FROM clause has no table name"
  | .textAfterSource text => "Ignored text after table name: " ++ text
  | .emptyCondition => "Empty WHERE clause; no filtering applied"
  | .unclearCondition text => "WHERE clause not recognised; no filtering applied: " ++ text
  | .unclearGrouping => "GROUP BY clause not recognised; no grouping applied"
  | .unclearOrder => "ORDER BY clause not recognised; no sorting applied"
  | .furtherSortKeys column => "Only the first ORDER BY key is used: " ++ column
  | .textAfterSortKey text => "Ignored text after ORDER BY key: " ++ text
  | .unclearLimit => "LIMIT must be a non-negative integer; no limit applied"
  | .textAfterLimit text => "Ignored text after LIMIT value: " ++ text
  | .inertAggregates =>
      "Aggregate functions and GROUP BY are not executed; " ++
        "those entries are treated as plain column names"

/-- A query. -/
structure Query where
  text : String
  projection : Projection
  source : Option String
  condition : Option Condition
  grouping : List String
  order : Option SortKey
  limit : Option Nat
  warnings : List Warning
  deriving DecidableEq, Repr

/-- Whether the query asks for groups or functions of them. -/
def Query.isAggregate (q : Query) : Bool := !q.grouping.isEmpty || q.projection.hasAggregates

end JsonQuery
