import JsonQuery.Query.Basic

/-!
Writing a query as text again: its clauses in the customary order, each entry of the
selection list by its own text and each literal in single quotes if it was quoted.
-/

namespace JsonQuery

/-- The text of a projection. -/
def Projection.toSql : Projection → String
  | .everything => "*"
  | .listed items => ", ".intercalate (items.map SelectItem.text)

/-- The text of a condition. -/
def Condition.toSql (c : Condition) : String :=
  let literal := if c.quoted then "'" ++ c.literal ++ "'" else c.literal
  c.column ++ " " ++ c.comparison.symbol ++ " " ++ literal

/-- The text of a sort key. -/
def SortKey.toSql (k : SortKey) : String := k.column ++ " " ++ k.direction.keyword

namespace Query

/-- The clauses of a query, each with its keywords. -/
def clauseTexts (q : Query) : List String :=
  let clause (kind : ClauseKind) (text : String) : String := kind.keywords ++ " " ++ text
  let source := match q.source with
    | some name => if name.isEmpty then [] else [clause .source name]
    | none => []
  let grouping := if q.grouping.isEmpty then []
    else [clause .grouping (", ".intercalate q.grouping)]
  [clause .select q.projection.toSql] ++ source ++
    (q.condition.map fun c => clause .condition c.toSql).toList ++ grouping ++
    (q.order.map fun k => clause .order k.toSql).toList ++
    (q.limit.map fun n => clause .limit (toString n)).toList

/-- The text of a query. -/
def toSql (q : Query) : String := " ".intercalate q.clauseTexts

/-- The query as shown in a description. -/
def describe (q : Query) : String := "ParsedQuery(" ++ q.toSql ++ ")"

end Query

/-- The projection as shown in a description. -/
def Projection.describe (p : Projection) : String := "Projection(" ++ p.toSql ++ ")"

/-- The entry as shown in a description. -/
def SelectItem.describe (item : SelectItem) : String := "ProjectionItem(" ++ item.text ++ ")"

/-- The condition as shown in a description. -/
def Condition.describe (c : Condition) : String := "Predicate(" ++ c.toSql ++ ")"

end JsonQuery
