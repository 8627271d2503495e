import JsonQuery.Dataset.Basic
import JsonQuery.Query.Condition
import JsonQuery.Query.Group
import JsonQuery.Query.Parser
import JsonQuery.Sorting.Basic
import JsonQuery.Value.Order

/-!
Running a query over flat rows, always in the same order: select the rows that satisfy
the condition, group them if that is asked for and allowed, sort, cut to the limit, and
show the columns asked for.
-/

namespace JsonQuery

/-- The rows a query answers, and what there is to be said about it. -/
structure QueryResult where
  rows : List Record
  warnings : List Warning

/-- The columns of a result. -/
def QueryResult.columns (r : QueryResult) : List String := columnNames r.rows

/-- The rows that satisfy a condition, if there is one. -/
def selectRows (condition : Option Condition) (rows : List Record) :
    Except Fault (List Record) :=
  match condition with
  | none => return rows
  | some c => rows.filterM c.holds

/-- The rows in the order of a sort key, if there is one. Rows without a value come last
in their own order, whatever the direction. -/
def sortRows (order : Option SortKey) (rows : List Record) : Except Fault (List Record) :=
  match order with
  | none => return rows
  | some k => do
      let missing := rows.filter fun row => (row.get k.column).isNull
      let present := rows.filter fun row => !(row.get k.column).isNull
      let before (a b : Record) : Except Fault Bool := (a.get k.column).before (b.get k.column)
      let sorted ← match k.direction with
        | .ascending => Sorting.sort before present
        | .descending => Sorting.sortDescending before present
      return sorted ++ missing

/-- The first rows up to a limit, if there is one. -/
def limitRows (limit : Option Nat) (rows : List Record) : List Record :=
  match limit with
  | none => rows
  | some n => rows.take n

/-- The keys of a row that a projection shows, as far as the row has them. -/
def Projection.apply (p : Projection) (row : Record) : Record :=
  match p with
  | .everything => row
  | .listed items => items.foldl (fun output item =>
      match row.get? item.lookupKey with
      | some v => output.put item.lookupKey v
      | none => output) []

/-- The entries of a query over groups; without a list the grouping columns. -/
def Query.groupItems (q : Query) : List SelectItem :=
  match q.projection with
  | .everything => q.grouping.map fun column => ⟨column, .column column none⟩
  | .listed items => items

namespace Query

/-- The result of a query over flat rows. Groups are made only with `grouping`; without
it a query that asks for them is told that it gets none. -/
def run (grouping : Bool) (q : Query) (rows : List Record) : Except Fault QueryResult := do
  let selected ← selectRows q.condition rows
  if q.isAggregate && grouping then
    let groups ← aggregate q.groupItems q.grouping selected
    let sorted ← sortRows q.order groups
    return ⟨limitRows q.limit sorted, q.warnings⟩
  else
    let sorted ← sortRows q.order selected
    let shown := (limitRows q.limit sorted).map q.projection.apply
    return ⟨shown, q.warnings ++ if q.isAggregate then [.inertAggregates] else []⟩

end Query

/-- The rows of a dataset that may be missing. -/
def requireRows (dataset : Option Dataset) : Except Fault (List Record) :=
  match dataset with
  | none => .error (.noData .noDataset)
  | some d => d.requireRows

/-- The result of a query text over a dataset. That there is no data to query is noticed
before the text is read. -/
def execute (grouping : Bool) (dataset : Option Dataset) (text : String) :
    Except Fault QueryResult := do
  let rows ← requireRows dataset
  let query ← Query.parse text
  query.run grouping rows

end JsonQuery
