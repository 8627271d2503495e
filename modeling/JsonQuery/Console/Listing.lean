import JsonQuery.Dataset.Basic
import JsonQuery.Session.Sample

/-!
Listings of the columns of a dataset and of the sample queries for it.
-/

namespace JsonQuery

/-- The lines that list the columns of a table. The first of them begins with a line
break, which sets the listing off. -/
def schemaLines (schema : Option Schema) (tableName : String) : List String :=
  match schema with
  | none => ["No schema available."]
  | some columns =>
      ["\nTable: " ++ tableName, "  Columns:"] ++ columns.map fun c =>
        "    - " ++ c.name ++ ": " ++ c.type.name ++ (if c.nullable then " NULL" else " NOT NULL")

/-- The lines that list sample queries. -/
def sampleLines (samples : List SampleQuery) : List String :=
  if samples.isEmpty then ["No sample queries available."]
  else samples.map fun s => "  " ++ s.name ++ ": " ++ s.query

/-- The sample queries for a dataset: none unless it can be queried. -/
def Dataset.samples (d : Dataset) : List SampleQuery :=
  match d.rows with
  | [] => []
  | row :: _ => (SampleFamily.ofRow row).samples

end JsonQuery
