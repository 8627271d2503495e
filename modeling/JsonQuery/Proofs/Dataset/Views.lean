import JsonQuery.Proofs.Dataset.Flat
import JsonQuery.Proofs.Query.Selection
import Mathlib.Data.List.TFAE
import Mathlib.Tactic

/-!
The views of a dataset: whether it can be queried, its rows, its schema, and what a query for
everything answers. All of them come from one look at the data, so they agree. Either the data is
an array that begins with an object, and then the rows are those of its elements, the schema is
that of the first of them, and they are answered as they are; or there is a reason why not, and
that is what every query is answered.
-/

namespace JsonQuery

open Outcome

/-- An element of an array as an object: itself, or under the key `value`. -/
def Value.wrapped (element : Value) : Value :=
  match element with
  | .object members => .object members
  | other => .object [("value", other)]

/-- A column has the name of a key, and its type and whether it may be null come from a value
that is no array and no object. -/
inductive Samples : String × Value → Column → Prop
  | null {name : String} : Samples (name, .null) ⟨name, .string, true⟩
  | string {name value : String} : Samples (name, .string value) ⟨name, .string, false⟩
  | bool {name : String} {value : Bool} : Samples (name, .bool value) ⟨name, .boolean, false⟩
  | number {name : String} {value : Number} : Samples (name, .number value) ⟨name, .number, false⟩

/-- The query for everything in the data. -/
def Query.everything : Query where
  text := "SELECT * FROM data"
  projection := .everything
  source := some "data"
  condition := none
  grouping := []
  order := none
  limit := none
  warnings := []

/-- What a dataset that can be queried has of its data. -/
structure Dataset.Presents (d : Dataset) (raw : Value) : Prop where
  rows : ∃ items, raw = .array items ∧
    List.Forall₂ (fun item row => item.wrapped.flatten "" = .ok row) items d.rows
  scalar : ∀ row ∈ d.rows, ∀ m ∈ row, m.2.isScalar = true
  schema : ∃ sample rest columns, d.rows = sample :: rest ∧ d.schema? = some columns ∧
    List.Forall₂ Samples sample columns
  answered : ∀ grouping, execute grouping (some d) "SELECT * FROM data" = .ok ⟨d.rows, []⟩

section Views

variable {raw : Value} {url : Option String} {d : Dataset}

theorem Dataset.elementRow_eq_flatten (element : Value) :
    elementRow element = element.wrapped.flatten "" := by
  cases element <;> rfl

theorem samples_column {m : String × Value} (h : m.2.isScalar = true) :
    Samples m ⟨m.1, m.2.columnType, m.2.isNull⟩ := by
  obtain ⟨name, value⟩ := m
  cases value with
  | null => exact .null
  | string _ => exact .string
  | bool _ => exact .bool
  | number _ => exact .number
  | array _ | object _ => exact absurd h Bool.false_ne_true

theorem Dataset.schema?_eq_some_iff {columns : Schema} : d.schema? = some columns ↔
    ∃ sample rest, d.rows = sample :: rest ∧
      columns = sample.map fun m => ⟨m.1, m.2.columnType, m.2.isNull⟩ := by
  rw [Dataset.schema?]
  cases d.rows with
  | nil => simp [Schema.ofRows?]
  | cons sample rest => simp [Schema.ofRows?, eq_comm]

/-- A query for everything shows all rows. -/
theorem run_everything {q : Query} {rows : List Record} (grouping : Bool)
    (hplain : q.isAggregate = false) (hprojection : q.projection = .everything)
    (hcondition : q.condition = none) (horder : q.order = none) (hlimit : q.limit = none) :
    q.run grouping rows = .ok ⟨rows, q.warnings⟩ := by
  refine (run_eq_ok (by rw [hplain]; rfl)).mpr ⟨rows, rows, ?_, ?_, ?_⟩
  · rw [hcondition]
    rfl
  · rw [horder]
    rfl
  · have hshown : rows.map (Projection.apply .everything) = rows := List.map_id rows
    rw [hlimit, hprojection, limitRows, hshown, hplain]
    simp

theorem execute_everything {rows : List Record} (hcontent : d.content = .ok rows)
    (grouping : Bool) : execute grouping (some d) "SELECT * FROM data" = .ok ⟨d.rows, []⟩ := by
  have hparse : Query.parse "SELECT * FROM data" = .ok .everything := by
    apply toOption_eq_some.mp
    decide +kernel
  have hrows : requireRows (some d) = .ok d.rows := by
    rw [requireRows_eq_ok]
    exact ⟨d, rfl, by rw [Dataset.rows, hcontent]⟩
  rw [execute, hrows, ok_bind, hparse, ok_bind]
  exact run_everything grouping rfl rfl rfl rfl rfl

/-- A dataset without rows answers every query with the reason. -/
theorem execute_unavailable {reason : Unavailable} (hcontent : d.content = .error reason)
    (grouping : Bool) (text : String) :
    execute grouping (some d) text = .error (.noData reason) := by
  rw [execute, requireRows, Dataset.requireRows, hcontent]
  rfl

/-- Whether a dataset can be queried, whether it has rows, whether it has a schema and whether
its data is an array that begins with an object is all the same. -/
theorem Dataset.queryable_tfae (h : ofValue raw url = .ok d) :
    [d.isQueryable = true, d.rows ≠ [], d.schema?.isSome = true, raw.OffersRows].TFAE := by
  -- All four hold of data that offer rows, and none holds of other data.
  obtain ⟨items, rows, hraw, hoffers, hrows, rfl⟩ | ⟨reason, hoffers, rfl⟩ := ofValue_cases h
  · obtain ⟨members, rest, harray⟩ := id hoffers
    obtain rfl : items = .object members :: rest := Value.array.inj (hraw.symm.trans harray)
    obtain ⟨sample, others, -, -, rfl⟩ := List.forall₂_cons_left_iff.mp (mapM_eq_ok.mp hrows)
    refine List.tfae_of_forall True _ ?_
    simp only [List.forall_mem_cons, iff_true]
    exact ⟨rfl, List.cons_ne_nil sample others, rfl, hoffers, List.forall_mem_nil _⟩
  · refine List.tfae_of_forall False _ ?_
    simp only [List.forall_mem_cons, iff_false]
    exact ⟨Bool.false_ne_true, not_not_intro rfl, Bool.false_ne_true, hoffers,
      List.forall_mem_nil _⟩

/-- A dataset that can be queried presents its data. -/
theorem Dataset.presents_of_isQueryable (h : ofValue raw url = .ok d)
    (hqueryable : d.isQueryable = true) : d.Presents raw := by
  have hflat := rows_isFlat h
  have hsome := ((queryable_tfae h).out 0 1).mp hqueryable
  obtain ⟨items, rows, hraw, -, hrows, rfl⟩ | ⟨reason, -, rfl⟩ := ofValue_cases h
  · constructor
    · refine ⟨items, hraw, (mapM_eq_ok.mp hrows).imp fun item row hrow => ?_⟩
      rwa [← elementRow_eq_flatten]
    · exact fun row hrow => (hflat row hrow).scalar
    · obtain ⟨sample, rest, hsample⟩ := List.exists_cons_of_ne_nil hsome
      refine ⟨sample, rest, _, hsample, schema?_eq_some_iff.mpr ⟨sample, rest, hsample, rfl⟩, ?_⟩
      rw [List.forall₂_map_right_iff, List.forall₂_same]
      intro m hm
      have hrow := hflat sample (by rw [hsample]; exact List.mem_cons_self)
      exact samples_column (hrow.scalar m hm)
    · exact execute_everything rfl
  · nomatch hqueryable

/-- The views of a dataset agree: it can be queried, has rows and has a schema exactly if its data
is an array that begins with an object. Then they present the data, and a query for everything
shows it. Otherwise there is a reason, and every query is refused with it. -/
theorem Dataset.views_agree (h : ofValue raw url = .ok d) :
    [d.isQueryable = true, d.rows ≠ [], d.schema?.isSome = true, raw.OffersRows].TFAE ∧
      (d.isQueryable = true → d.Presents raw) ∧
      (d.isQueryable = false → ∃ reason, d.reason? = some reason ∧
        (Fault.noData reason).message = reason.message ∧
        ∀ grouping text, execute grouping (some d) text = .error (.noData reason)) := by
  refine ⟨queryable_tfae h, presents_of_isQueryable h, ?_⟩
  intro hunavailable
  obtain ⟨items, rows, -, -, -, rfl⟩ | ⟨reason, -, rfl⟩ := ofValue_cases h
  · nomatch hunavailable
  · exact ⟨reason, rfl, rfl, execute_unavailable rfl⟩

/-- An object with a nested one, an array and a null in it, then a number and an array. -/
theorem Dataset.views_agree_nested :
    let raw : Value := .array [
      .object [("n", .object [("a", .string "x"), ("b", .null)]), ("t", .array [.bool true])],
      .ofInt 5, .array [.object []]]
    let rows : List Record := [
      [("n_a", .string "x"), ("n_b", .null), ("t", .string "true")],
      [("value", .ofInt 5)], [("value", .string "\x7b\x7d")]]
    let d : Dataset := ⟨raw, none, .ok rows⟩
    let columns : Schema :=
      [⟨"n_a", .string, false⟩, ⟨"n_b", .string, true⟩, ⟨"t", .string, false⟩]
    ofValue raw none = .ok d ∧ d.Presents raw ∧ d.schema? = some columns := by
  intro raw rows d columns
  have hd : ofValue raw none = .ok d := by cbv
  exact ⟨hd, (views_agree hd).2.1 rfl, rfl⟩

end Views

end JsonQuery
