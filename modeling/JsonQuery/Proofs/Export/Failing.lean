import JsonQuery.Proofs.Query.Failing
import JsonQuery.Console.Repl

/-!
What a table and an export can break off with. A table of rows fails over a value without a
text, over an integer beyond 64 bits and over a text that cannot be written; a sheet fails over
control characters besides, and JSON over the setting for its indent only.
-/

namespace JsonQuery

open Outcome

section Texts

theorem requireWritable_failsWith (texts : List String) :
    FailsWith (fun fault => ∃ place, fault = .unwritable place) (requireWritable texts) := by
  unfold requireWritable
  split
  · exact .ok _
  · exact .error ⟨_, rfl⟩

theorem Value.display_failsWith (v : Value) :
    FailsWith (fun fault => fault = .integerTooLongToWrite ∧ v.integersFit = false) v.display := by
  unfold display
  split
  · exact .ok _
  · rename_i hlong
    exact .error ⟨rfl, Bool.eq_false_iff.mpr hlong⟩

theorem Value.toJson_failsWith (style : Json.Style) (v : Value) :
    FailsWith (· = .integerTooLongToWrite) (v.toJson style) := by
  unfold toJson
  split
  · exact .ok _
  · exact .error rfl

end Texts

/-- What a table of rows can break off with. -/
inductive Table.BreaksOff : Fault → Prop
  | noText : BreaksOff .integerTooLongToWrite
  | column : BreaksOff .integerExceedsColumn
  | unwritable (place : Text.Unwritable) : BreaksOff (.unwritable place)

section Tables

theorem Value.text_tableFault (v : Value) : FailsWith Table.BreaksOff v.text := by
  refine v.text_failsWith.mono ?_
  rintro _ rfl
  exact .noText

theorem requireWritable_tableFault (texts : List String) :
    FailsWith Table.BreaksOff (requireWritable texts) := by
  refine (requireWritable_failsWith texts).mono ?_
  rintro _ ⟨place, rfl⟩
  exact .unwritable place

theorem TableColumn.ofTexts_failsWith (name : String) (values : List Value) :
    FailsWith Table.BreaksOff (ofTexts name values) := by
  refine FailsWith.bind (FailsWith.mapM (fun v => ?_) values) fun cells => ?_
  · unfold Value.toTextCell
    split
    · exact .ok _
    · exact v.text_tableFault.bind fun _ => .ok _
  · exact (requireWritable_tableFault _).bind fun _ => .ok _

theorem TableColumn.ofValues_failsWith (name : String) (values : List Value) :
    FailsWith Table.BreaksOff (ofValues name values) := by
  unfold ofValues
  split
  · exact ofTexts_failsWith name values
  · split
    · unfold ofFitting
      split
      · exact .ok _
      · exact .ok _
      · exact .ok _
      · exact .ok _
      · exact .ok _
      · exact ofTexts_failsWith name values
      · exact ofTexts_failsWith name values
    · exact ofTexts_failsWith name values
    · exact .error .column
    · exact .error (.unwritable _)

theorem Table.ofRows_failsWith (rows : List Record) : FailsWith BreaksOff (ofRows rows) := by
  refine FailsWith.bind ?_ fun columns => ?_
  · exact FailsWith.mapM (fun name => TableColumn.ofValues_failsWith name _) _
  · exact (requireWritable_tableFault _).bind fun _ => .ok _

theorem printRows_failsWith (maxWidth : Int) (elapsed : Binary64) (rows : List Record)
    (warnings : List String) :
    FailsWith Table.BreaksOff (printRows maxWidth elapsed rows warnings) := by
  have hcell (v : Value) : FailsWith Table.BreaksOff (cellText maxWidth v) := by
    unfold cellText
    split
    · exact .ok _
    · refine v.text_tableFault.bind fun text => ?_
      dsimp only
      split
      · exact .ok _
      · exact .ok _
  refine (Table.ofRows_failsWith rows).bind fun table => ?_
  refine FailsWith.bind ?_ fun _ => .ok _
  refine FailsWith.bind (FailsWith.mapM (fun column => ?_) table) fun _ => .ok _
  exact (FailsWith.mapM hcell column.cells).bind fun _ => .ok _

end Tables

/-- Whether a setting for the indent of JSON says how levels are indented. -/
def Value.indents : Value → Bool
  | .null | .bool _ | .number (.int _) | .string _ => true
  | _ => false

/-- What an export can break off with. -/
inductive ExportFormat.BreaksOff (settings : ExportSettings) : ExportFormat → Fault → Prop
  | noText {format : ExportFormat} : BreaksOff settings format .integerTooLongToWrite
  | unwritable {format : ExportFormat} (place : Text.Unwritable) :
      BreaksOff settings format (.unwritable place)
  | column {format : ExportFormat} (hformat : format ≠ .json) :
      BreaksOff settings format .integerExceedsColumn
  | control (text : String) : BreaksOff settings .xlsx (.illegalCharacter text)
  | indent (hindent : settings.jsonIndent.indents = false) (message : String) :
      BreaksOff settings .json (.wrongKind message)

section Exports

mutual

theorem Value.exportInto_failsWith (row : Record) (path : String) (v : Value) :
    FailsWith (· = .integerTooLongToWrite) (v.exportInto row path) := by
  cases v with
  | null | bool _ | number _ | string _ => exact .ok _
  | object members =>
      rw [Value.exportInto]
      exact (exportMembers_failsWith [] path members).bind fun _ => .ok _
  | array items =>
      cases items with
      | nil => exact .ok _
      | cons item items =>
          rw [Value.exportInto]
          exact (Value.text_failsWith _).bind fun _ => .ok _

theorem exportMembers_failsWith (row : Record) (path : String) (members : List (String × Value)) :
    FailsWith (· = .integerTooLongToWrite) (exportMembers row path members) := by
  cases members with
  | nil => exact .ok _
  | cons member members =>
      obtain ⟨key, item⟩ := member
      rw [exportMembers]
      exact (item.exportInto_failsWith row _).bind fun written =>
        exportMembers_failsWith written path members

end

theorem exportRows_failsWith (data : Value) :
    FailsWith (· = .integerTooLongToWrite) (exportRows data) := by
  have hrow (v : Value) : FailsWith (· = .integerTooLongToWrite) (exportRow v) := by
    unfold exportRow
    split
    · exact exportMembers_failsWith _ _ _
    · exact exportMembers_failsWith _ _ _
    · exact .ok _
  unfold exportRows
  split
  · exact FailsWith.mapM hrow _
  · exact (hrow _).bind fun _ => .ok _

theorem Table.toSheet_failsWith (t : Table) :
    FailsWith (fun fault => ∃ text, fault = .illegalCharacter text) t.toSheet := by
  have htext (s : String) :
      FailsWith (fun fault => ∃ text, fault = .illegalCharacter text) (sheetText s) := by
    unfold sheetText
    dsimp only
    split
    · exact .error ⟨_, rfl⟩
    · split
      · exact .ok _
      · exact .ok _
  have hcell (v : Value) :
      FailsWith (fun fault => ∃ text, fault = .illegalCharacter text) (sheetCell v) := by
    unfold sheetCell
    split
    · exact .ok _
    · exact .ok _
    · exact htext _
    · exact .ok _
  unfold toSheet
  split
  · exact .ok _
  · have hheader := FailsWith.mapM (fun column : TableColumn => htext column.name) t
    refine hheader.bind fun header => ?_
    exact (FailsWith.mapM (fun row => FailsWith.mapM hcell row) _).bind fun rows => .ok _

theorem jsonStyleFor_failsWith (settings : ExportSettings) (data : Value) :
    FailsWith (ExportFormat.BreaksOff settings .json) (jsonStyleFor settings data) := by
  have hstyle : FailsWith (ExportFormat.BreaksOff settings .json)
      (jsonStyle settings.jsonIndent) := by
    cases hindent : settings.jsonIndent with
    | null | bool _ | string _ => exact .ok _
    | number n =>
        cases n with
        | int n => exact .ok _
        | float x => exact .error (.indent (by rw [hindent]; rfl) _)
    | array _ | object _ => exact .error (.indent (by rw [hindent]; rfl) _)
  cases data with
  | string _ => exact .ok _
  | null | bool _ | number _ | array _ | object _ => exact hstyle

variable {settings : ExportSettings}

theorem payloadOf_failsWith (format : ExportFormat) (data : Value) :
    FailsWith (format.BreaksOff settings) (payloadOf format settings data) := by
  have hrows : FailsWith (format.BreaksOff settings) (exportRows data) := by
    refine (exportRows_failsWith data).mono ?_
    rintro _ rfl
    exact .noText
  have htable (hformat : format ≠ .json) (rows : List Record) :
      FailsWith (format.BreaksOff settings) (Table.ofRows rows) := by
    refine (Table.ofRows_failsWith rows).mono ?_
    rintro _ (_ | _ | place)
    · exact .noText
    · exact .column hformat
    · exact .unwritable place
  cases format with
  | csv => exact hrows.bind fun rows => (htable ExportFormat.noConfusion rows).bind fun _ => .ok _
  | xlsx =>
      refine hrows.bind fun rows => (htable ExportFormat.noConfusion rows).bind fun table => ?_
      refine FailsWith.bind (table.toSheet_failsWith.mono ?_) fun _ => .ok _
      rintro _ ⟨text, rfl⟩
      exact .control text
  | json =>
      refine (jsonStyleFor_failsWith settings data).bind fun style => ?_
      refine FailsWith.bind ((data.toJson_failsWith style).mono ?_) fun text => ?_
      · rintro _ rfl
        exact .noText
      · refine FailsWith.bind ((requireWritable_failsWith _).mono ?_) fun _ => .ok _
        rintro _ ⟨place, rfl⟩
        exact .unwritable place

theorem exportData_failsWith (format : ExportFormat) (today : String) (data : Value) :
    FailsWith (format.BreaksOff settings) (exportData format settings today data) := by
  refine (payloadOf_failsWith format data).bind fun payload => ?_
  refine FailsWith.bind ((Value.display_failsWith _).mono ?_) fun _ => .ok _
  rintro _ ⟨rfl, -⟩
  exact .noText

end Exports

end JsonQuery
