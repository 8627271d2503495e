import JsonQuery.Proofs.Console.Typing
import JsonQuery.Proofs.Dataset.Flat
import JsonQuery.Proofs.Export.Failing
import JsonQuery.Proofs.Session.Operation
import Mathlib.Tactic

/-!
How a conversation ends: with a line that asks for it between two statements, with the end of
the inputs, or by breaking off. It breaks off with a statement or a shortcut that it has just
read, and only so as that statement or shortcut can: with a limit or a value of too many digits,
with sums and means of groups, with a column of integers beyond 64 bits, or with something that
cannot be written where it has to be. A column of such integers does break it off.
-/

namespace JsonQuery

open Outcome

/-- What a reading can break a conversation off with. -/
inductive Reading.BreaksOff (settings : Settings) : Reading → Fault → Prop
  | limit {text : String} {digits : Nat} (hlimit : OverlongLimit (bareStatement text) digits) :
      BreaksOff settings (.statement text) (.integerTooLongToRead digits)
  | query {text : String} {fault : Fault}
      (hquery : Query.BreaksOff settings.query.enableAggregates.isGiven fault) :
      BreaksOff settings (.statement text) fault
  | table {text : String} {fault : Fault} (htable : Table.BreaksOff fault) :
      BreaksOff settings (.statement text) fault
  | schema {line first : String} {words : List String} (hwords : wordsOf line = first :: words)
      (hschema : Text.lower first = ".schema")
      (hname : settings.query.tableName.integersFit = false) :
      BreaksOff settings (.shortcut line) .integerTooLongToWrite
  | exported {line first name : String} {more : List String} {format : ExportFormat}
      {fault : Fault} (hwords : wordsOf line = first :: name :: more)
      (hexport : Text.lower first = ".export") (hformat : ExportFormat.ofName name = .ok format)
      (hfault : format.BreaksOff settings.exports fault ∨ fault = .nullInPath) :
      BreaksOff settings (.shortcut line) fault
  | unwritable {line : String} (place : Text.Unwritable) :
      BreaksOff settings (.shortcut line) (.unwritable place)

section Performing

variable {w : Workspace} {today : String} {elapsed : Binary64} {fault : Fault}

theorem writtenLines_eq_some {lines : List String} (h : (writtenLines lines).2 = some fault) :
    ∃ place, fault = .unwritable place := by
  induction lines with
  | nil => cases h
  | cons line lines ih =>
      rw [writtenLines] at h
      split at h
      · exact ⟨_, (Option.some.inj h).symm⟩
      · exact ih h

/-- A file that cannot be written is told of, unless its path is none. -/
theorem Directory.show_saving_failsWith (d : Directory) (elapsed : Binary64) (save : Save) :
    FailsWith (fun fault => fault = .nullInPath ∨ ∃ place, fault = .unwritable place)
      (d.show elapsed (.saving save)) := by
  have hpath : FailsWith (fun fault => fault = .nullInPath ∨ ∃ place, fault = .unwritable place)
      (checkPathText save.target) := by
    unfold checkPathText
    split
    · exact .error (.inl rfl)
    · split
      · exact .error (.inr ⟨_, rfl⟩)
      · exact .ok _
  have hwrite : FailsWith (fun fault => (∃ problem, fault = .file problem) ∨
      fault = .nullInPath ∨ ∃ place, fault = .unwritable place)
      (d.write save.target save.payload) := by
    refine (hpath.mono fun _ => .inr).bind fun _ => ?_
    refine FailsWith.bind (.mapError fun problem => .inl ⟨problem, rfl⟩) fun name => ?_
    cases name with
    | none => exact .ok _
    | some name => exact .ok _
  unfold Directory.show
  dsimp only
  split
  · exact .ok _
  · exact .ok _
  · rename_i fault hnotFile hfault
    rcases hwrite fault hfault with ⟨problem, rfl⟩ | hcause
    · exact absurd rfl (hnotFile problem)
    · exact .error hcause

theorem Workspace.runStatement_failsWith (text : String) :
    FailsWith (Reading.BreaksOff w.settings (.statement text)) (w.runStatement text).outcome := by
  unfold runStatement
  dsimp only
  split
  · exact .ok _
  · refine FailsWith.map fun fault hfault => ?_
    obtain ⟨_, -, -, houtcome⟩ | ⟨_, hrun, ⟨-, -, houtcome⟩ | ⟨hkind, -, houtcome⟩⟩ :=
      w.query_cases (bareStatement text)
    · cases houtcome.symm.trans hfault
    · cases houtcome.symm.trans hfault
    · cases houtcome.symm.trans hfault
      rcases execute_failsWith _ _ fault hrun with hrejection | ⟨digits, hlimit, rfl⟩ | hquery
      · rw [hkind] at hrejection
        cases hrejection
      · exact .limit hlimit
      · exact .query hquery

/-- What comes of a statement, shown, breaks off only so as the statement can. -/
theorem Workspace.showStatement_failsWith (d : Directory) (text : String) :
    FailsWith (Reading.BreaksOff w.settings (.statement text))
      ((w.runStatement text).outcome.bind (d.show elapsed)) := by
  have hprint (shown : Shown) : FailsWith (Reading.BreaksOff w.settings (.statement text))
      (shown.print elapsed) := by
    cases shown with
    | lines _ | rejection _ | saving _ => exact .ok _
    | result rows warnings => exact (printRows_failsWith _ _ rows _).mono fun _ => .table
  cases houtcome : (w.runStatement text).outcome with
  | error fault => exact .error (w.runStatement_failsWith text fault houtcome)
  | ok shown =>
      have hshow := d.show_of_not_saving elapsed (not_saving_of_runStatement houtcome)
      rw [Except.bind, hshow]
      exact (hprint shown).map

/-- What comes of an export, shown, breaks off only so as the export can. -/
theorem Workspace.showExport_failsWith (d : Directory) {line first : String}
    {words : List String} (hwords : wordsOf line = first :: words)
    (hexport : Text.lower first = ".export") :
    FailsWith (Reading.BreaksOff w.settings (.shortcut line))
      ((w.runExport today words).outcome.bind (d.show elapsed)) := by
  unfold runExport
  split
  · exact .ok _
  · rename_i name more
    split
    · exact .ok _
    · rename_i format hformat
      unfold exportDisplayed
      split
      · rename_i fault hfault
        refine .error (.exported hwords hexport hformat (.inl ?_))
        exact exportData_failsWith format today w.displayed fault hfault
      · refine (d.show_saving_failsWith elapsed _).mono ?_
        rintro _ (rfl | ⟨place, rfl⟩)
        · exact .exported hwords hexport hformat (.inr rfl)
        · exact .unwritable place

/-- What comes of a shortcut, shown, breaks off only so as the shortcut can. -/
theorem Workspace.showShortcut_failsWith (d : Directory) (line : String) :
    FailsWith (Reading.BreaksOff w.settings (.shortcut line))
      ((w.runShortcut today line).outcome.bind (d.show elapsed)) := by
  unfold runShortcut
  split
  · exact .ok _
  · rename_i first words hwords
    split
    · rename_i hschema
      dsimp only
      split
      · exact .ok _
      · cases hname : w.settings.query.tableName.display with
        | ok name => exact .ok _
        | error fault =>
            obtain ⟨rfl, hlong⟩ := Value.display_failsWith _ fault hname
            exact .error (.schema hwords hschema hlong)
    · exact .ok _
    · dsimp only [reset, Session.reset]
      cases (Session.start w.session.dataset).displayed with
      | array _ | null | bool _ | number _ | string _ | object _ => exact .ok _
    · rename_i hexport
      exact showExport_failsWith d hwords hexport
    · exact .ok _

/-- What comes of a reading, shown, breaks off only so as the reading can. -/
theorem Workspace.showReading_failsWith (w : Workspace) (today : String) (elapsed : Binary64)
    (d : Directory) (reading : Reading) :
    FailsWith (reading.BreaksOff w.settings)
      ((w.perform today reading).outcome.bind (d.show elapsed)) := by
  cases reading with
  | statement text => exact w.showStatement_failsWith d text
  | shortcut line => exact w.showShortcut_failsWith d line
  | exit | blank | unfinished _ | interrupted => exact .ok _

end Performing

section Conversing

namespace Conversation

variable {c : Conversation} {today : String} {elapsed : Binary64}

theorem workspace_answer (c : Conversation) (today : String) (elapsed : Binary64)
    (prompt : String) (reading : Reading) :
    (c.answer today elapsed prompt reading).workspace =
      (c.workspace.perform today reading).workspace := by
  unfold answer
  dsimp only
  split
  · rfl
  · rfl

theorem settings_answer (c : Conversation) (today : String) (elapsed : Binary64) (prompt : String)
    (reading : Reading) :
    (c.answer today elapsed prompt reading).workspace.settings = c.workspace.settings := by
  rw [workspace_answer]
  cases reading with
  | exit | blank | unfinished _ | interrupted => rfl
  | statement text =>
      rw [Workspace.perform, Workspace.runStatement]
      dsimp only
      split
      · rfl
      · rfl
  | shortcut line =>
      rw [Workspace.perform, Workspace.runShortcut]
      split
      · rfl
      · split
        · rfl
        · rfl
        · rfl
        · unfold Workspace.runExport
          split
          · rfl
          · split
            · rfl
            · exact congrArg Workspace.settings (Workspace.exportDisplayed_workspace _ _ _)
        · rfl

/-- A conversation that is not at its end breaks off only so as its reading can. -/
theorem answer_breaksOff {prompt : String} {reading : Reading} {fault : Fault}
    (h : (c.answer today elapsed prompt reading).fault = some fault) :
    reading.BreaksOff c.workspace.settings fault := by
  have hshow := c.workspace.showReading_failsWith today elapsed c.directory reading
  unfold answer at h
  dsimp only at h
  split at h
  · rename_i lines directory hlines
    obtain ⟨place, rfl⟩ := writtenLines_eq_some h
    cases reading with
    | statement text => exact .table (.unwritable place)
    | shortcut line => exact .unwritable place
    | exit | blank | unfinished _ | interrupted =>
        cases hlines
        cases h
  · rename_i hproblem
    cases h
    exact hshow fault hproblem

theorem prompts_answer (c : Conversation) (today : String) (elapsed : Binary64) (prompt : String)
    (reading : Reading) :
    (c.answer today elapsed prompt reading).prompts = c.prompts ++ [prompt] := by
  unfold answer
  dsimp only
  split
  · rfl
  · rfl

/-- How a conversation ended that had put some prompts before, by what was read since. -/
inductive Ended (settings : Settings) (prompts : List String) (read : List (String × Reading))
    (held : Conversation) : Prop
  /-- The last line asked for it, and no statement was being typed. -/
  | exit (front : List (String × Reading)) (hread : read = front ++ [("query> ", .exit)])
      (hprompts : held.prompts = prompts ++ read.map Prod.fst) (hfault : held.fault = none)
  /-- There was nothing more to read, and no line had asked for it. -/
  | inputs {last : String} (hread : ∀ entry ∈ read, entry.2 ≠ .exit)
      (hprompts : held.prompts = prompts ++ read.map Prod.fst ++ [last])
      (hfault : held.fault = none)
  /-- The reading that came last broke it off. -/
  | broken (front : List (String × Reading)) {behind : List (String × Reading)}
      {prompt : String} {reading : Reading} {fault : Fault}
      (hread : read = front ++ (prompt, reading) :: behind)
      (hprompts : held.prompts = prompts ++ front.map Prod.fst ++ [prompt])
      (hfault : held.fault = some fault) (hbreaks : reading.BreaksOff settings fault)

variable {settings : Settings} {prompts : List String} {read : List (String × Reading)}
  {held : Conversation}

/-- How a conversation ended is told by what was read since an earlier prompt as well. -/
theorem Ended.cons {prompt : String} {reading : Reading} (hexit : reading ≠ .exit)
    (h : Ended settings (prompts ++ [prompt]) read held) :
    Ended settings prompts ((prompt, reading) :: read) held := by
  cases h with
  | exit front hread hprompts hfault =>
      refine .exit ((prompt, reading) :: front) (by rw [hread]; rfl) ?_ hfault
      rw [hprompts, List.map_cons, List.append_assoc, List.singleton_append]
  | inputs hread hprompts hfault =>
      rw [List.append_assoc prompts, List.singleton_append] at hprompts
      exact .inputs (List.forall_mem_cons.mpr ⟨hexit, hread⟩) hprompts hfault
  | broken front hread hprompts hfault hbreaks =>
      refine .broken ((prompt, reading) :: front) (by rw [hread]; rfl) ?_ hfault hbreaks
      rw [hprompts, List.map_cons, List.append_assoc prompts, List.singleton_append]

/-- Nothing is read as a line that ends a conversation while a statement is being typed. -/
theorem prompt_of_exit {pending : List String} {typed : Typed}
    (h : Reading.of pending typed = .exit) : promptText pending = "query> " := by
  cases typed with
  | interrupt => cases h
  | line line =>
      rw [Reading.of] at h
      split at h
      · rename_i hexit
        rw [promptText, (Bool.and_eq_true_iff.mp hexit).1]
        rfl
      · split at h
        · cases h
        · split at h
          · cases h
          · split at h
            · cases h
            · cases h

/-- However far a conversation went, it ends with a line that asks for it, with the inputs, or
with a reading that breaks it off. -/
theorem ended_converse (c : Conversation) (hc : c.fault = none) (today : String)
    (elapsed : Binary64) (pending : List String) (typed : List Typed) :
    Ended c.workspace.settings c.prompts (readings pending typed)
      (c.converse today elapsed pending typed) := by
  induction typed generalizing c pending with
  | nil =>
      have hprompts : (c.converse today elapsed pending []).prompts =
          c.prompts ++ (readings pending []).map Prod.fst ++ [promptText pending] := by
        rw [readings, List.map_nil, List.append_nil]
        rfl
      exact .inputs (fun _ h => absurd h List.not_mem_nil) hprompts hc
  | cons typed rest ih =>
      have hprompts := prompts_answer c today elapsed (promptText pending)
        (Reading.of pending typed)
      have hsettings := settings_answer c today elapsed (promptText pending)
        (Reading.of pending typed)
      cases hfault : (c.answer today elapsed (promptText pending)
        (Reading.of pending typed)).fault with
      | some fault =>
          rw [converse, if_pos (by simp [hfault]), readings]
          refine .broken [] rfl ?_ hfault (answer_breaksOff hfault)
          rw [hprompts, List.map_nil, List.append_nil]
      | none =>
          by_cases hexit : Reading.of pending typed = .exit
          · rw [converse, if_pos (by simp [hexit]), readings, if_pos hexit]
            rw [hexit] at hprompts hfault ⊢
            rw [prompt_of_exit hexit] at hprompts hfault ⊢
            exact .exit [] rfl hprompts hfault
          · rw [converse, if_neg (by simp [hexit, hfault]), readings, if_neg hexit]
            have hrest := ih _ hfault ((Reading.of pending typed).pendingAfter pending)
            rw [hsettings, hprompts] at hrest
            exact hrest.cons hexit

/-- A conversation over any data ends with a line that asks for it between two statements, with
the end of the inputs, or with a statement or a shortcut that breaks it off as it can. -/
theorem converse_ends (w : Workspace) (d : Directory) (today : String) (elapsed : Binary64)
    (typed : List Typed) :
    Ended w.settings [] (readings [] typed) ((start w d).converse today elapsed [] typed) :=
  ended_converse (start w d) rfl today elapsed [] typed

/-- A statement over a row with an integer beyond 64 bits breaks the conversation off, and the
line behind it that asks for its end is not read. -/
theorem converse_breaks_off :
    let rows : List Record := [[("a", .ofInt (2 ^ 64))]]
    let d : Dataset := ⟨rowsValue rows, none, .ok rows⟩
    let w := (Workspace.start .default).publish (some d)
    let held := (start w .empty).converse "2024-01-01" .zero []
      [.line "SELECT * FROM data;", .line "exit"]
    Dataset.ofValue (rowsValue rows) none = .ok d ∧ d.isQueryable = true ∧
      held.fault = some .integerExceedsColumn ∧ held.prompts = ["query> "] ∧
      held.lines = [] := by
  intro rows d w held
  have hflat : ∀ row ∈ rows, Record.IsFlat row := by
    refine List.forall_mem_singleton.mpr ?_
    exact Record.IsFlat.cons_iff.mpr ⟨List.not_mem_nil, rfl, .nil⟩
  refine ⟨Dataset.ofValue_rowsValue (List.cons_ne_nil _ _) hflat none, rfl, ?_, ?_, ?_⟩
  · decide +kernel
  · decide +kernel
  · decide +kernel

end Conversation

end Conversing

end JsonQuery
