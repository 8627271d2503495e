import JsonQuery.Proofs.Console.Typing
import JsonQuery.Proofs.Dataset.Flat
import JsonQuery.Proofs.Query.Terminated
import Mathlib.Data.List.DropRight

/-!
A query at the prompt and on the command line. A text that is typed as one statement arrives
there without its blank lines, and with a semicolon more than on the command line. Only one
semicolon is taken off, so a text that ends with one of its own is run with it in one place and
without it in the other, which makes no difference to what is printed.
-/

namespace JsonQuery

open Text Sql

section Statements

variable {p : Char → Bool} {cs ds : List Char}

theorem dropWhile_of_append (h : (cs ++ ds).dropWhile p = cs ++ ds) : cs.dropWhile p = cs := by
  cases cs with
  | nil => rfl
  | cons c cs =>
      have hfirst := List.dropWhile_eq_self_iff.mp h (Nat.succ_pos _)
      exact List.dropWhile_eq_self_iff.mpr fun _ => hfirst

theorem dropWhile_strip (s : String) : (strip s).toList.dropWhile isBlank = (strip s).toList := by
  cases hcs : (strip s).toList with
  | nil => rfl
  | cons c cs =>
      have hhead := List.head?_dropWhile_not isBlank s.toList
      rw [← head?_strip, hcs] at hhead
      change isBlank c = false at hhead
      rw [List.dropWhile_cons, hhead, if_neg Bool.false_ne_true]

/-- A text without blanks at both ends stays as it is when it is trimmed. -/
theorem strip_eq_self {s : String} (hfirst : s.toList.dropWhile isBlank = s.toList)
    (hlast : s.toList.reverse.dropWhile isBlank = s.toList.reverse) : strip s = s := by
  rw [strip, stripWhere, hfirst, hlast, List.reverse_reverse, String.ofList_toList]

theorem strip_strip (s : String) : strip (strip s) = strip s := by
  refine strip_eq_self (dropWhile_strip s) ?_
  rw [strip, String.toList_ofList, stripWhere, List.reverse_reverse]
  exact List.dropWhile_idempotent _ _

theorem toList_bareStatement {s : String} {rest : List Char}
    (h : (strip s).toList.reverse = ';' :: rest) :
    (bareStatement s).toList = (rest.dropWhile isBlank).reverse := by
  rw [bareStatement, h]
  simp [stripRight]

theorem bareStatement_eq_strip {s : String}
    (h : ¬ ∃ rest, (strip s).toList.reverse = ';' :: rest) : bareStatement s = strip s := by
  rw [bareStatement]
  split
  · rename_i rest hrest
    exact absurd ⟨rest, hrest⟩ h
  · rfl

theorem isTrailer_terminated {blanks : List Char} (h : ∀ c ∈ blanks, isBlank c = true) :
    IsTrailer (blanks ++ [';']) := by
  intro c hc
  rcases List.mem_append.mp hc with hblank | hlast
  · rw [isTrailing, h c hblank, Bool.true_or]
  · rw [List.mem_singleton.mp hlast]
    rfl

/-- Trimming a statement leaves it as it is, with blanks and the semicolon behind it if there is
one. -/
theorem exists_trailer (s : String) :
    ∃ t, IsTrailer t ∧ (strip s).toList = (bareStatement s).toList ++ t ∧
      strip (bareStatement s) = bareStatement s := by
  by_cases hsemicolon : ∃ rest, (strip s).toList.reverse = ';' :: rest
  · obtain ⟨rest, hrest⟩ := hsemicolon
    have hbare := toList_bareStatement hrest
    have hstrip : (strip s).toList =
        (bareStatement s).toList ++ ((rest.takeWhile isBlank).reverse ++ [';']) := by
      rw [hbare, ← List.append_assoc, ← List.reverse_append, List.takeWhile_append_dropWhile,
        ← List.reverse_cons, ← hrest, List.reverse_reverse]
    refine ⟨_, isTrailer_terminated ?_, hstrip, strip_eq_self ?_ ?_⟩
    · exact fun c hc => List.mem_takeWhile_imp (List.mem_reverse.mp hc)
    · apply dropWhile_of_append
      rw [← hstrip, dropWhile_strip]
    · rw [hbare, List.reverse_reverse]
      exact List.dropWhile_idempotent _ _
  · rw [bareStatement_eq_strip hsemicolon]
    exact ⟨[], isTrailer_nil, (List.append_nil _).symm, strip_strip s⟩

end Statements

section Running

variable {w : Workspace} {elapsed : Binary64} {text text' : String}

/-- Texts with the same answer are answered in the same way in a session. -/
theorem Session.execute_congr {grouping : Bool} {s : Session}
    (h : JsonQuery.execute grouping s.dataset text = JsonQuery.execute grouping s.dataset text') :
    (s.execute grouping text).outcome = (s.execute grouping text').outcome ∧
      (s.execute grouping text).session.warnings =
        (s.execute grouping text').session.warnings := by
  have hrun := Execution.outcome_run grouping s.dataset text
  have hrun' := Execution.outcome_run grouping s.dataset text'
  rw [← h] at hrun'
  unfold execute
  dsimp only
  rw [hrun, hrun']
  cases JsonQuery.execute grouping s.dataset text with
  | ok result => exact ⟨rfl, rfl⟩
  | error fault => cases hkind : fault.isRejection <;> simp [hkind, reject]

/-- For statements that are answered alike the same is printed. -/
theorem Workspace.printed_congr (hne : bareStatement text ≠ "") (hne' : bareStatement text' ≠ "")
    (h : ∀ grouping dataset, execute grouping dataset (bareStatement text) =
      execute grouping dataset (bareStatement text')) :
    w.printed elapsed text = w.printed elapsed text' := by
  obtain ⟨houtcome, hwarnings⟩ := Session.execute_congr (s := w.session)
    (h w.settings.query.enableAggregates.isGiven w.session.dataset)
  have hstep : (w.runStatement text).outcome = (w.runStatement text').outcome := by
    rw [runStatement, runStatement, String.isEmpty_eq_false_iff.mpr hne,
      String.isEmpty_eq_false_iff.mpr hne', if_neg Bool.false_ne_true, if_neg Bool.false_ne_true]
    dsimp only [Workspace.query]
    rw [houtcome, hwarnings]
  rw [printed, printed, hstep]

end Running

/-- The last semicolon of a text belongs to a remark, which a number sign at the end of the text
before it begins with the space behind it. -/
def EndsInRemark (text : String) : Prop :=
  (lexemesAt none 0 (bareStatement text).toList).getLast?.map Lexeme.raw = some ['#'] ∧
    (bareStatement text).toList ++ [' '] <+: (strip text).toList

/-- A statement is answered alike with its semicolon and without. -/
theorem execute_strip {text : String} (hne : bareStatement text ≠ "")
    (hremark : ¬ EndsInRemark text) (grouping : Bool) (dataset : Option Dataset) :
    execute grouping dataset (strip text) = execute grouping dataset (bareStatement text) := by
  obtain ⟨t, ht, htext, hbare⟩ := exists_trailer text
  refine execute_trailer (t := t) ?_ ht ?_ ?_ grouping dataset
  · rw [strip_strip, htext, hbare]
  · rwa [hbare]
  · intro hlast hspace
    rw [hbare] at hlast
    refine hremark ⟨hlast, ?_⟩
    rw [htext, List.prefix_append_right_inj]
    obtain ⟨rest, hrest⟩ := List.head?_eq_some_iff.mp hspace
    exact ⟨rest, hrest.symm⟩

/-- What typing a text prints is what the command prints for it without its blank lines. -/
theorem Workspace.printed_typed {text : String} (h : Typable text)
    (hne : bareStatement (withoutBlankLines text) ≠ "")
    (hremark : ¬ EndsInRemark (withoutBlankLines text)) (w : Workspace) (elapsed : Binary64) :
    w.printed elapsed (typedStatement text) = w.printed elapsed (withoutBlankLines text) := by
  have htyped := bareStatement_typed h
  refine printed_congr ?_ hne fun grouping dataset => ?_
  · rw [htyped]
    intro hnone
    refine hne ?_
    rw [bareStatement, hnone]
    rfl
  · rw [htyped]
    exact execute_strip hne hremark grouping dataset

namespace Conversation

/-- The lines of a text, with a semicolon behind the last one, are read as one statement and
nothing else. Typed in a conversation, whatever was said before and is typed behind them, they
print what the command prints for the text without its blank lines, and break off where it
does. That is the text itself if no line of it is blank. -/
theorem converse_agrees {text : String} (h : Typable text)
    (hne : bareStatement (withoutBlankLines text) ≠ "")
    (hremark : ¬ EndsInRemark (withoutBlankLines text)) {c : Conversation} (hc : c.fault = none)
    (s : Surroundings) (begun : CommandRun) (rest : List Typed) :
    (∃ front prompt statement, (∀ r ∈ front, Reading.isSilent r.2 = true) ∧
      readings [] ((typedLines text).map .line) = front ++ [(prompt, .statement statement)]) ∧
    (∃ (printed : List String) (answered : Conversation),
      answered.lines = c.lines ++ printed ∧
      (s.finishWithStatement begun c.workspace (withoutBlankLines text)).lines =
        begun.lines ++ printed ∧
      (∀ fault, answered.fault = some fault ↔
        (s.finishWithStatement begun c.workspace (withoutBlankLines text)).ending =
          .broken fault) ∧
      c.converse s.today s.elapsed [] ((typedLines text).map .line ++ rest) =
        if answered.fault.isSome then answered
        else answered.converse s.today s.elapsed [] rest) ∧
    ((∀ line ∈ textLines text, isBlankLine line = false) → withoutBlankLines text = text) := by
  obtain ⟨front, prompt, hfront, hreadings⟩ := readings_typed h
  obtain ⟨answered, hlines, hfault, hconverse⟩ := converse_typed h hc s.today s.elapsed rest
  obtain ⟨hprinted, hbroken⟩ := s.finishWithStatement_printed begun c.workspace
    (withoutBlankLines text)
  rw [Workspace.printed_typed h hne hremark] at hlines hfault
  refine ⟨⟨front, prompt, _, hfront, hreadings⟩, ⟨_, answered, hlines, hprinted, ?_, hconverse⟩,
    withoutBlankLines_eq_self⟩
  intro fault
  rw [hfault, hbroken fault]

/-- A text with a blank line, a semicolon inside a literal, and one of its own at its end. -/
theorem converse_agrees_terminated :
    let text := "SELECT * FROM t\n\nWHERE a = 'x;y' ;"
    let rows : List Record := [[("a", .string "x;y")], [("a", .null)]]
    let w := (Workspace.start .default).publish (some ⟨rowsValue rows, none, .ok rows⟩)
    let s : Surroundings := ⟨.empty, fun _ => .timeout, "2024-01-01", .zero, []⟩
    let begun : CommandRun := ⟨.success, [], [], .empty, none, []⟩
    let run := s.finishWithStatement begun w "SELECT * FROM t\nWHERE a = 'x;y' ;"
    Typable text ∧ withoutBlankLines text = "SELECT * FROM t\nWHERE a = 'x;y' ;" ∧
      bareStatement (withoutBlankLines text) ≠ "" ∧
      ¬ EndsInRemark (withoutBlankLines text) ∧ run.ending = .success ∧
      ((start w .empty).converse s.today s.elapsed []
        ((typedLines text).map .line ++ [.line "exit"])).lines = run.lines := by
  intro text rows w s begun run
  have htyped : Typable text := by decide +kernel
  have hwithout : withoutBlankLines text = "SELECT * FROM t\nWHERE a = 'x;y' ;" := by
    decide +kernel
  have hne : bareStatement (withoutBlankLines text) ≠ "" := by decide +kernel
  have hremark : ¬ EndsInRemark (withoutBlankLines text) := fun hends =>
    absurd hends.1 (by decide +kernel)
  have hending : run.ending = .success := by decide +kernel
  obtain ⟨-, ⟨printed, answered, hlines, hrun, hbroken, hconverse⟩, -⟩ :=
    converse_agrees htyped hne hremark (c := start w .empty) rfl s begun
      [.line "exit"]
  refine ⟨htyped, hwithout, hne, hremark, hending, ?_⟩
  have hfault : answered.fault = none := by
    cases hfault : answered.fault with
    | none => rfl
    | some fault =>
        have hended := (hbroken fault).mp hfault
        rw [hwithout] at hended
        exact absurd (hending.symm.trans hended) CommandEnd.noConfusion
  have hexit : (answered.converse s.today s.elapsed [] [.line "exit"]).lines =
      answered.lines ++ [] := rfl
  rw [hwithout] at hrun
  have hlast : run.lines = begun.lines ++ printed := hrun
  rw [hconverse, hfault, Option.isSome_none, if_neg Bool.false_ne_true, hexit, hlines, hlast]
  exact List.append_nil printed

/-- A line inside a literal that ends with a semicolon completes a statement, a blank line is left
out of a literal and of a text that a warning quotes, a semicolon alone is a statement if there
is another one behind it, and a number sign and a space before the semicolon begin a remark. -/
theorem converse_disagrees :
    let split := "SELECT * FROM t WHERE a = 'x;\ny'"
    let gap := "SELECT * FROM t WHERE a = 'x\n\ny'"
    let told := "SELECT * FROM t b\n\nc"
    let remark := "SELECT * FROM t # ;"
    let rows : List Record := [[("a", .string "x\n\ny")]]
    let d : Dataset := ⟨rowsValue rows, none, .ok rows⟩
    let w := (Workspace.start .default).publish (some d)
    let s : Surroundings := ⟨.empty, fun _ => .timeout, "2024-01-01", .zero, []⟩
    let begun : CommandRun := ⟨.success, [], [], .empty, none, []⟩
    Dataset.ofValue (rowsValue rows) none = .ok d ∧ d.isQueryable = true ∧
      (∀ text ∈ [split, gap, told, ";", remark],
        ∀ line ∈ (textLines text).head?, BeginsStatement line) ∧
      readings [] ((typedLines split).map .line) =
        [("query> ", .statement "SELECT * FROM t WHERE a = 'x;"),
          ("query> ", .statement "y';")] ∧
      ∀ text ∈ [gap, told, ";", remark],
        ((start w .empty).converse s.today s.elapsed []
          ((typedLines text).map .line ++ [.line "exit"])).lines ≠
            (s.finishWithStatement begun w text).lines := by
  intro split gap told remark rows d w s begun
  have hflat : ∀ row ∈ rows, Record.IsFlat row := by
    refine List.forall_mem_singleton.mpr ?_
    exact Record.IsFlat.cons_iff.mpr ⟨List.not_mem_nil, rfl, .nil⟩
  refine ⟨Dataset.ofValue_rowsValue (List.cons_ne_nil _ _) hflat none, rfl, ?_, ?_, ?_⟩
  · decide +kernel
  · decide +kernel
  · decide +kernel

end Conversation

end JsonQuery
