import JsonQuery.Console.Command
import JsonQuery.Proofs.Outcome
import Mathlib.Data.List.TakeWhile
import Mathlib.Tactic

/-!
A statement typed at the prompt, line by line. The lines are collected without the blank ones
until one of them ends with a semicolon, so typing a text with a semicolon behind it runs one
statement: the text without its blank lines. As long as no line before the last ends with a
semicolon of its own, nothing else happens on the way.
-/

namespace JsonQuery

open Text

section Trimming

variable {p : Char → Bool} {cs ds : List Char}

theorem dropWhile_concat {d : Char} (hd : p d = false) :
    (cs ++ [d]).dropWhile p = cs.dropWhile p ++ [d] := by
  rw [List.dropWhile_append, List.dropWhile_cons, hd, if_neg Bool.false_ne_true]
  split
  · rename_i hnone
    rw [List.isEmpty_iff.mp hnone]
    rfl
  · rfl

/-- Trimming stops at a last character that is kept. -/
theorem stripWhere_concat {d : Char} (hd : p d = false) :
    stripWhere p (cs ++ [d]) = cs.dropWhile p ++ [d] := by
  rw [stripWhere, dropWhile_concat hd, List.reverse_append, List.reverse_singleton,
    List.singleton_append, List.dropWhile_cons, hd, if_neg Bool.false_ne_true, List.reverse_cons,
    List.reverse_reverse]

/-- What is trimmed off anyway makes no difference behind a text. -/
theorem stripWhere_append (hds : ∀ d ∈ ds, p d = true) :
    stripWhere p (cs ++ ds) = stripWhere p cs := by
  have hnone : ds.dropWhile p = [] := List.dropWhile_eq_nil_iff.mpr hds
  rw [stripWhere, stripWhere, List.dropWhile_append, hnone]
  split
  · rename_i hblank
    rw [List.isEmpty_iff.mp hblank]
  · rw [List.reverse_append, List.dropWhile_append_of_pos]
    exact fun d hd => hds d (List.mem_reverse.mp hd)

theorem toList_strip_concat (s : String) :
    (strip (s ++ ";")).toList = s.toList.dropWhile isBlank ++ [';'] := by
  rw [strip, String.toList_ofList, String.toList_append]
  exact stripWhere_concat rfl

/-- A semicolon behind a statement is no part of it. -/
theorem bareStatement_concat (s : String) : bareStatement (s ++ ";") = strip s := by
  rw [bareStatement, toList_strip_concat, List.reverse_append, List.reverse_singleton,
    List.singleton_append]
  change stripRight (String.ofList (s.toList.dropWhile isBlank).reverse.reverse) = _
  rw [List.reverse_reverse, stripRight, String.toList_ofList, strip, stripWhere]

/-- Trimming on the right leaves the first character that is kept in its place. -/
theorem head?_strip (s : String) : (strip s).toList.head? = (s.toList.dropWhile isBlank).head? := by
  rw [strip, String.toList_ofList, stripWhere]
  cases hrest : s.toList.dropWhile isBlank with
  | nil => rfl
  | cons c cs =>
      have hc : isBlank c = false := by
        have hhead := List.head?_dropWhile_not isBlank s.toList
        rwa [hrest] at hhead
      rw [List.reverse_cons, dropWhile_concat hc, List.reverse_append]
      rfl

end Trimming

section Lowering

/-- A text is brought to lower case by a walk from its beginning to its end, and every character
but the capital sigma has a form of its own. -/
theorem lower_walk : ∃ walk : List Char → List Char → List Char,
    (∀ s, lower s = String.ofList (walk [] s.toList)) ∧
    (∀ before, walk before [] = []) ∧
    ∀ before c rest, ∃ form, walk before (c :: rest) = form ++ walk (c :: before) rest ∧
      (c = 'Σ' ∨ form = lowerChar c) := by
  refine ⟨_, fun s => rfl, fun _ => rfl, fun before c rest => ⟨_, rfl, ?_⟩⟩
  by_cases h : c = 'Σ'
  · exact .inl h
  · exact .inr (if_neg (by simpa using h))

theorem getLast?_lower_concat {s : String} {cs : List Char} (h : s.toList = cs ++ [';']) :
    (lower s).toList.getLast? = some ';' := by
  obtain ⟨walk, hlower, hnil, hcons⟩ := lower_walk
  have hwalk (before : List Char) : (walk before (cs ++ [';'])).getLast? = some ';' := by
    induction cs generalizing before s with
    | nil =>
        obtain ⟨form, hform, hkind⟩ := hcons before ';' []
        rw [List.nil_append, hform, hnil, List.append_nil, hkind.resolve_left (by decide)]
        rfl
    | cons c cs ih =>
        obtain ⟨form, hform, -⟩ := hcons before c (cs ++ [';'])
        rw [List.cons_append, hform, List.getLast?_append, ih (s := String.ofList (cs ++ [';']))
          String.toList_ofList]
        rfl
  rw [hlower, String.toList_ofList, h]
  exact hwalk []

end Lowering

/-- The lines of a text. -/
def textLines (text : String) : List String := (splitOn '\n' text.toList).map String.ofList

/-- Whether there is nothing but white space on a line. -/
def isBlankLine (line : String) : Bool := (strip line).isEmpty

/-- A text without its blank lines. -/
def withoutBlankLines (text : String) : String :=
  "\n".intercalate ((textLines text).filter fun line => !isBlankLine line)

/-- The lines to be typed for a text: its own lines, with a semicolon behind the last one. -/
def typedLines (text : String) : List String :=
  (textLines text).dropLast ++ [(textLines text).getLastD "" ++ ";"]

/-- The prompt takes a line for the beginning of a statement. -/
structure BeginsStatement (line : String) : Prop where
  notBlank : isBlankLine line = false
  notShortcut : isShortcutLine line = false
  notExit : isExitLine line = false

instance (line : String) : Decidable (BeginsStatement line) :=
  decidable_of_iff
    (isBlankLine line = false ∧ isShortcutLine line = false ∧ isExitLine line = false) (by
      constructor
      · exact fun h => ⟨h.1, h.2.1, h.2.2⟩
      · exact fun h => ⟨h.notBlank, h.notShortcut, h.notExit⟩)

/-- A text that is typed as one statement: it begins like one, and no line before the last
completes it. -/
structure Typable (text : String) : Prop where
  begins : ∀ line, (textLines text).head? = some line → BeginsStatement line
  goesOn : ∀ line ∈ (textLines text).dropLast, completesStatement line = false

instance (text : String) : Decidable (Typable text) :=
  decidable_of_iff
    ((∀ line ∈ (textLines text).head?, BeginsStatement line) ∧
      ∀ line ∈ (textLines text).dropLast, completesStatement line = false) (by
      constructor
      · exact fun h => ⟨h.1, h.2⟩
      · exact fun h => ⟨h.begins, h.goesOn⟩)

section Reading

/-- Nothing is done about a reading, and nothing is shown. -/
def Reading.isSilent : Reading → Bool
  | .blank | .unfinished _ => true
  | _ => false

variable {pending : List String} {line : String}

/-- A line in a statement, or at the beginning of one, is blank, completes the statement or is
collected. -/
theorem reading_of_line (hopen : pending ≠ [] ∨ BeginsStatement line) :
    Reading.of pending (.line line) =
      if isBlankLine line then .blank
      else if completesStatement line then .statement ("\n".intercalate (pending ++ [line]))
      else .unfinished line := by
  have hexit : ¬ (pending.isEmpty && isExitLine line) = true := by
    rcases hopen with hne | hbegins
    · simp [List.isEmpty_iff, hne]
    · simp [hbegins.notExit]
  have hshortcut : ¬ (pending.isEmpty && isShortcutLine line) = true := by
    rcases hopen with hne | hbegins
    · simp [List.isEmpty_iff, hne]
    · simp [hbegins.notShortcut]
  rw [Reading.of, if_neg hexit, if_neg hshortcut]
  rfl

theorem isBlankLine_concat (line : String) : isBlankLine (line ++ ";") = false := by
  rw [isBlankLine, Bool.eq_false_iff]
  intro hempty
  have hchars := congrArg String.toList (String.isEmpty_iff.mp hempty)
  rw [toList_strip_concat] at hchars
  exact List.append_ne_nil_of_right_ne_nil _ (List.cons_ne_nil _ _) hchars

theorem completesStatement_concat (line : String) : completesStatement (line ++ ";") = true := by
  rw [completesStatement, toList_strip_concat, List.getLast?_append]
  rfl

theorem BeginsStatement.concat (h : BeginsStatement line) : BeginsStatement (line ++ ";") where
  notBlank := isBlankLine_concat line
  notShortcut := by
    have hfull : line.toList.dropWhile isBlank ≠ [] := by
      intro hnone
      have hblank : isBlankLine line = true := by
        rw [isBlankLine, strip, stripWhere, hnone]
        rfl
      exact Bool.false_ne_true (h.notBlank.symm.trans hblank)
    have hfirst : (strip (line ++ ";")).toList.head? = (strip line).toList.head? := by
      rw [head?_strip line, toList_strip_concat, List.head?_append_of_ne_nil _ hfull]
    rw [isShortcutLine, hfirst]
    exact h.notShortcut
  notExit := by
    have hlast := getLast?_lower_concat (toList_strip_concat line)
    rw [isExitLine, Bool.eq_false_iff]
    intro hexit
    have hwords : ∀ word ∈ ["\\q", "quit", "exit"], word.toList.getLast? ≠ some ';' := by decide
    exact hwords _ (List.contains_iff_mem.mp hexit) hlast

/-- A line with a semicolon behind it completes a statement. -/
theorem reading_of_concat (hopen : pending ≠ [] ∨ BeginsStatement line) :
    Reading.of pending (.line (line ++ ";")) =
      .statement ("\n".intercalate (pending ++ [line ++ ";"])) := by
  rw [reading_of_line (hopen.imp_right BeginsStatement.concat), isBlankLine_concat,
    completesStatement_concat, if_neg Bool.false_ne_true, if_pos rfl]

/-- A line that completes nothing is read in silence, and collected unless it is blank. What is
collected then is open again. -/
theorem exists_silent (hopen : pending ≠ [] ∨ BeginsStatement line)
    (hcomplete : completesStatement line = false) :
    ∃ reading, Reading.of pending (.line line) = reading ∧ reading.isSilent = true ∧
      reading.pendingAfter pending = pending ++ [line].filter (fun line => !isBlankLine line) ∧
      reading.pendingAfter pending ≠ [] := by
  refine ⟨_, reading_of_line hopen, ?_⟩
  rw [hcomplete, if_neg Bool.false_ne_true]
  by_cases hblank : isBlankLine line = true
  · have hne : pending ≠ [] := hopen.resolve_right fun hbegins => by
      rw [hbegins.notBlank] at hblank
      cases hblank
    rw [if_pos hblank]
    refine ⟨rfl, ?_, hne⟩
    rw [List.filter_singleton, hblank]
    exact (List.append_nil pending).symm
  · rw [if_neg hblank]
    refine ⟨rfl, ?_, List.append_ne_nil_of_right_ne_nil _ (List.cons_ne_nil _ _)⟩
    rw [List.filter_singleton, Bool.eq_false_iff.mpr hblank]
    rfl

variable {lines : List String}

theorem filter_cons_append (pending : List String) (line : String) (lines : List String) :
    pending ++ [line].filter (fun line => !isBlankLine line) ++
        lines.filter (fun line => !isBlankLine line) =
      pending ++ (line :: lines).filter fun line => !isBlankLine line := by
  rw [List.append_assoc, ← List.filter_append, List.singleton_append]

/-- Lines that complete nothing are read in silence and collected without the blank ones. -/
theorem readings_of_lines (pending : List String) (rest : List Typed)
    (hopen : pending ≠ [] ∨ ∀ line, lines.head? = some line → BeginsStatement line)
    (hcomplete : ∀ line ∈ lines, completesStatement line = false) :
    ∃ front, (∀ r ∈ front, Reading.isSilent r.2 = true) ∧
      readings pending (lines.map .line ++ rest) =
        front ++ readings (pending ++ lines.filter fun line => !isBlankLine line) rest := by
  induction lines generalizing pending with
  | nil => exact ⟨[], fun _ hr => absurd hr List.not_mem_nil, by simp⟩
  | cons line lines ih =>
      obtain ⟨reading, hreading, hsilent, hafter, hne⟩ :=
        exists_silent (hopen.imp_right fun h => h line rfl) (hcomplete line List.mem_cons_self)
      obtain ⟨front, hfront, hrest⟩ := ih _ (.inl hne) fun l hl =>
        hcomplete l (List.mem_cons_of_mem _ hl)
      refine ⟨(promptText pending, reading) :: front, ?_, ?_⟩
      · exact List.forall_mem_cons.mpr ⟨hsilent, hfront⟩
      · have hexit : reading ≠ .exit := by
          rintro rfl
          cases hsilent
        rw [hafter, filter_cons_append] at hrest
        rw [List.map_cons, List.cons_append, readings, hreading, if_neg hexit, hafter, hrest]
        rfl

end Reading

section Conversing

variable {c : Conversation} {pending lines : List String} {today : String} {elapsed : Binary64}

namespace Conversation

/-- A silent reading leaves everything but the prompts as it is. -/
theorem answer_silent {reading : Reading} (h : reading.isSilent = true) (prompt : String) :
    c.answer today elapsed prompt reading =
      { c with prompts := c.prompts ++ [prompt], fault := none } := by
  have hperform : c.workspace.perform today reading = ⟨c.workspace, .ok (.lines []), []⟩ := by
    cases reading with
    | blank | unfinished _ => rfl
    | exit | shortcut _ | statement _ | interrupted => cases h
  rw [answer, hperform]
  simp [Except.bind, Directory.show, Shown.print, Except.map, writtenLines]

/-- While lines are typed that complete nothing, nothing happens but prompting. -/
theorem converse_of_lines (today : String) (elapsed : Binary64) (pending : List String)
    (rest : List Typed) (hc : c.fault = none)
    (hopen : pending ≠ [] ∨ ∀ line, lines.head? = some line → BeginsStatement line)
    (hcomplete : ∀ line ∈ lines, completesStatement line = false) :
    ∃ prompts, c.converse today elapsed pending (lines.map .line ++ rest) =
      { c with prompts := prompts }.converse today elapsed
        (pending ++ lines.filter fun line => !isBlankLine line) rest := by
  induction lines generalizing pending c with
  | nil => exact ⟨c.prompts, by simp⟩
  | cons line lines ih =>
      obtain ⟨reading, hreading, hsilent, hafter, hne⟩ :=
        exists_silent (hopen.imp_right fun h => h line rfl) (hcomplete line List.mem_cons_self)
      obtain ⟨prompts, hrest⟩ := ih (c := { c with prompts := c.prompts ++ [promptText pending] })
        _ hc (.inl hne) fun l hl => hcomplete l (List.mem_cons_of_mem _ hl)
      refine ⟨prompts, ?_⟩
      have hexit : reading ≠ .exit := by
        rintro rfl
        cases hsilent
      rw [hafter, filter_cons_append] at hrest
      have hgoes : ¬ (decide (reading = .exit) || (none : Option Fault).isSome) = true := by
        simpa using hexit
      rw [List.map_cons, List.cons_append, converse, hreading, answer_silent hsilent]
      rw [if_neg hgoes, hafter, ← hrest, hc]

end Conversation

end Conversing

section Printing

variable {w : Workspace} {elapsed : Binary64} {text : String}

/-- What is printed for a statement, and the fault that breaks it off. -/
def Workspace.printed (w : Workspace) (elapsed : Binary64) (text : String) :
    List String × Option Fault :=
  match (w.runStatement text).outcome.bind (Shown.print elapsed) with
  | .ok lines => writtenLines lines
  | .error fault => ([], some fault)

/-- What a statement shows is never a file to be saved. -/
theorem Workspace.not_saving_of_runStatement {shown : Shown}
    (h : (w.runStatement text).outcome = .ok shown) : ∀ save, shown ≠ .saving save := by
  rintro save rfl
  rw [runStatement] at h
  split at h
  · cases h
  · obtain ⟨answer, -, hanswer⟩ := Outcome.map_eq_ok.mp h
    cases answer <;> cases hanswer

/-- What is no file to be saved is shown by printing it. -/
theorem Directory.show_of_not_saving (d : Directory) (elapsed : Binary64) {shown : Shown}
    (h : ∀ save, shown ≠ .saving save) :
    d.show elapsed shown = (shown.print elapsed).map fun lines => (lines, d) := by
  cases shown with
  | saving save => exact absurd rfl (h save)
  | lines _ | result _ _ | rejection _ => rfl

/-- A conversation prints what is printed for a statement, and breaks off with it. -/
theorem Conversation.answer_statement (c : Conversation) (today : String) (elapsed : Binary64)
    (prompt text : String) :
    (c.answer today elapsed prompt (.statement text)).lines =
        c.lines ++ (c.workspace.printed elapsed text).1 ∧
      (c.answer today elapsed prompt (.statement text)).fault =
        (c.workspace.printed elapsed text).2 := by
  rw [answer, Workspace.perform, Workspace.printed]
  cases houtcome : (c.workspace.runStatement text).outcome with
  | error fault => simp [Except.bind]
  | ok shown =>
      have hshow := c.directory.show_of_not_saving elapsed
        (Workspace.not_saving_of_runStatement houtcome)
      rw [Except.bind, Except.bind, hshow]
      cases shown.print elapsed with
      | error fault => simp [Except.map]
      | ok lines => simp [Except.map]

/-- The command prints what is printed for a statement, and breaks off with it. -/
theorem Surroundings.finishWithStatement_printed (s : Surroundings) (begun : CommandRun)
    (w : Workspace) (text : String) :
    (s.finishWithStatement begun w text).lines = begun.lines ++ (w.printed s.elapsed text).1 ∧
      ∀ fault, (s.finishWithStatement begun w text).ending = .broken fault ↔
        (w.printed s.elapsed text).2 = some fault := by
  rw [finishWithStatement, Workspace.printed]
  cases (w.runStatement text).outcome with
  | error fault => simp [Except.bind]
  | ok shown =>
      rw [Except.bind]
      cases hprint : shown.print s.elapsed with
      | error fault => simp [hprint]
      | ok lines =>
          simp only [hprint]
          refine ⟨trivial, fun fault => ?_⟩
          cases (writtenLines lines).2 with
          | none => cases shown.isSuccess <;> simp
          | some other => simp

end Printing

section Joining

variable {text line : String} {lines : List String}

theorem splitOn_ne_nil (sep : Char) (cs : List Char) : splitOn sep cs ≠ [] := by
  cases cs with
  | nil => exact List.cons_ne_nil _ _
  | cons c cs =>
      rw [splitOn]
      split
      · exact List.cons_ne_nil _ _
      · split <;> exact List.cons_ne_nil _ _

theorem textLines_ne_nil (text : String) : textLines text ≠ [] := fun hnone =>
  splitOn_ne_nil '\n' text.toList (List.map_eq_nil_iff.mp hnone)

/-- What a text was split into is joined to the text. -/
theorem intercalate_splitOn (sep : Char) (cs : List Char) :
    [sep].intercalate (splitOn sep cs) = cs := by
  induction cs with
  | nil => rfl
  | cons c cs ih =>
      obtain ⟨first, later, hparts⟩ := List.exists_cons_of_ne_nil (splitOn_ne_nil sep cs)
      rw [splitOn, hparts]
      rw [hparts] at ih
      by_cases hc : c = sep
      · rw [if_pos (beq_iff_eq.mpr hc), List.intercalate_cons_cons, ih, hc]
        rfl
      · rw [if_neg (by simpa using hc)]
        cases later with
        | nil => rw [← ih, List.intercalate_singleton, List.intercalate_singleton]
        | cons second later =>
            rw [← ih, List.intercalate_cons_cons, List.intercalate_cons_cons, List.cons_append,
              List.cons_append]

/-- A text without blank lines keeps all its lines. -/
theorem withoutBlankLines_eq_self (h : ∀ line ∈ textLines text, isBlankLine line = false) :
    withoutBlankLines text = text := by
  have hall : (textLines text).filter (fun line => !isBlankLine line) = textLines text :=
    List.filter_eq_self.mpr fun line hline => by simp [h line hline]
  have hchars : (textLines text).map String.toList = splitOn '\n' text.toList := by
    rw [textLines, List.map_map]
    exact List.map_id'' (fun _ => String.toList_ofList) _
  rw [withoutBlankLines, hall, ← String.toList_inj, String.toList_intercalate, hchars]
  exact intercalate_splitOn '\n' text.toList

theorem dropLast_concat_getLastD (h : lines ≠ []) :
    lines.dropLast ++ [lines.getLastD ""] = lines := by
  rw [List.getLastD_eq_getLast?, List.getLast?_eq_some_getLast h]
  exact List.dropLast_concat_getLast h

/-- What stands behind the last of some joined lines stands behind all of them. -/
theorem intercalate_concat_append (lines : List String) (line more : String) :
    "\n".intercalate (lines ++ [line ++ more]) = "\n".intercalate (lines ++ [line]) ++ more := by
  by_cases hlines : lines = []
  · rw [hlines, List.nil_append, List.nil_append, String.intercalate_singleton,
      String.intercalate_singleton]
  · rw [String.intercalate_append_of_ne_nil hlines (List.cons_ne_nil _ _),
      String.intercalate_append_of_ne_nil hlines (List.cons_ne_nil _ _),
      String.intercalate_singleton, String.intercalate_singleton, ← String.append_assoc]

theorem isBlank_of_isBlankLine (h : isBlankLine line = true) : ∀ c ∈ line.toList, isBlank c := by
  have hempty : (strip line).toList.head? = none := by
    rw [String.isEmpty_iff.mp h]
    rfl
  rw [head?_strip, List.head?_eq_none_iff] at hempty
  exact List.dropWhile_eq_nil_iff.mp hempty

/-- A blank last line makes no difference to a text that is trimmed. -/
theorem strip_intercalate_concat (hlines : lines ≠ []) (h : isBlankLine line = true) :
    strip ("\n".intercalate (lines ++ [line])) = strip ("\n".intercalate lines) := by
  rw [String.intercalate_append_of_ne_nil hlines (List.cons_ne_nil _ _),
    String.intercalate_singleton, strip, strip, String.toList_append, String.toList_append,
    List.append_assoc, stripWhere_append]
  intro c hc
  rcases List.mem_append.mp hc with hbreak | hline
  · rw [List.mem_singleton.mp hbreak]
    rfl
  · exact isBlank_of_isBlankLine h c hline

/-- The lines of a text that are collected before its last line is typed. -/
def collected (text : String) : List String :=
  (textLines text).dropLast.filter fun line => !isBlankLine line

theorem Typable.head_dropLast (h : Typable text) {first : String}
    (hfirst : (textLines text).dropLast.head? = some first) : BeginsStatement first := by
  refine h.begins first ?_
  rw [← dropLast_concat_getLastD (textLines_ne_nil text), List.head?_append, hfirst]
  rfl

/-- Before the last line is typed a statement has been begun, unless the last line begins it. -/
theorem Typable.open_before_last (h : Typable text) :
    collected text ≠ [] ∨ BeginsStatement ((textLines text).getLastD "") := by
  rw [collected]
  cases hfront : (textLines text).dropLast with
  | nil =>
      right
      refine h.begins _ ?_
      rw [← dropLast_concat_getLastD (textLines_ne_nil text), hfront]
      simp
  | cons first later =>
      left
      have hbegins : BeginsStatement first := h.head_dropLast (by rw [hfront]; rfl)
      rw [List.filter_cons_of_pos (by simp [hbegins.notBlank])]
      exact List.cons_ne_nil _ _

/-- The statement that typing a text comes to. -/
def typedStatement (text : String) : String :=
  "\n".intercalate (collected text ++ [(textLines text).getLastD "" ++ ";"])

/-- The statement that typing a text comes to is the text without its blank lines. -/
theorem bareStatement_typed (h : Typable text) :
    bareStatement (typedStatement text) = strip (withoutBlankLines text) := by
  have hopen := h.open_before_last
  rw [typedStatement, intercalate_concat_append, bareStatement_concat, withoutBlankLines,
    ← dropLast_concat_getLastD (textLines_ne_nil text), List.filter_append, List.filter_singleton,
    dropLast_concat_getLastD (textLines_ne_nil text)]
  change _ = strip ("\n".intercalate (collected text ++ _))
  by_cases hblank : isBlankLine ((textLines text).getLastD "") = true
  · have hlines : collected text ≠ [] := hopen.resolve_right fun hbegins =>
      Bool.false_ne_true (hbegins.notBlank.symm.trans hblank)
    rw [strip_intercalate_concat hlines hblank, hblank]
    simp
  · rw [Bool.eq_false_iff.mpr hblank]
    simp

/-- Typing a text reads one statement and nothing else. -/
theorem readings_typed (h : Typable text) :
    ∃ front prompt, (∀ r ∈ front, Reading.isSilent r.2 = true) ∧
      readings [] ((typedLines text).map .line) =
        front ++ [(prompt, .statement (typedStatement text))] := by
  obtain ⟨front, hfront, hreadings⟩ := readings_of_lines []
    [.line ((textLines text).getLastD "" ++ ";")]
    (.inr fun first hfirst => h.head_dropLast hfirst) h.goesOn
  refine ⟨front, promptText (collected text), hfront, ?_⟩
  rw [typedLines, List.map_append]
  refine hreadings.trans (congrArg (front ++ ·) ?_)
  have hlast : Reading.of (collected text) (.line ((textLines text).getLastD "" ++ ";")) =
      .statement (typedStatement text) := reading_of_concat h.open_before_last
  change readings (collected text) _ = _
  rw [readings, hlast, if_neg Reading.noConfusion]
  rfl

/-- Whatever is typed behind it, typing a text in a conversation prints what is printed for its
one statement. The conversation breaks off with that, or goes on. -/
theorem Conversation.converse_typed (h : Typable text) {c : Conversation} (hc : c.fault = none)
    (today : String) (elapsed : Binary64) (rest : List Typed) :
    ∃ answered : Conversation,
      answered.lines = c.lines ++ (c.workspace.printed elapsed (typedStatement text)).1 ∧
      answered.fault = (c.workspace.printed elapsed (typedStatement text)).2 ∧
      c.converse today elapsed [] ((typedLines text).map .line ++ rest) =
        if answered.fault.isSome then answered else answered.converse today elapsed [] rest := by
  obtain ⟨prompts, hconverse⟩ := converse_of_lines (c := c) today elapsed []
    (.line ((textLines text).getLastD "" ++ ";") :: rest) hc
    (.inr fun first hfirst => h.head_dropLast hfirst) h.goesOn
  have hlast : Reading.of (collected text) (.line ((textLines text).getLastD "" ++ ";")) =
      .statement (typedStatement text) := reading_of_concat h.open_before_last
  obtain ⟨hlines, hfault⟩ := answer_statement { c with prompts := prompts } today
    elapsed (promptText (collected text)) (typedStatement text)
  refine ⟨_, hlines, hfault, ?_⟩
  rw [typedLines, List.map_append, List.append_assoc]
  refine hconverse.trans ?_
  change converse today elapsed _ (collected text) _ = _
  rw [converse, hlast]
  simp only [reduceCtorEq, decide_false, Bool.false_or, Reading.pendingAfter]

end Joining

end JsonQuery
