import JsonQuery.Proofs.Console.Typing
import Mathlib.Tactic

/-!
What is typed at the prompt, turn by turn. A turn is what is typed between two moments at which
no statement is being typed: a statement from its first line to the one that completes it, the
lines of a statement with the interrupt that drops them, a shortcut, or a blank line. Everything
typed belongs to one turn, to the line that ends the conversation or to the lines that the end of
the inputs drops, and the conversation does what its turns do, one after the other.
-/

namespace JsonQuery

/-- Lines of a statement that has not been completed, or none. -/
structure Unfinished (lines : List String) : Prop where
  begins : ∀ line, lines.head? = some line → BeginsStatement line
  goesOn : ∀ line ∈ lines, completesStatement line = false

/-- The lines of a statement: those that are not blank. -/
def fullLines (lines : List String) : List String := lines.filter fun line => !isBlankLine line

/-- What is typed from one moment at which no statement is being typed to the next. -/
inductive Turn where
  /-- Lines, and the one that completes the statement. -/
  | statement (lines : List String) (last : String)
  /-- The lines of a statement that an interrupt drops, if there are any. -/
  | dropped (lines : List String)
  | shortcut (line : String)
  | blank (line : String)

namespace Turn

/-- What is typed in a turn. -/
def typed : Turn → List Typed
  | .statement lines last => (lines ++ [last]).map .line
  | .dropped lines => lines.map .line ++ [.interrupt]
  | .shortcut line => [.line line]
  | .blank line => [.line line]

/-- What a turn means as a whole. -/
def reading : Turn → Reading
  | .statement lines last => .statement ("\n".intercalate (fullLines (lines ++ [last])))
  | .dropped _ => .interrupted
  | .shortcut line => .shortcut line
  | .blank _ => .blank

/-- A turn as it can be typed: a statement is completed by its last line alone, and what is taken
for a shortcut or for a blank line would be taken for nothing else. -/
inductive WellFormed : Turn → Prop
  | statement {lines : List String} {last : String} (hlines : Unfinished lines)
      (hbegins : lines = [] → BeginsStatement last) (hlast : completesStatement last = true) :
      WellFormed (.statement lines last)
  | dropped {lines : List String} (hlines : Unfinished lines) : WellFormed (.dropped lines)
  | shortcut {line : String} (hshortcut : isShortcutLine line = true)
      (hexit : isExitLine line = false) : WellFormed (.shortcut line)
  | blank {line : String} (hblank : isBlankLine line = true) : WellFormed (.blank line)

end Turn

/-- How a conversation is closed that nothing breaks off. -/
inductive Closing where
  /-- A line asks for it. What is typed behind it is not read. -/
  | exit (line : String) (unread : List Typed)
  /-- There is nothing more to read. The lines of a statement are dropped, if there are any. -/
  | inputs (lines : List String)

namespace Closing

/-- What is typed from the last turn on. -/
def typed : Closing → List Typed
  | .exit line unread => .line line :: unread
  | .inputs lines => lines.map .line

/-- How many inputs are asked for from the last turn on. The end of the inputs answers the last
request of a conversation that no line closes. -/
def requests : Closing → Nat
  | .exit _ _ => 1
  | .inputs lines => lines.length + 1

/-- What is shown at the end. -/
def shown : Closing → List String
  | .exit _ _ => []
  | .inputs _ => [""]

/-- A closing as it can be typed. -/
inductive WellFormed : Closing → Prop
  | exit {line : String} {unread : List Typed} (hexit : isExitLine line = true) :
      WellFormed (.exit line unread)
  | inputs {lines : List String} (hlines : Unfinished lines) : WellFormed (.inputs lines)

end Closing

/-- The prompts of a turn of so many inputs: the first one is typed while no statement is, and
the others are typed into a statement. -/
def turnPrompts : Nat → List String
  | 0 => []
  | n + 1 => "query> " :: List.replicate n "...> "

namespace Conversation

/-- A conversation after a turn: it does what the turn means as a whole. -/
def follow (today : String) (elapsed : Binary64) (c : Conversation) (turn : Turn) : Conversation :=
  { c.answer today elapsed "" turn.reading with
    prompts := c.prompts ++ turnPrompts turn.typed.length }

/-- A conversation after its closing. -/
def close (c : Conversation) (closing : Closing) : Conversation :=
  { c with
    prompts := c.prompts ++ turnPrompts closing.requests, lines := c.lines ++ closing.shown }

end Conversation

section Lines

variable {pending lines : List String} {line last : String}

theorem Unfinished.nil : Unfinished [] where
  begins := fun _ h => by cases h
  goesOn := fun _ h => absurd h List.not_mem_nil

/-- A line that completes nothing can stand behind the lines of a statement, whatever it would be
taken for at the beginning of one. -/
theorem Unfinished.concat (h : Unfinished lines) (hopen : lines ≠ [] ∨ BeginsStatement line)
    (hcomplete : completesStatement line = false) : Unfinished (lines ++ [line]) where
  begins := by
    cases lines with
    | nil =>
        intro first hfirst
        rw [← Option.some.inj hfirst]
        exact hopen.resolve_left fun hne => hne rfl
    | cons head tail => exact h.begins
  goesOn := List.forall_mem_append.mpr ⟨h.goesOn, List.forall_mem_singleton.mpr hcomplete⟩

theorem Unfinished.fullLines_ne_nil (h : Unfinished lines) (hne : lines ≠ []) :
    fullLines lines ≠ [] := by
  obtain ⟨first, later, rfl⟩ := List.exists_cons_of_ne_nil hne
  rw [fullLines, List.filter_cons, (h.begins first rfl).notBlank]
  exact List.cons_ne_nil _ _

/-- A line that completes a statement is not blank. -/
theorem isBlankLine_of_completes (h : completesStatement line = true) :
    isBlankLine line = false := by
  rw [isBlankLine, Bool.eq_false_iff]
  intro hblank
  rw [completesStatement, String.isEmpty_iff.mp hblank] at h
  cases h

theorem fullLines_concat_of_completes (h : completesStatement last = true) :
    fullLines (lines ++ [last]) = fullLines lines ++ [last] := by
  rw [fullLines, List.filter_append, List.filter_singleton, isBlankLine_of_completes h]
  rfl

theorem promptText_of_ne_nil (h : pending ≠ []) : promptText pending = "...> " := by
  rw [promptText, if_neg (by simpa using h)]

end Lines

section Splitting

/-- Some turns and a closing are what was typed. -/
structure Splits (typed : List Typed) (turns : List Turn) (closing : Closing) : Prop where
  typed_eq : typed = turns.flatMap Turn.typed ++ closing.typed
  turns : ∀ turn ∈ turns, turn.WellFormed
  closing : closing.WellFormed

/-- A turn before the turns of the rest. -/
theorem Splits.cons {turn : Turn} {rest : List Typed} {turns : List Turn} {closing : Closing}
    (hturn : turn.WellFormed) (h : Splits rest turns closing) :
    Splits (turn.typed ++ rest) (turn :: turns) closing where
  typed_eq := by rw [List.flatMap_cons, List.append_assoc, ← h.typed_eq]
  turns := List.forall_mem_cons.mpr ⟨hturn, h.turns⟩
  closing := h.closing

theorem Splits.of_closing {closing : Closing} (h : closing.WellFormed) :
    Splits closing.typed [] closing := ⟨rfl, fun _ hturn => absurd hturn List.not_mem_nil, h⟩

/-- What is typed behind lines that leave a statement open is split with them. -/
theorem Unfinished.exists_splits {lines : List String} (hlines : Unfinished lines)
    (typed : List Typed) :
    ∃ turns closing, Splits (lines.map .line ++ typed) turns closing := by
  induction typed generalizing lines with
  | nil =>
      rw [List.append_nil]
      exact ⟨[], _, .of_closing (.inputs hlines)⟩
  | cons input rest ih =>
      have hturn (turn : Turn) (hwell : turn.WellFormed)
          (htyped : turn.typed = lines.map .line ++ [input]) :
          ∃ turns closing, Splits (lines.map .line ++ input :: rest) turns closing := by
        obtain ⟨turns, closing, hrest⟩ := ih .nil
        have hall := hrest.cons hwell
        rw [htyped, List.append_assoc] at hall
        exact ⟨_, _, hall⟩
      cases input with
      | interrupt => exact hturn (.dropped lines) (.dropped hlines) rfl
      | line line =>
          have hline (hopen : lines ≠ [] ∨ BeginsStatement line) :
              ∃ turns closing, Splits (lines.map .line ++ .line line :: rest) turns closing := by
            cases hcomplete : completesStatement line with
            | true =>
                refine hturn (.statement lines line) (.statement hlines ?_ hcomplete)
                  List.map_append
                exact fun hnone => hopen.resolve_left fun hne => hne hnone
            | false =>
                have hmore := ih (hlines.concat hopen hcomplete)
                rwa [List.map_append, List.append_assoc] at hmore
          by_cases hne : lines ≠ []
          · exact hline (.inl hne)
          -- between two statements a line can be meant in four ways
          · obtain rfl := not_not.mp hne
            cases hexit : isExitLine line with
            | true => exact ⟨[], _, .of_closing (.exit hexit)⟩
            | false =>
                cases hshortcut : isShortcutLine line with
                | true => exact hturn (.shortcut line) (.shortcut hshortcut hexit) rfl
                | false =>
                    cases hblank : isBlankLine line with
                    | true => exact hturn (.blank line) (.blank hblank) rfl
                    | false => exact hline (.inr ⟨hblank, hshortcut, hexit⟩)

end Splitting

namespace Conversation

section Following

variable {c : Conversation} {today : String} {elapsed : Binary64} {pending lines : List String}
  {turn : Turn}

/-- The lines of a statement that goes on are collected, and nothing happens but prompting. -/
theorem converse_further (today : String) (elapsed : Binary64) (rest : List Typed) (hc : c.fault = none) (hne : pending ≠ [])
    (hcomplete : ∀ line ∈ lines, completesStatement line = false) :
    c.converse today elapsed pending (lines.map .line ++ rest) =
      { c with prompts := c.prompts ++ List.replicate lines.length "...> " }.converse today elapsed
        (pending ++ fullLines lines) rest := by
  induction lines generalizing pending c with
  | nil => simp [fullLines]
  | cons line lines ih =>
      obtain ⟨reading, hreading, hsilent, hafter, hopen⟩ :=
        exists_silent (.inl hne) (hcomplete line List.mem_cons_self)
      have hexit : reading ≠ .exit := by
        rintro rfl
        cases hsilent
      have hgoes : ¬ (decide (reading = .exit) || (none : Option Fault).isSome) = true := by
        simpa using hexit
      have hrest := ih (c := { c with prompts := c.prompts ++ ["...> "] }) hc hopen fun l hl =>
        hcomplete l (List.mem_cons_of_mem _ hl)
      rw [List.map_cons, List.cons_append, converse, hreading, promptText_of_ne_nil hne,
        answer_silent hsilent, if_neg hgoes, ← hc, hrest, hafter]
      rw [List.append_assoc, List.singleton_append, List.append_assoc, fullLines, fullLines,
        ← List.filter_append, List.singleton_append]
      rfl

/-- Likewise from the first line on, which is not typed into a statement. -/
theorem converse_unfinished (today : String) (elapsed : Binary64) (rest : List Typed) (hc : c.fault = none) (hlines : Unfinished lines) :
    c.converse today elapsed [] (lines.map .line ++ rest) =
      { c with prompts := c.prompts ++ turnPrompts lines.length }.converse today elapsed
        (fullLines lines) rest := by
  cases lines with
  | nil => simp [fullLines, turnPrompts]
  | cons line lines =>
      have hfirst := hlines.goesOn line List.mem_cons_self
      have hbegins := hlines.begins line rfl
      have hreading : Reading.of [] (.line line) = .unfinished line := by
        rw [reading_of_line (.inr hbegins), hbegins.notBlank, hfirst, if_neg Bool.false_ne_true,
          if_neg Bool.false_ne_true]
      have hrest := converse_further (c := { c with prompts := c.prompts ++ ["query> "] }) today elapsed
        rest hc (List.cons_ne_nil line []) fun l hl => hlines.goesOn l (List.mem_cons_of_mem _ hl)
      have hfull : fullLines (line :: lines) = [line] ++ fullLines lines := by
        rw [fullLines, List.filter_cons, hbegins.notBlank]
        rfl
      rw [List.map_cons, List.cons_append, converse, hreading, answer_silent rfl]
      rw [if_neg (by simp), hfull]
      rw [← hc]
      rw [List.append_assoc, List.singleton_append] at hrest
      exact hrest

/-- The prompts before a conversation make no difference but to the prompts. -/
theorem answer_of_prompts (c : Conversation) (today : String) (elapsed : Binary64)
    (prompts : List String) (prompt other : String) (reading : Reading) :
    { c with prompts := prompts }.answer today elapsed prompt reading =
      { c.answer today elapsed other reading with prompts := prompts ++ [prompt] } := by
  unfold answer
  dsimp only
  split
  · rfl
  · rfl

/-- The line that ends a conversation does nothing else. -/
theorem answer_exit (hc : c.fault = none) (prompt : String) :
    c.answer today elapsed prompt .exit = { c with prompts := c.prompts ++ [prompt] } := by
  rw [answer, Workspace.perform]
  simp [Except.bind, Directory.show, Shown.print, Except.map, writtenLines, hc]

end Following

end Conversation

section Turning

variable {lines : List String} {turn : Turn}

theorem turnPrompts_concat (hlines : Unfinished lines) :
    turnPrompts lines.length ++ [promptText (fullLines lines)] =
      turnPrompts (lines.length + 1) := by
  cases lines with
  | nil => rfl
  | cons line lines =>
      rw [promptText_of_ne_nil (hlines.fullLines_ne_nil (List.cons_ne_nil _ _)), List.length_cons,
        turnPrompts, turnPrompts, List.replicate_succ', List.cons_append]

/-- A turn is over with its last input, and not before. -/
theorem Turn.WellFormed.exists_input (h : turn.WellFormed) :
    ∃ lines input, Unfinished lines ∧ turn.typed = lines.map .line ++ [input] ∧
      Reading.of (fullLines lines) input = turn.reading ∧ turn.reading ≠ .exit ∧
      turn.reading.pendingAfter (fullLines lines) = [] := by
  cases h with
  | @statement lines last hlines hbegins hlast =>
      refine ⟨lines, .line last, hlines, List.map_append, ?_, Reading.noConfusion, rfl⟩
      have hopen : fullLines lines ≠ [] ∨ BeginsStatement last := by
        by_cases hne : lines = []
        · exact .inr (hbegins hne)
        · exact .inl (hlines.fullLines_ne_nil hne)
      rw [reading_of_line hopen, isBlankLine_of_completes hlast, hlast,
        if_neg Bool.false_ne_true, if_pos rfl, Turn.reading, fullLines_concat_of_completes hlast]
  | @dropped lines hlines => exact ⟨lines, .interrupt, hlines, rfl, rfl, Reading.noConfusion, rfl⟩
  | @shortcut line hshortcut hexit =>
      refine ⟨[], .line line, .nil, rfl, ?_, Reading.noConfusion, rfl⟩
      rw [Reading.of, hexit, hshortcut]
      rfl
  | @blank line hblank =>
      refine ⟨[], .line line, .nil, rfl, ?_, Reading.noConfusion, rfl⟩
      have hnone : Text.strip line = "" := String.isEmpty_iff.mp hblank
      rw [Reading.of, isExitLine, isShortcutLine, hnone]
      rfl

end Turning

section Unique

variable {turn turn' : Turn} {closing closing' : Closing} {rest rest' : List Typed}

/-- The lines of a statement that is being typed have been typed, or nothing has. -/
def LeavesOpen (typed : List Typed) : Prop := ∃ lines, Unfinished lines ∧ typed = lines.map .line

theorem LeavesOpen.of_front {front typed : List Typed} (h : LeavesOpen typed)
    (hfront : front <+: typed) : LeavesOpen front := by
  obtain ⟨lines, hlines, rfl⟩ := h
  obtain ⟨kept, hkept, rfl⟩ := List.prefix_map_iff.mp hfront
  obtain ⟨dropped, rfl⟩ := hkept
  refine ⟨kept, ⟨fun line hline => hlines.begins line ?_, fun line hline => ?_⟩, rfl⟩
  · rw [List.head?_append, hline]
    rfl
  · exact hlines.goesOn line (List.mem_append_left _ hline)

theorem map_line_injective : Function.Injective (List.map Typed.line) :=
  List.map_injective_iff.mpr fun _ _ h => Typed.line.inj h

theorem Turn.WellFormed.not_leavesOpen (h : turn.WellFormed) : ¬ LeavesOpen turn.typed := by
  rintro ⟨kept, hkept, htyped⟩
  cases h with
  | @statement lines last hlines hbegins hlast =>
      rw [← map_line_injective htyped] at hkept
      have hgoesOn := hkept.goesOn last (List.mem_append_right _ List.mem_cons_self)
      rw [hlast] at hgoesOn
      cases hgoesOn
  | @dropped lines hlines =>
      have hmem : Typed.interrupt ∈ kept.map .line := by
        rw [← htyped]
        exact List.mem_append_right _ List.mem_cons_self
      obtain ⟨_, -, hline⟩ := List.mem_map.mp hmem
      cases hline
  | @shortcut line hshortcut hexit =>
      have hline : [line] = kept := map_line_injective htyped
      rw [← hline] at hkept
      have hnot := (hkept.begins line rfl).notShortcut
      rw [hshortcut] at hnot
      cases hnot
  | @blank line hblank =>
      have hline : [line] = kept := map_line_injective htyped
      rw [← hline] at hkept
      have hnot := (hkept.begins line rfl).notBlank
      rw [hblank] at hnot
      cases hnot

/-- Before its last input a turn leaves a statement open. -/
theorem Turn.WellFormed.front_eq (h : turn.WellFormed) {front : List Typed}
    (hfront : front <+: turn.typed) (hclosed : ¬ LeavesOpen front) : front = turn.typed := by
  obtain ⟨lines, input, hlines, htyped, -⟩ := h.exists_input
  rw [htyped] at hfront ⊢
  refine (List.prefix_concat_iff.mp hfront).resolve_right fun hopen => ?_
  exact hclosed (LeavesOpen.of_front ⟨lines, hlines, rfl⟩ hopen)

/-- What is typed in a turn tells which turn it is. -/
theorem Turn.WellFormed.eq_of_typed (h : turn.WellFormed) (h' : turn'.WellFormed)
    (htyped : turn.typed = turn'.typed) : turn = turn' := by
  obtain ⟨lines, input, -, hlines, hreading, -⟩ := h.exists_input
  obtain ⟨lines', input', -, hlines', hreading', -⟩ := h'.exists_input
  have hinputs := htyped
  rw [hlines, hlines'] at hinputs
  obtain ⟨hfront, hlast⟩ := List.append_inj' hinputs rfl
  have hsame : turn.reading = turn'.reading := by
    rw [← hreading, ← hreading', List.singleton_inj.mp hlast, map_line_injective hfront]
  -- turns of two kinds do not mean the same
  cases h with
  | @statement lines last hlines hbegins hlast =>
      cases h' with
      | @statement lines' last' =>
          obtain ⟨rfl, hlasts⟩ := List.append_inj' (map_line_injective htyped) rfl
          rw [List.singleton_inj.mp hlasts]
      | dropped | shortcut | blank => cases hsame
  | @dropped lines hlines =>
      cases h' with
      | @dropped lines' =>
          rw [map_line_injective (List.append_cancel_right htyped)]
      | statement | shortcut | blank => cases hsame
  | @shortcut line hshortcut hexit =>
      cases h' with
      | @shortcut line' => rw [Reading.shortcut.inj hsame]
      | statement | dropped | blank => cases hsame
  | @blank line hblank =>
      cases h' with
      | @blank line' => rw [List.singleton_inj.mp (map_line_injective htyped)]
      | statement | dropped | shortcut => cases hsame

/-- The first of the turns is told by what is typed. -/
theorem Turn.WellFormed.append_inj (h : turn.WellFormed) (h' : turn'.WellFormed)
    (htyped : turn.typed ++ rest = turn'.typed ++ rest') : turn = turn' ∧ rest = rest' := by
  have hfronts : turn.typed = turn'.typed := by
    rcases List.prefix_or_prefix_of_prefix ⟨rest, htyped⟩ ⟨rest', rfl⟩ with hfront | hfront
    · exact h'.front_eq hfront h.not_leavesOpen
    · exact (h.front_eq hfront h'.not_leavesOpen).symm
  obtain rfl := h.eq_of_typed h' hfronts
  exact ⟨rfl, List.append_cancel_left htyped⟩

/-- What is typed at the end does not begin with a turn. -/
theorem Closing.WellFormed.ne_append (h : closing.WellFormed) (hturn : turn.WellFormed) :
    closing.typed ≠ turn.typed ++ rest := by
  intro htyped
  cases h with
  | @exit line unread hexit =>
      obtain ⟨lines, input, hlines, hinputs, hreading, hgoes, -⟩ := hturn.exists_input
      rw [hinputs, List.append_assoc] at htyped
      cases lines with
      | nil =>
          obtain ⟨rfl, -⟩ := List.cons_eq_cons.mp htyped
          rw [← hreading, Reading.of, hexit] at hgoes
          exact hgoes rfl
      | cons first lines =>
          obtain ⟨hfirst, -⟩ := List.cons_eq_cons.mp htyped
          have hnot := (hlines.begins first rfl).notExit
          rw [← Typed.line.inj hfirst, hexit] at hnot
          cases hnot
  | @inputs lines hlines =>
      exact hturn.not_leavesOpen (LeavesOpen.of_front ⟨lines, hlines, htyped.symm⟩ ⟨rest, rfl⟩)

theorem Closing.WellFormed.eq_of_typed (h : closing.WellFormed) (h' : closing'.WellFormed)
    (htyped : closing.typed = closing'.typed) : closing = closing' := by
  have hdiffer {line : String} {unread : List Typed} {lines : List String}
      (hexit : isExitLine line = true) (hlines : Unfinished lines) :
      Typed.line line :: unread ≠ lines.map .line := by
    intro heq
    obtain ⟨first, later, rfl⟩ := List.exists_cons_of_ne_nil (l := lines) (by
      rintro rfl
      cases heq)
    have hnot := (hlines.begins first rfl).notExit
    rw [← Typed.line.inj (List.cons_eq_cons.mp heq).1, hexit] at hnot
    cases hnot
  cases h with
  | @exit line unread hexit =>
      cases h' with
      | @exit line' unread' =>
          obtain ⟨hline, hunread⟩ := List.cons_eq_cons.mp htyped
          rw [Typed.line.inj hline, hunread]
      | @inputs lines hlines => exact absurd htyped (hdiffer hexit hlines)
  | @inputs lines hlines =>
      cases h' with
      | @exit line' unread' hexit => exact absurd htyped.symm (hdiffer hexit hlines)
      | @inputs lines' => rw [map_line_injective htyped]

/-- There is one way to split what was typed. -/
theorem Splits.eq {typed : List Typed} {turns turns' : List Turn}
    (h : Splits typed turns closing) (h' : Splits typed turns' closing') :
    turns = turns' ∧ closing = closing' := by
  have htyped := h.typed_eq.symm.trans h'.typed_eq
  obtain ⟨hturns, hclosing⟩ := And.intro h.turns h.closing
  obtain ⟨hturns', hclosing'⟩ := And.intro h'.turns h'.closing
  clear h h'
  induction turns generalizing turns' with
  | nil =>
      cases turns' with
      | nil => exact ⟨rfl, hclosing.eq_of_typed hclosing' htyped⟩
      | cons turn' turns' =>
          rw [List.flatMap_nil, List.flatMap_cons, List.append_assoc] at htyped
          exact absurd htyped (hclosing.ne_append (hturns' turn' List.mem_cons_self))
  | cons turn turns ih =>
      obtain ⟨hturn, hlater⟩ := List.forall_mem_cons.mp hturns
      cases turns' with
      | nil =>
          rw [List.flatMap_nil, List.flatMap_cons, List.append_assoc] at htyped
          exact absurd htyped.symm (hclosing'.ne_append hturn)
      | cons turn' turns' =>
          obtain ⟨hturn', hlater'⟩ := List.forall_mem_cons.mp hturns'
          rw [List.flatMap_cons, List.flatMap_cons, List.append_assoc, List.append_assoc] at htyped
          obtain ⟨rfl, hrest⟩ := hturn.append_inj hturn' htyped
          obtain ⟨rfl, rfl⟩ := ih hrest hlater hlater'
          exact ⟨rfl, rfl⟩

end Unique

namespace Conversation

section Following

variable {c : Conversation} {today : String} {elapsed : Binary64} {turn : Turn}

theorem converse_turn (rest : List Typed) (hc : c.fault = none) (hturn : turn.WellFormed) :
    c.converse today elapsed [] (turn.typed ++ rest) =
      if (c.follow today elapsed turn).fault = none then
        (c.follow today elapsed turn).converse today elapsed [] rest
      else c.follow today elapsed turn := by
  obtain ⟨lines, input, hlines, htyped, hreading, hexit, hafter⟩ := hturn.exists_input
  have hfollow : { c with prompts := c.prompts ++ turnPrompts lines.length }.answer today elapsed
      (promptText (fullLines lines)) turn.reading = c.follow today elapsed turn := by
    rw [answer_of_prompts c today elapsed _ _ "" _, List.append_assoc, turnPrompts_concat hlines,
      follow, htyped, List.length_append, List.length_map, List.length_singleton]
  rw [htyped, List.append_assoc, converse_unfinished _ _ _ hc hlines, List.singleton_append, converse,
    hreading, hfollow, hafter]
  cases hfault : (c.follow today elapsed turn).fault with
  | none => rw [if_neg (by simpa using hexit), if_pos rfl]
  | some fault => rw [if_pos (by simp), if_neg (Option.some_ne_none fault)]

theorem converse_closing {closing : Closing} (hc : c.fault = none)
    (hclosing : closing.WellFormed) :
    c.converse today elapsed [] closing.typed = c.close closing := by
  cases hclosing with
  | @exit line unread hexit =>
      have hreading : Reading.of [] (.line line) = .exit := by
        rw [Reading.of, hexit]
        rfl
      rw [Closing.typed, converse, hreading, answer_exit hc, if_pos (by simp), close,
        Closing.shown, List.append_nil]
      rfl
  | @inputs lines hlines =>
      have hopen := converse_unfinished today elapsed [] hc hlines
      rw [List.append_nil] at hopen
      rw [Closing.typed, hopen, converse, List.append_assoc, turnPrompts_concat hlines]
      rfl

/-- A conversation that is not broken off follows its turns up to its closing. -/
theorem converse_turns {turns : List Turn} {closing : Closing} {typed : List Typed}
    (hc : c.fault = none) (hsplits : Splits typed turns closing)
    (h : (c.converse today elapsed [] typed).fault = none) :
    c.converse today elapsed [] typed =
      (turns.foldl (follow today elapsed) c).close closing := by
  obtain ⟨rfl, hturns, hclosing⟩ := hsplits
  induction turns generalizing c with
  | nil =>
      rw [List.flatMap_nil, List.nil_append, List.foldl_nil]
      exact converse_closing hc hclosing
  | cons turn turns ih =>
      obtain ⟨hturn, hlater⟩ := List.forall_mem_cons.mp hturns
      rw [List.flatMap_cons, List.append_assoc, converse_turn _ hc hturn] at h ⊢
      split at h
      · rename_i hfollow
        rw [if_pos hfollow, List.foldl_cons]
        exact ih hfollow hlater h
      · rename_i hbroken
        exact absurd h hbroken

/-- The prompts of a conversation are those of its turns. -/
theorem prompts_follow (today : String) (elapsed : Binary64) (c : Conversation)
    (turns : List Turn) :
    (turns.foldl (follow today elapsed) c).prompts =
      c.prompts ++ turns.flatMap fun turn => turnPrompts turn.typed.length := by
  induction turns generalizing c with
  | nil => rw [List.foldl_nil, List.flatMap_nil, List.append_nil]
  | cons turn turns ih => rw [List.foldl_cons, ih, List.flatMap_cons, ← List.append_assoc, follow]

end Following

/-- What is typed in a conversation that nothing breaks off is split in one way into turns and a
closing. Each of them is prompted for as such, and the conversation comes out as if the statements,
the shortcuts and the interrupts of the turns had been read and nothing else. Into a statement that
is being typed every line goes that is not blank. -/
theorem converse_splits (w : Workspace) (d : Directory) (today : String) (elapsed : Binary64)
    (typed : List Typed) (h : ((start w d).converse today elapsed [] typed).fault = none) :
    (∃ turns closing, Splits typed turns closing ∧
      (∀ others other, Splits typed others other → others = turns ∧ other = closing) ∧
      (start w d).converse today elapsed [] typed =
        (turns.foldl (follow today elapsed) (start w d)).close closing ∧
      ((start w d).converse today elapsed [] typed).prompts =
        (turns.flatMap fun turn => turnPrompts turn.typed.length) ++
          turnPrompts closing.requests) ∧
    ∀ pending line, pending ≠ [] → isBlankLine line = false →
      Reading.of pending (.line line) = .unfinished line ∨
        Reading.of pending (.line line) = .statement ("\n".intercalate (pending ++ [line])) := by
  constructor
  · obtain ⟨turns, closing, hsplits⟩ := Unfinished.nil.exists_splits typed
    rw [List.map_nil, List.nil_append] at hsplits
    have hfollows := converse_turns rfl hsplits h
    refine ⟨turns, closing, hsplits, fun _ _ hother => hother.eq hsplits, hfollows, ?_⟩
    rw [hfollows, close, prompts_follow, start, List.nil_append]
  · intro pending line hne hblank
    rw [reading_of_line (.inl hne), hblank, if_neg Bool.false_ne_true]
    cases completesStatement line with
    | true => exact .inr rfl
    | false => exact .inl rfl

/-- A line that looks like a shortcut goes into the statement that is being typed, and the
interrupt drops both. -/
theorem converse_splits_interrupted :
    let typed : List Typed := [.line "SELECT *", .line ".schema", .interrupt, .line " ",
      .line ";", .line "exit", .line "SELECT"]
    let held := (start (Workspace.start .default) .empty).converse "2024-01-01" .zero [] typed
    held.fault = none ∧ held.prompts =
      ["query> ", "...> ", "...> ", "query> ", "query> ", "query> "] := by
  intro typed held
  have hfault : held.fault = none := by decide +kernel
  obtain ⟨⟨turns, closing, -, hunique, -, hprompts⟩, -⟩ :=
    converse_splits (Workspace.start .default) .empty "2024-01-01" .zero typed hfault
  have hsplits : Splits typed
      [.dropped ["SELECT *", ".schema"], .blank " ", .statement [] ";"]
      (.exit "exit" [.line "SELECT"]) := by
    refine ⟨rfl, ?_, .exit (by decide +kernel)⟩
    simp only [List.forall_mem_cons]
    refine ⟨.dropped ⟨?_, by decide +kernel⟩, .blank (by decide +kernel), .statement .nil ?_ ?_, ?_⟩
    · intro line hline
      rw [← Option.some.inj hline]
      decide +kernel
    · exact fun _ => by decide +kernel
    · decide +kernel
    · exact fun _ hturn => absurd hturn List.not_mem_nil
  obtain ⟨rfl, rfl⟩ := hunique _ _ hsplits
  exact ⟨hfault, hprompts⟩

end Conversation

end JsonQuery
