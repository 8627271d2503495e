import JsonQuery.Proofs.Table.Printing

/-!
Line breaks and widths in what is printed. The text of a value is folded to one line before it is
cut, so rules and the lines of rows never break. The names of columns are not folded: the header
breaks exactly if one of them does. A text is cut to the greatest width if that leaves room for
three points, and a null is never cut.
-/

namespace JsonQuery

open Outcome

namespace Text

/-- No character of a text ends a line. -/
def Unbroken (cs : List Char) : Prop := ∀ c ∈ cs, isLineBreak c = false

instance (cs : List Char) : Decidable (Unbroken cs) :=
  inferInstanceAs (Decidable (∀ c ∈ cs, isLineBreak c = false))

/-- A text is one line, as the splitting of a text into lines sees it. -/
def IsOneLine (text : String) : Prop := splitLines text.toList = [text.toList]

instance (text : String) : Decidable (IsOneLine text) :=
  inferInstanceAs (Decidable (splitLines text.toList = [text.toList]))

section Unbroken

variable {cs ds : List Char}

theorem unbroken_append_iff : Unbroken (cs ++ ds) ↔ Unbroken cs ∧ Unbroken ds :=
  List.forall_mem_append

theorem unbroken_replicate {c : Char} (n : Nat) (h : isLineBreak c = false) :
    Unbroken (List.replicate n c) := by
  intro d hd
  rw [List.eq_of_mem_replicate hd]
  exact h

/-- Joined texts break exactly if one of them does. -/
theorem unbroken_intercalate_iff (h : Unbroken cs) {parts : List (List Char)} :
    Unbroken (cs.intercalate parts) ↔ ∀ part ∈ parts, Unbroken part := by
  induction parts with
  | nil => exact iff_of_true nofun nofun
  | cons part parts ih =>
      cases parts with
      | nil => simp
      | cons next parts =>
          rw [List.intercalate_cons_cons, unbroken_append_iff, unbroken_append_iff, ih,
            List.forall_mem_cons (l := next :: parts), and_iff_left h]

theorem unbroken_of_mem_go {line : List Char} (hline : Unbroken line.reverse) :
    ∀ part ∈ splitLines.go line cs, Unbroken part := by
  have hnil : Unbroken [] := nofun
  fun_induction splitLines.go line cs with
  | case1 line hempty => exact nofun
  | case2 line hne => exact List.forall_mem_singleton.mpr hline
  | case3 line rest ih => exact List.forall_mem_cons.mpr ⟨hline, ih hnil⟩
  | case4 line c rest _ hbreak ih => exact List.forall_mem_cons.mpr ⟨hline, ih hnil⟩
  | case5 line c rest _ hplain ih =>
      refine ih ?_
      rw [List.reverse_cons]
      exact unbroken_append_iff.mpr
        ⟨hline, List.forall_mem_singleton.mpr (Bool.eq_false_iff.mpr hplain)⟩

/-- The lines of a text have no line breaks of their own. -/
theorem unbroken_of_mem_splitLines : ∀ part ∈ splitLines cs, Unbroken part := by
  have hnil : Unbroken ([] : List Char).reverse := nofun
  exact unbroken_of_mem_go hnil

/-- A text without line breaks is the end of the line that has begun before it. -/
theorem go_of_unbroken (line : List Char) (h : Unbroken cs) (hne : line.reverse ++ cs ≠ []) :
    splitLines.go line cs = [line.reverse ++ cs] := by
  fun_induction splitLines.go line cs with
  | case1 line hempty =>
      rw [List.isEmpty_iff] at hempty
      exact absurd (by rw [hempty]; rfl) hne
  | case2 line _ => rw [List.append_nil]
  | case3 line rest _ => exact absurd (h '\r' List.mem_cons_self) (by decide)
  | case4 line c rest _ hbreak _ =>
      rw [h c List.mem_cons_self] at hbreak
      cases hbreak
  | case5 line c rest _ _ ih =>
      rw [ih (List.forall_mem_cons.mp h).2 (by simp), List.reverse_cons, List.append_assoc,
        List.singleton_append]

/-- A text is one line if it is not empty and no character of it ends a line. -/
theorem isOneLine_iff {text : String} :
    IsOneLine text ↔ text.toList ≠ [] ∧ Unbroken text.toList := by
  constructor
  · intro h
    have hmem : text.toList ∈ splitLines text.toList := by
      rw [h]
      exact List.mem_singleton_self _
    refine ⟨fun hempty => ?_, unbroken_of_mem_splitLines _ hmem⟩
    rw [hempty] at hmem
    cases hmem
  · rintro ⟨hne, hunbroken⟩
    exact go_of_unbroken [] hunbroken hne

end Unbroken

end Text

section Cells

variable {maxWidth : Int} {v : Value} {text : List Char}

/-- The text of a value on one line, a space standing for each line break. -/
def Value.folded (v : Value) : List Char :=
  [' '].intercalate (Text.splitLines v.plainText.toList)

/-- A cell is not wider than allowed: a null is four letters wide, and another value is cut if
three points may stand in its place. -/
def Value.FitsIn (maxWidth : Int) (v : Value) : Prop :=
  if v.isNull then 4 ≤ maxWidth else 3 ≤ maxWidth ∨ v.folded.length ≤ maxWidth

theorem Value.fitsIn_of_le (h : 4 ≤ maxWidth) (v : Value) : v.FitsIn maxWidth := by
  unfold FitsIn
  split
  · exact h
  · exact .inl (by omega)

theorem Value.unbroken_folded (v : Value) : Text.Unbroken v.folded :=
  (Text.unbroken_intercalate_iff (by decide)).mpr Text.unbroken_of_mem_splitLines

/-- The text of a cell is a null, a value on one line, or a piece of such with three points. -/
theorem cellText_cases (h : cellText maxWidth v = .ok text) :
    (v.isNull = true ∧ text = "NULL".toList) ∨
    (v.isNull = false ∧ v.folded.length ≤ maxWidth ∧ text = v.folded) ∨
    (v.isNull = false ∧ maxWidth < v.folded.length ∧ text = v.folded.take (if 3 ≤ maxWidth then
      maxWidth - 3 else v.folded.length + (maxWidth - 3)).toNat ++ ['.', '.', '.']) := by
  unfold cellText at h
  split at h
  · rename_i hnull
    exact .inl ⟨hnull, (pure_eq_ok.mp h).symm⟩
  · rename_i hgiven
    obtain ⟨s, hs, htext⟩ := bind_eq_ok.mp h
    obtain rfl : v.plainText = s := by
      unfold Value.text at hs
      split at hs
      · exact pure_eq_ok.mp hs
      · cases hs
    replace htext : (if maxWidth < v.folded.length then _ else _) = _ := htext
    split at htext
    · rename_i hwide
      exact .inr (.inr ⟨Bool.eq_false_iff.mpr hgiven, hwide, (pure_eq_ok.mp htext).symm⟩)
    · rename_i hnarrow
      exact .inr (.inl
        ⟨Bool.eq_false_iff.mpr hgiven, not_lt.mp hnarrow, (pure_eq_ok.mp htext).symm⟩)

theorem unbroken_cellText (h : cellText maxWidth v = .ok text) : Text.Unbroken text := by
  rcases cellText_cases h with ⟨-, rfl⟩ | ⟨-, -, rfl⟩ | ⟨-, -, rfl⟩
  · decide
  · exact v.unbroken_folded
  · refine Text.unbroken_append_iff.mpr ⟨fun c hc => ?_, ?_⟩
    · exact v.unbroken_folded c (List.mem_of_mem_take hc)
    · decide

/-- Which texts are not wider than allowed. -/
theorem length_cellText_le_iff (h : cellText maxWidth v = .ok text) :
    text.length ≤ maxWidth ↔ v.FitsIn maxWidth := by
  rcases cellText_cases h with ⟨hnull, rfl⟩ | ⟨hgiven, hnarrow, rfl⟩ | ⟨hgiven, hwide, rfl⟩
  · rw [Value.FitsIn, if_pos hnull]
    rfl
  · rw [Value.FitsIn, hgiven]
    exact iff_of_true hnarrow (.inr hnarrow)
  · rw [Value.FitsIn, hgiven, List.length_append, List.length_take]
    -- Without room for the points, what is kept is counted from the end of the text.
    by_cases hpoints : 3 ≤ maxWidth
    · refine iff_of_true ?_ (.inl hpoints)
      simp only [if_pos hpoints, List.length_cons, List.length_nil]
      omega
    · refine iff_of_false ?_ (not_or.mpr ⟨hpoints, not_le.mpr hwide⟩)
      simp only [if_neg hpoints, List.length_cons, List.length_nil]
      omega

end Cells

section Lines

variable {maxWidth : Int} {elapsed : Binary64} {rows : List Record} {warnings lines : List String}
  {t : Table}

theorem isOneLine_cellLine_iff {cells : List (List Char)} :
    Text.IsOneLine (String.ofList (cellLine cells)) ↔ ∀ cell ∈ cells, Text.Unbroken cell := by
  have hside : Text.Unbroken [' ', '|', ' '] := by decide
  have hfront : Text.Unbroken ['|', ' '] := by decide
  have hback : Text.Unbroken [' ', '|'] := by decide
  rw [Text.isOneLine_iff, String.toList_ofList, cellLine, Text.unbroken_append_iff,
    Text.unbroken_append_iff, Text.unbroken_intercalate_iff hside]
  simp [hfront, hback]

theorem Table.isOneLine_rule (maxWidth : Int) (t : Table) : Text.IsOneLine (t.rule maxWidth) := by
  have hpost : Text.Unbroken ['+'] := by decide
  have hdashes : Text.Unbroken (['+'].intercalate ((t.map (TableColumn.shown maxWidth)).map
      fun c => List.replicate (c.width + 2) '-')) := by
    rw [Text.unbroken_intercalate_iff hpost]
    intro field hfield
    obtain ⟨c, -, rfl⟩ := List.mem_map.mp hfield
    exact Text.unbroken_replicate _ (by decide)
  rw [Text.isOneLine_iff, rule, String.toList_ofList, ruleLine]
  refine ⟨List.append_ne_nil_of_right_ne_nil _ (List.cons_ne_nil _ _), ?_⟩
  exact Text.unbroken_append_iff.mpr ⟨List.forall_mem_cons.mpr ⟨by decide, hdashes⟩, hpost⟩

theorem Table.isOneLine_header_iff (maxWidth : Int) (t : Table) :
    Text.IsOneLine (t.header maxWidth) ↔
      ∀ name ∈ t.map TableColumn.name, Text.Unbroken name.toList := by
  rw [header, isOneLine_cellLine_iff, headerCells, List.forall_mem_map, List.forall_mem_map]
  refine forall₂_congr fun column _ => ?_
  rw [Text.padRight, Text.unbroken_append_iff]
  exact and_iff_left (Text.unbroken_replicate _ (by decide))

/-- A cell of a line is a text with spaces on its sides. -/
theorem CellType.fill_eq (type : CellType) (width : Nat) (text : List Char) :
    ∃ before behind, type.fill width text =
      List.replicate before ' ' ++ text ++ List.replicate behind ' ' := by
  cases type with
  | int64 | double => exact ⟨width - text.length, 0, (List.append_nil _).symm⟩
  | bool | string => exact ⟨0, width - text.length, rfl⟩

/-- A line shows the values of a row of a table: each cell is the text of a value with spaces on
its sides, and which texts are not wider than allowed is told by the values. -/
def ShowsValues (maxWidth : Int) (values : List Value) (line : String) : Prop :=
  ∃ cells, line = String.ofList (cellLine cells) ∧
    List.Forall₂ (fun v cell => ∃ text before behind, cellText maxWidth v = .ok text ∧
      cell = List.replicate before ' ' ++ text ++ List.replicate behind ' ' ∧
      (text.length ≤ maxWidth ↔ v.FitsIn maxWidth)) values cells

theorem ShowsValues.isOneLine {values : List Value} {line : String}
    (h : ShowsValues maxWidth values line) : Text.IsOneLine line := by
  obtain ⟨cells, rfl, hcells⟩ := h
  refine isOneLine_cellLine_iff.mpr fun cell hcell => ?_
  obtain ⟨v, -, text, before, behind, htext, rfl, -⟩ := exists_of_forall₂ hcells hcell
  have hspaces (n : Nat) : Text.Unbroken (List.replicate n ' ') :=
    Text.unbroken_replicate n (by decide)
  exact Text.unbroken_append_iff.mpr
    ⟨Text.unbroken_append_iff.mpr ⟨hspaces before, unbroken_cellText htext⟩, hspaces behind⟩

theorem Table.showsValues_bodyCells (ht : ofRows rows = .ok t) (hcells : t.IsPrintable maxWidth)
    {i : Nat} (hi : i < t.height) :
    ShowsValues maxWidth (t.map fun column => column.cells.getD i .null)
      (String.ofList (cellLine (t.bodyCells maxWidth i))) := by
  refine ⟨_, rfl, forall₂_map_map fun column hcolumn => ?_⟩
  have hi' : i < column.cells.length := by
    rwa [length_cells ht hcolumn, ← height_eq ht (List.ne_nil_of_mem hcolumn)]
  have htext := cellText_shown (hcells column hcolumn _ (List.getElem_mem hi'))
  obtain ⟨before, behind, hfill⟩ := column.type.fill_eq (column.printedWidth maxWidth)
    (column.cells[i].shown maxWidth)
  have hcell : column.cells.getD i .null = column.cells[i] := by simp [hi']
  rw [column.getD_texts hi', hcell]
  exact ⟨_, before, behind, htext, hfill, length_cellText_le_iff htext⟩

/-- Of the lines of a table only the header can break, and it does exactly if the name of a column
has a line break in it: rules and the lines of rows are one line each. The texts in them are not
wider than allowed if four characters are, and otherwise exactly if they are no nulls and need not
be cut, or three characters are allowed. -/
theorem printRows_one_line (h : printRows maxWidth elapsed rows warnings = .ok lines) :
    ∃ t rule header body, Table.ofRows rows = .ok t ∧
      t.map TableColumn.name = columnNames rows ∧
      lines = [rule, header, rule] ++ body ++ [rule, countLine rows.length elapsed] ++
        warnings.map ("warning: " ++ ·) ∧
      Text.IsOneLine rule ∧ (∀ line ∈ body, Text.IsOneLine line) ∧
      (Text.IsOneLine header ↔ ∀ name ∈ columnNames rows, Text.Unbroken name.toList) ∧
      List.Forall₂ (ShowsValues maxWidth) t.rows body ∧
      (4 ≤ maxWidth → ∀ values ∈ t.rows, ∀ v ∈ values, v.FitsIn maxWidth) := by
  obtain ⟨t, ht, hcells, rfl⟩ := exists_of_printRows h
  obtain ⟨hnames, -⟩ := Table.ofRows_holds ht
  have hbody : List.Forall₂ (ShowsValues maxWidth) t.rows (t.body maxWidth) :=
    forall₂_map_map fun i hi => Table.showsValues_bodyCells ht hcells (List.mem_range.mp hi)
  refine ⟨t, _, _, _, ht, hnames, rfl, t.isOneLine_rule maxWidth, fun line hline => ?_, ?_, hbody,
    fun hwide _ _ v _ => v.fitsIn_of_le hwide⟩
  · obtain ⟨values, -, hvalues⟩ := exists_of_forall₂ hbody hline
    exact hvalues.isOneLine
  · rw [← hnames]
    exact t.isOneLine_header_iff maxWidth

/-- A text of three lines is folded and cut, and a null stands beside it. -/
theorem printRows_one_line_folded :
    let rows : List Record := [[("t", .string "quia et\r\nsuscipit\u2028recusandae"), ("n", .null)]]
    let header := "| t          | n    |"
    let line := "| quia et... | NULL |"
    (∃ lines, printRows 10 (.finite false 0) rows [] = .ok lines ∧ header ∈ lines ∧ line ∈ lines) ∧
      (Text.IsOneLine header ↔ ∀ name ∈ columnNames rows, Text.Unbroken name.toList) ∧
      Text.IsOneLine line ∧ ∃ t, Table.ofRows rows = .ok t ∧
        List.Forall₂ (ShowsValues 10) t.rows [line] := by
  intro rows header line
  have hprinted : (printRows 10 (.finite false 0) rows []).toOption = some
      ["+------------+------+", header, "+------------+------+", line, "+------------+------+",
        "1 row in 0.00 ms"] := by
    decide +kernel
  have hlines := toOption_eq_some.mp hprinted
  refine ⟨⟨_, hlines, by simp, by simp⟩, ?_⟩
  obtain ⟨t, rule, header', body, ht, -, hlines, -, hbody, hheader, hvalues, -⟩ :=
    printRows_one_line hlines
  have hheight : (Table.ofRows rows).toOption.map Table.height = some 1 := by
    decide +kernel
  rw [ht] at hheight
  have hheight : t.height = 1 := Option.some.inj hheight
  have hlength : body.length = 1 := by simp [← hvalues.length_eq, Table.rows, hheight]
  obtain ⟨only, rfl⟩ := List.length_eq_one_iff.mp hlength
  obtain ⟨-, rfl, -, rfl, -⟩ : _ ∧ header = header' ∧ _ ∧ line = only ∧ _ := by
    simpa using hlines
  exact ⟨hheader, hbody _ (List.mem_singleton_self _), t, ht, hvalues⟩

/-- A name with a line break in it breaks the header. Where no more than two characters are
allowed, a null has four, and a text of three characters becomes one of five. -/
theorem printRows_breaks :
    let header := "| a\nb |"
    let line := "| NULL | ab... |"
    printRows 40 (.finite false 0) [[("a\nb", .ofInt 1)]] [] = .ok
      ["+-----+", header, "+-----+", "|   1 |", "+-----+", "1 row in 0.00 ms"] ∧
    ¬ Text.IsOneLine header ∧
    printRows 2 (.finite false 0) [[("n", .null), ("s", .string "abc")]] [] = .ok
      ["+------+-------+", "| n    | s     |", "+------+-------+", line, "+------+-------+",
        "1 row in 0.00 ms"] := by
  intro header line
  refine ⟨toOption_eq_some.mp ?_, ?_, toOption_eq_some.mp ?_⟩ <;> decide +kernel

end Lines

end JsonQuery
