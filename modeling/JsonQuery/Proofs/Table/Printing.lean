import JsonQuery.Proofs.Table.Cells
import JsonQuery.Table.Printer

/-!
How a table is printed. A line consists of fields between posts, and a field is as wide as the
widest text of its column with a space on each side. So all lines of a table are equally long and
have their posts at the same places, however ragged the rows are. Behind the header there is one
line for each row, in the order of the rows.
-/

namespace JsonQuery

open Outcome

section Posts

variable {post : Char} {widths : List Nat} {fields : List (List Char)}

/-- Fields with a post before each and one behind the last. -/
def fenced (post : Char) (fields : List (List Char)) : List Char :=
  post :: fields.flatMap (· ++ [post])

/-- Where the posts stand if the fields are for texts of some widths, each with a space on both
sides. -/
def posts (widths : List Nat) : List Nat :=
  widths.scanl (fun place width => place + width + 3) 0

/-- A line that has posts of one kind around fields for texts of some widths. -/
structure Drawn (post : Char) (widths : List Nat) (line : String) : Prop where
  length : line.length = (widths.map (· + 3)).sum + 1
  posts : ∀ place ∈ posts widths, line.toList[place]? = some post

theorem fenced_cons (post : Char) (field : List Char) (fields : List (List Char)) :
    fenced post (field :: fields) = post :: field ++ fenced post fields := by
  simp [fenced]

/-- Cells that are joined with the same text around each post are fields between posts. -/
theorem fenced_sides (post : Char) (side : List Char) (cells : List (List Char))
    (hne : cells ≠ []) :
    post :: side ++ (side ++ post :: side).intercalate cells ++ (side ++ [post]) =
      fenced post (cells.map fun cell => side ++ cell ++ side) := by
  induction cells with
  | nil => exact absurd rfl hne
  | cons cell cells ih =>
      cases cells with
      | nil => simp [fenced]
      | cons next cells =>
          rw [List.map_cons, fenced_cons, ← ih (List.cons_ne_nil _ _), List.intercalate_cons_cons]
          simp

theorem length_fenced
    (h : List.Forall₂ (fun width field => List.length field = width + 2) widths fields) :
    (fenced post fields).length = (widths.map (· + 3)).sum + 1 := by
  induction h with
  | nil => rfl
  | cons hfield _ ih =>
      rw [fenced_cons, List.length_append, List.length_cons, hfield, ih, List.map_cons,
        List.sum_cons]
      omega

/-- There is a post at each place, counted from the front of what stands before the fields. -/
theorem getElem?_fenced
    (h : List.Forall₂ (fun width field => List.length field = width + 2) widths fields)
    (before : List Char) :
    ∀ place ∈ widths.scanl (fun place width => place + width + 3) before.length,
      (before ++ fenced post fields)[place]? = some post := by
  -- The fields that come first are counted to what stands before the rest.
  induction h generalizing before with
  | nil => simp [fenced]
  | @cons width field widths fields hfield _ ih =>
      intro place hplace
      rw [List.scanl_cons, List.mem_cons] at hplace
      rcases hplace with rfl | hlater
      · simp [fenced_cons]
      · have hlength : before.length + width + 3 = (before ++ post :: field).length := by
          rw [List.length_append, List.length_cons, hfield]
          omega
        rw [hlength] at hlater
        rw [fenced_cons, ← List.append_assoc]
        exact ih (before ++ post :: field) place hlater

theorem drawn_fenced
    (h : List.Forall₂ (fun width field => List.length field = width + 2) widths fields) :
    Drawn post widths (String.ofList (fenced post fields)) where
  length := by rw [String.length_ofList, length_fenced h]
  posts := by
    rw [String.toList_ofList]
    exact getElem?_fenced h []

end Posts

section Columns

variable {maxWidth : Int} {c : PrintedColumn}

theorem Text.length_padLeft {width : Nat} {cs : List Char} (fill : Char) (h : cs.length ≤ width) :
    (padLeft width fill cs).length = width := by
  rw [padLeft, List.length_append, List.length_replicate, Nat.sub_add_cancel h]

theorem Text.length_padRight {width : Nat} {cs : List Char} (h : cs.length ≤ width) :
    (padRight width cs).length = width := by
  rw [padRight, List.length_append, List.length_replicate, Nat.add_sub_cancel' h]

/-- A text filled up to a width with spaces: they stand before it in a column of numbers, and
behind it in any other. -/
def CellType.fill (type : CellType) (width : Nat) (text : List Char) : List Char :=
  match type with
  | .int64 | .double => List.replicate (width - text.length) ' ' ++ text
  | .bool | .string => text ++ List.replicate (width - text.length) ' '

theorem CellType.length_fill (type : CellType) {width : Nat} {text : List Char}
    (h : text.length ≤ width) : (type.fill width text).length = width := by
  cases type with
  | int64 | double => exact Text.length_padLeft ' ' h
  | bool | string => exact Text.length_padRight h

/-- A column is as wide as its name and its texts require. -/
theorem PrintedColumn.width_le_iff {n : Nat} :
    c.width ≤ n ↔ c.name.length ≤ n ∧ ∀ text ∈ c.texts, text.length ≤ n := by
  have hfold (texts : List (List Char)) (start : Nat) :
      texts.foldl (fun w text => max w text.length) start ≤ n ↔
        start ≤ n ∧ ∀ text ∈ texts, text.length ≤ n := by
    induction texts generalizing start with
    | nil => simp
    | cons text texts ih => rw [List.foldl_cons, ih, max_le_iff, List.forall_mem_cons, and_assoc]
  exact hfold c.texts c.name.length

/-- The text of a cell, empty if it has none. -/
def Value.shown (maxWidth : Int) (v : Value) : List Char := (cellText maxWidth v).toOption.getD []

/-- A column as it is printed if each of its cells has a text. -/
def TableColumn.shown (maxWidth : Int) (column : TableColumn) : PrintedColumn where
  name := column.name.toList
  texts := column.cells.map (Value.shown maxWidth)
  onRight := column.type.isNumeric

/-- The width of the widest text of a column, its name included. -/
def TableColumn.printedWidth (maxWidth : Int) (column : TableColumn) : Nat :=
  (column.shown maxWidth).width

theorem TableColumn.pad_shown (maxWidth : Int) (column : TableColumn) (text : List Char) :
    (column.shown maxWidth).pad text = column.type.fill (column.printedWidth maxWidth) text := by
  rw [PrintedColumn.pad, shown]
  cases column.type <;> rfl

theorem TableColumn.length_name_le (maxWidth : Int) (column : TableColumn) :
    column.name.toList.length ≤ column.printedWidth maxWidth :=
  (PrintedColumn.width_le_iff (c := column.shown maxWidth).mp le_rfl).1

theorem TableColumn.length_shown_le {column : TableColumn} {v : Value} (hv : v ∈ column.cells) :
    (v.shown maxWidth).length ≤ column.printedWidth maxWidth :=
  (PrintedColumn.width_le_iff (c := column.shown maxWidth).mp le_rfl).2 _ (List.mem_map_of_mem hv)

end Columns

section Lines

variable {maxWidth : Int} {elapsed : Binary64} {rows : List Record} {warnings lines : List String}
  {t : Table} {columns : List PrintedColumn}

theorem cellText_shown {v : Value} (h : ∃ text, cellText maxWidth v = .ok text) :
    cellText maxWidth v = .ok (v.shown maxWidth) := by
  obtain ⟨text, htext⟩ := h
  rw [Value.shown, htext]
  rfl

theorem texts_shown {values : List Value} {texts : List (List Char)}
    (h : values.mapM (cellText maxWidth) = .ok texts) :
    (∀ v ∈ values, ∃ text, cellText maxWidth v = .ok text) ∧
      texts = values.map (Value.shown maxWidth) := by
  have htexts := mapM_eq_ok.mp h
  clear h
  induction htexts with
  | nil => exact ⟨nofun, rfl⟩
  | @cons v text _ _ hv _ ih =>
      obtain ⟨hall, rfl⟩ := ih
      refine ⟨List.forall_mem_cons.mpr ⟨⟨text, hv⟩, hall⟩, ?_⟩
      rw [List.map_cons, Value.shown, hv]
      rfl

/-- Each cell of a table has a text. -/
def Table.IsPrintable (maxWidth : Int) (t : Table) : Prop :=
  ∀ column ∈ t, ∀ v ∈ column.cells, ∃ text, cellText maxWidth v = .ok text

/-- The columns that are printed are those of the table. -/
theorem Table.printed_shown (h : t.printed maxWidth = .ok columns) :
    t.IsPrintable maxWidth ∧ columns = t.map (TableColumn.shown maxWidth) := by
  have hcolumns := mapM_eq_ok.mp h
  clear h
  induction hcolumns with
  | nil => exact ⟨nofun, rfl⟩
  | cons hcolumn _ ih =>
      obtain ⟨hall, rfl⟩ := ih
      obtain ⟨texts, htexts, hc⟩ := bind_eq_ok.mp hcolumn
      obtain rfl := pure_eq_ok.mp hc
      obtain ⟨hcells, rfl⟩ := texts_shown htexts
      exact ⟨List.forall_mem_cons.mpr ⟨hcells, hall⟩, rfl⟩

/-- The cells of a header, the names being filled up behind them in every column. -/
def Table.headerCells (maxWidth : Int) (t : Table) : List (List Char) :=
  t.map fun column => Text.padRight (column.printedWidth maxWidth) column.name.toList

/-- The cells of a line, each filled up on the side that the type of its column tells. -/
def Table.bodyCells (maxWidth : Int) (t : Table) (i : Nat) : List (List Char) :=
  t.map fun column => column.type.fill (column.printedWidth maxWidth)
    ((column.shown maxWidth).texts.getD i [])

/-- The rule of a table. -/
def Table.rule (maxWidth : Int) (t : Table) : String :=
  String.ofList (ruleLine (t.map (TableColumn.shown maxWidth)))

/-- The header of a table. -/
def Table.header (maxWidth : Int) (t : Table) : String :=
  String.ofList (cellLine (t.headerCells maxWidth))

/-- The lines between the two lower rules of a table. -/
def Table.body (maxWidth : Int) (t : Table) : List String :=
  (List.range t.height).map fun i => String.ofList (cellLine (t.bodyCells maxWidth i))

/-- What is printed, if anything is, are the lines of the table, the number of rows and the
warnings. -/
theorem exists_of_printRows (h : printRows maxWidth elapsed rows warnings = .ok lines) :
    ∃ t, Table.ofRows rows = .ok t ∧ t.IsPrintable maxWidth ∧
      lines = [t.rule maxWidth, t.header maxWidth, t.rule maxWidth] ++ t.body maxWidth ++
        [t.rule maxWidth, countLine rows.length elapsed] ++ warnings.map ("warning: " ++ ·) := by
  obtain ⟨t, ht, hrest⟩ := bind_eq_ok.mp h
  obtain ⟨framed, hframed, hlines⟩ := bind_eq_ok.mp hrest
  obtain ⟨columns, hcolumns, hframe⟩ := bind_eq_ok.mp hframed
  obtain ⟨hcells, rfl⟩ := Table.printed_shown hcolumns
  obtain rfl := pure_eq_ok.mp hframe
  obtain rfl := pure_eq_ok.mp hlines
  have hheader : (t.map (TableColumn.shown maxWidth)).map (fun c => Text.padRight c.width c.name) =
      t.headerCells maxWidth := List.map_map
  have hbody (i : Nat) : (t.map (TableColumn.shown maxWidth)).map
      (fun c => c.pad (c.texts.getD i [])) = t.bodyCells maxWidth i := by
    rw [List.map_map]
    exact List.map_congr_left fun column _ => column.pad_shown maxWidth _
  refine ⟨t, ht, hcells, ?_⟩
  rw [hheader, funext fun i => congrArg cellLine (hbody i)]
  simp [Table.rule, Table.header, Table.body, Function.comp_def]

theorem TableColumn.getD_texts {column : TableColumn} {i : Nat} (hi : i < column.cells.length) :
    (column.shown maxWidth).texts.getD i [] = column.cells[i].shown maxWidth := by
  simp [TableColumn.shown, hi]

/-- A rule consists of dashes between posts. -/
theorem Table.rule_eq (maxWidth : Int) (hne : t ≠ []) :
    t.rule maxWidth = String.ofList (fenced '+'
      (t.map fun column => List.replicate (column.printedWidth maxWidth + 2) '-')) := by
  have hfields := fenced_sides '+' [] ((t.map (TableColumn.shown maxWidth)).map
    fun c => List.replicate (c.width + 2) '-') (by simpa using hne)
  refine congrArg String.ofList ?_
  simpa [ruleLine, Function.comp_def, TableColumn.printedWidth] using hfields

theorem Table.drawn_rule (maxWidth : Int) (hne : t ≠ []) :
    Drawn '+' (t.map (TableColumn.printedWidth maxWidth)) (t.rule maxWidth) := by
  rw [rule_eq maxWidth hne]
  exact drawn_fenced (forall₂_map_map fun column _ => List.length_replicate)

/-- Cells that are as wide as their columns make a line with posts between them. -/
theorem drawn_cellLine {widths : List Nat} {cells : List (List Char)} (hne : cells ≠ [])
    (h : List.Forall₂ (fun width cell => List.length cell = width) widths cells) :
    Drawn '|' widths (String.ofList (cellLine cells)) := by
  have hline : cellLine cells = fenced '|' (cells.map fun cell => [' '] ++ cell ++ [' ']) :=
    fenced_sides '|' [' '] cells hne
  rw [hline]
  refine drawn_fenced (List.forall₂_map_right_iff.mpr (h.imp fun width cell hcell => ?_))
  simp [hcell]

theorem Table.drawn_header (maxWidth : Int) (hne : t ≠ []) :
    Drawn '|' (t.map (TableColumn.printedWidth maxWidth)) (t.header maxWidth) := by
  refine drawn_cellLine (by simpa [headerCells] using hne) (forall₂_map_map fun column _ => ?_)
  exact Text.length_padRight (column.length_name_le maxWidth)

/-- What stands in a line for a row, cell by cell: each is what the column has for the row, shown
as a text that is filled up to the width of the column on the side that its type tells. -/
def Table.ShowsRow (maxWidth : Int) (t : Table) (row : Record) (line : String) : Prop :=
  ∃ cells, line = String.ofList (cellLine cells) ∧
    List.Forall₂ (fun column cell => ∃ v text, column.type.Holds (row.get column.name) v ∧
      cellText maxWidth v = .ok text ∧ cell = column.type.fill (column.printedWidth maxWidth) text ∧
      cell.length = column.printedWidth maxWidth) t cells

theorem Table.ShowsRow.drawn {row : Record} {line : String} (h : t.ShowsRow maxWidth row line)
    (hne : t ≠ []) : Drawn '|' (t.map (TableColumn.printedWidth maxWidth)) line := by
  obtain ⟨cells, rfl, hcells⟩ := h
  refine drawn_cellLine ?_ (List.forall₂_map_left_iff.mpr (hcells.imp ?_))
  · rintro rfl
    exact hne (List.forall₂_nil_right_iff.mp hcells)
  · rintro column cell ⟨_, _, -, -, -, hlength⟩
    exact hlength

theorem Table.showsRow_bodyCells (ht : ofRows rows = .ok t) (hcells : t.IsPrintable maxWidth)
    {i : Nat} (hi : i < rows.length) :
    t.ShowsRow maxWidth rows[i] (String.ofList (cellLine (t.bodyCells maxWidth i))) := by
  refine ⟨_, rfl, List.forall₂_map_right_iff.mpr (List.forall₂_same.mpr fun column hcolumn => ?_)⟩
  have hi' : i < column.cells.length := hi.trans_eq (length_cells ht hcolumn).symm
  have hv : column.cells[i] ∈ column.cells := List.getElem_mem hi'
  rw [column.getD_texts hi']
  refine ⟨_, _, ?_, cellText_shown (hcells column hcolumn _ hv), rfl,
    column.type.length_fill (TableColumn.length_shown_le hv)⟩
  exact (List.forall₂_iff_get.mp ((ofRows_holds ht).2 column hcolumn)).2 i hi hi'

/-- The table of rows with a column is a rectangle: its rules, its header and its other lines are
equally long and have their posts at the same places. Between the two lower rules there is one
line for each row, in the order of the rows. Each of its cells shows what the row has in the
column, filled up in front if the column is one of numbers and behind if not. Below the table
stand the number of rows and the warnings. -/
theorem printRows_rectangular (hcolumns : columnNames rows ≠ [])
    (h : printRows maxWidth elapsed rows warnings = .ok lines) :
    ∃ t rule header body, Table.ofRows rows = .ok t ∧
      t.map TableColumn.name = columnNames rows ∧
      lines = [rule, header, rule] ++ body ++ [rule, toString rows.length ++
        (if rows.length = 1 then " row in " else " rows in ") ++ elapsed.fixedText 2 ++ " ms"] ++
        warnings.map ("warning: " ++ ·) ∧
      rule = String.ofList (fenced '+' (t.map fun column =>
        List.replicate (column.printedWidth maxWidth + 2) '-')) ∧
      Drawn '+' (t.map (TableColumn.printedWidth maxWidth)) rule ∧
      (∀ line ∈ header :: body, Drawn '|' (t.map (TableColumn.printedWidth maxWidth)) line) ∧
      header = String.ofList (cellLine (t.headerCells maxWidth)) ∧
      List.Forall₂ (t.ShowsRow maxWidth) rows body := by
  obtain ⟨t, ht, hcells, rfl⟩ := exists_of_printRows h
  obtain ⟨hnames, -⟩ := Table.ofRows_holds ht
  have hne : t ≠ [] := by
    rintro rfl
    exact hcolumns hnames.symm
  have hrows : List.Forall₂ (t.ShowsRow maxWidth) rows (t.body maxWidth) := by
    rw [Table.body, Table.height_eq ht hne]
    refine List.forall₂_iff_get.mpr ⟨by simp, fun i hi _ => ?_⟩
    simpa using Table.showsRow_bodyCells ht hcells hi
  refine ⟨t, _, _, _, ht, hnames, ?_, t.rule_eq maxWidth hne, t.drawn_rule maxWidth hne,
    List.forall_mem_cons.mpr ⟨t.drawn_header maxWidth hne, fun line hline => ?_⟩, rfl, hrows⟩
  · simp [countLine]
  · obtain ⟨row, -, hrow⟩ := exists_of_forall₂ hrows hline
    exact hrow.drawn hne

/-- Of two ragged rows, one has a text of two lines that is cut, and the other lacks a number. -/
theorem printRows_rectangular_ragged :
    let rows : List Record := [[("n", .ofInt 7), ("t", .string "quia et\nsuscipit")],
      [("t", .string "short"), ("b", .bool true)]]
    let header := "| n    | t          | b    |"
    let body := ["|    7 | quia et... | NULL |", "| NULL | short      | true |"]
    ∃ t, Table.ofRows rows = .ok t ∧ List.Forall₂ (t.ShowsRow 10) rows body ∧
      ∀ line ∈ header :: body, Drawn '|' [4, 10, 4] line := by
  intro rows header body
  have hprinted : (printRows 10 (.finite false 0) rows ["cut"]).toOption = some
      ["+------+------------+------+", header, "+------+------------+------+",
        "|    7 | quia et... | NULL |", "| NULL | short      | true |",
        "+------+------------+------+", "2 rows in 0.00 ms", "warning: cut"] := by
    decide +kernel
  obtain ⟨t, rule, header', body', ht, -, hlines, -, -, hdrawn, -, hrows⟩ :=
    printRows_rectangular (by decide) (toOption_eq_some.mp hprinted)
  have hwidths : (Table.ofRows rows).toOption.map (fun t => t.map (TableColumn.printedWidth 10)) =
      some [4, 10, 4] := by
    decide +kernel
  rw [ht] at hwidths
  have hwidths : t.map (TableColumn.printedWidth 10) = [4, 10, 4] := Option.some.inj hwidths
  obtain ⟨first, second, rfl⟩ := List.length_eq_two.mp hrows.length_eq.symm
  obtain ⟨-, rfl, -, rfl, rfl, -⟩ : _ ∧ header = header' ∧ _ ∧ _ = first ∧ _ = second ∧ _ := by
    simpa using hlines
  refine ⟨t, ht, hrows, ?_⟩
  rwa [hwidths] at hdrawn

end Lines

end JsonQuery
