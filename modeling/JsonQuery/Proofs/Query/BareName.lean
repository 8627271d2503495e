import JsonQuery.Proofs.Query.Rendering
import Mathlib.Tactic

/-!
Which names need no quotes. An identifier is read as a column wherever a query has one, unless it
is the keyword of a clause or the one word that is an operator: it may be a keyword of any other
kind, and make one of several words with those around it.
-/

namespace JsonQuery

open Outcome Sql

/-- A name that needs no quotes: an identifier that neither names division nor is the keyword of
a clause. -/
structure BareName (name : String) : Prop where
  identifier : isIdentifier name.toList = true
  division : Text.upper name ≠ "DIV"
  free : IsFree name

/-- A query for whole rows of a source that needs no quotes, whose columns are all of some kind,
with a literal that can be written and a limit that can be read. -/
structure Query.RowsBy (column : String → Prop) (q : Query) : Prop where
  everything : q.projection = .everything
  source : ∃ name, q.source = some name ∧ BareName name
  condition : ∀ c, q.condition = some c → column c.column
  writable : ∀ c, q.condition = some c → Writable c
  literal : ∀ c, q.condition = some c → c.quoted = true → '\'' ∉ c.literal.toList
  grouping : ∀ name ∈ q.grouping, column name
  order : ∀ key, q.order = some key → column key.column
  limit : ∀ n, q.limit = some n → n < 10 ^ integerDigitLimit

theorem Query.RowsBy.imp {column column' : String → Prop} {q : Query} (h : q.RowsBy column)
    (himp : ∀ name, column name → column' name) : q.RowsBy column' :=
  { h with
    condition := fun c hc => himp _ (h.condition c hc)
    grouping := fun name hname => himp name (h.grouping name hname)
    order := fun key hkey => himp _ (h.order key hkey) }

section Bodies

variable {name : String} {rest : List Char} {c : Condition} {key : SortKey}

theorem BareName.stays (h : BareName name) (hrest : Clear rest) :
    Piece.Stays (.word name.toList) rest :=
  standsAsWord_of_isIdentifier h.identifier (isDivision_eq_false h.division) hrest

theorem BareName.standsClear (h : BareName name) : StandsClear [.word name.toList] :=
  fun _ _ hrest => ⟨h.stays hrest, trivial⟩

/-- A comma parts the last word of an entry from the next one. -/
theorem standsClear_intercalate {parts : List (List Piece)} (h : ∀ part ∈ parts, StandsClear part) :
    StandsClear (commaGap.intercalate parts) := by
  induction parts with
  | nil => exact fun _ _ _ => trivial
  | cons part later ih =>
      obtain ⟨hpart, hlater⟩ := List.forall_mem_cons.mp h
      cases later with
      | nil =>
          rw [List.intercalate_singleton]
          exact hpart
      | cons next later =>
          rw [intercalate_cons_cons]
          intro rest hrest hclear
          refine placed_append.mpr ⟨hpart _ rfl (clear_sign rfl rfl rfl), ?_⟩
          exact ⟨.punctuation (by decide), .blank rfl, ih hlater rest hrest hclear⟩

theorem endsSolid_names {names : List String} (hne : names ≠ []) : EndsSolid (namePieces names) := by
  refine endsSolid_intercalate ?_ (by simpa using hne)
  intro part hpart
  obtain ⟨name, -, rfl⟩ := List.mem_map.mp hpart
  exact ⟨[], _, rfl, rfl⟩

theorem standsClear_names {names : List String} (h : ∀ name ∈ names, BareName name) :
    StandsClear (namePieces names) := by
  refine standsClear_intercalate fun part hpart => ?_
  obtain ⟨name, hname, rfl⟩ := List.mem_map.mp hpart
  exact (h name hname).standsClear

/-- Neither comparison draws the column in front of it to it. -/
theorem standsClear_condition (h : BareName c.column) (hwritable : Writable c)
    (hquote : c.quoted = true → '\'' ∉ c.literal.toList) : StandsClear c.pieces := by
  intro rest hrest _
  have hcomparison : Clear (' ' :: (render (c.comparison.piece :: .blank ' ' :: [c.literalPiece]) ++
      rest)) := by
    cases c.comparison <;> exact clear_space (by decide) (by decide) (by decide)
  exact ⟨h.stays hcomparison, .blank rfl, (c.comparison.fits _).stays, .blank rfl,
    (hwritable.fits hquote hrest).stays, trivial⟩

theorem standsClear_key (h : BareName key.column) : StandsClear key.pieces := by
  intro rest hrest _
  have hdirection : Clear (' ' :: (render [.word key.direction.keyword.toList] ++ rest)) := by
    cases key.direction <;> exact clear_space (by decide) (by decide) (by decide)
  have hlone : Piece.Fits (.word key.direction.keyword.toList) rest :=
    .word (keyword_facts key.direction).1 (endsOr_of_breaks rfl rfl hrest)
  exact ⟨h.stays hdirection, .blank rfl, hlone.stays, trivial⟩

end Bodies

section Queries

variable {q : Query} {blocks : List Block}

/-- What the body of a clause needs to be cut from the text of a query and to be accepted there. -/
structure Fitting (kind : ClauseKind) (body : List Piece) : Prop where
  closed : Sealed body
  clear : StandsClear body
  ends : EndsSolid body
  accepted : ∀ start, kind.Accepts (place start body)

/-- The pieces of a selection of whole rows. -/
def starPieces : List Piece := [.sign '*']

theorem Query.RowsBy.fitting (h : q.RowsBy BareName) {kind : ClauseKind} {body : List Piece}
    (hbody : q.body? starPieces kind = some body) : Fitting kind body := by
  cases kind with
  | select =>
      obtain rfl := Option.some.inj hbody
      have hready := Selects.everything.ready
      refine ⟨hready.sealed, hready.standsClear, hready.ends, fun start => ?_⟩
      have hstar : SelectBody [] (place start starPieces) .everything := .everything rfl
      exact exists_selectBody.mp ⟨_, hstar⟩
  | source =>
      obtain ⟨name, hname, rfl⟩ := Option.map_eq_some_iff.mp hbody
      obtain ⟨source, hsource, hbare⟩ := h.source
      obtain rfl := Option.some.inj (hsource.symm.trans hname)
      exact ⟨hbare.free.segment.toSealed, hbare.standsClear, ⟨[], _, rfl, rfl⟩,
        fun start => ⟨_, sourceBody_name source start⟩⟩
  | condition =>
      obtain ⟨c, hc, rfl⟩ := Option.map_eq_some_iff.mp hbody
      have hwritable := h.writable c hc
      exact ⟨sealed_condition (h.condition c hc).free hwritable,
        standsClear_condition (h.condition c hc) hwritable (h.literal c hc), endsSolid_condition c,
        fun start => ⟨_, conditionBody_pieces hwritable start⟩⟩
  | grouping =>
      rw [Query.body?] at hbody
      split at hbody
      · exact absurd hbody.symm (Option.some_ne_none body)
      · rename_i hne
        obtain rfl := Option.some.inj hbody
        have hfree : ∀ name ∈ q.grouping, IsFree name :=
          fun name hname => (h.grouping name hname).free
        have hnames : q.grouping ≠ [] := by simpa using hne
        exact ⟨sealed_names hfree, standsClear_names h.grouping, endsSolid_names hnames,
          fun start => ⟨_, groupingBody_names hfree hnames start⟩⟩
  | order =>
      obtain ⟨key, hkey, rfl⟩ := Option.map_eq_some_iff.mp hbody
      exact ⟨sealed_key (h.order key hkey).free, standsClear_key (h.order key hkey),
        ⟨[_, _], _, rfl, rfl⟩, fun start => ⟨_, orderBody_pieces key start⟩⟩
  | limit =>
      obtain ⟨n, hn, rfl⟩ := Option.map_eq_some_iff.mp hbody
      have hready := ready_limit n
      refine ⟨hready.sealed, hready.standsClear, hready.ends, fun start => ?_⟩
      exact (readLimit_reads [] _ (readLimit_digits (h.limit n hn) [] start)).sound rfl

/-- Blocks that hold the clauses of a query are accepted. -/
theorem accepts_of_found {selection : List Piece}
    (h : ∀ kind body, q.body? selection kind = some body →
      ∀ start, kind.Accepts (place start body))
    (honce : (blocks.map Block.kind).Nodup)
    (hfound : ∀ kind, Found (clausePieces (q.clauses selection)) blocks kind
      (q.body? selection kind)) : ∀ b ∈ blocks, b.kind.Accepts b.body := by
  intro b hb
  have hblock := bodyOf?_of_mem honce hb
  have hclause := hfound b.kind
  cases hbody : q.body? selection b.kind with
  | none =>
      rw [hbody] at hclause
      exact absurd (hclause.symm.trans hblock).symm (Option.some_ne_none _)
  | some body =>
      rw [hbody] at hclause
      obtain ⟨tokens, htokens, front, back, -, rfl⟩ := hclause
      rw [Option.some.inj (hblock.symm.trans htokens)]
      exact h b.kind body hbody _

/-- A selection of whole rows is read without a warning. -/
theorem readProjection_star (hname : ∃ name, q.source = some name)
    (hfound : ∀ kind, Found (clausePieces (q.clauses starPieces)) blocks kind
      (q.body? starPieces kind)) (text : List Char) :
    readProjection text blocks = (.everything, []) := by
  obtain ⟨name, hname⟩ := hname
  have hsource := hfound .source
  rw [Query.body?, hname] at hsource
  obtain ⟨_, hfrom, -⟩ := hsource
  obtain ⟨tokens, htokens, front, back, -, rfl⟩ := hfound .select
  have hsome : (bodyOf? blocks .source).isNone = false := by
    rw [hfrom]
    rfl
  exact (readProjection_reads hsome htokens).complete _ (.everything rfl)

/-- A query whose names need no quotes has a text that is read as the query, without a warning. -/
theorem parse_toSql_of_bare (h : q.RowsBy BareName) :
    Query.parse q.toSql = .ok { q with text := q.toSql, warnings := [] } := by
  have hfitting : ∀ c ∈ q.clauses starPieces, Fitting c.kind c.body :=
    fun c hc => h.fitting (mem_clauses.mp hc)
  obtain ⟨name, hname, hbare⟩ := h.source
  have hnamed : q.source ≠ some "" := by
    rintro hempty
    obtain rfl := Option.some.inj (hname.symm.trans hempty)
    exact Bool.false_ne_true hbare.identifier
  have hselects : render starPieces = q.projection.toSql.toList := by
    rw [h.everything]
    rfl
  have htext := toList_toSql hselects hnamed h.literal
  obtain ⟨blocks, hparse, hcut, honce, hfound⟩ := parse_clauses
    (fun c hc => (hfitting c hc).closed)
    (placed_clausePieces fun c hc => (hfitting c hc).clear)
    (fun c hc => (hfitting c hc).ends) htext
  rw [← htext, queryOfBlocks_eq, found_limit (hfound .limit) h.limit] at hparse
  -- Each clause is read as it was written, and the cut leaves nothing to be said either.
  have hprojection := readProjection_star ⟨name, hname⟩ hfound q.toSql.toList
  obtain ⟨hsource, hcondition, hgrouping, horder⟩ := parts_of_found
    (fun name hname => (h.grouping name hname).free) h.writable hfound q.toSql.toList
  have haccepted := accepts_of_found (fun _ _ hbody => (h.fitting hbody).accepted) honce hfound
  have hquiet : cutWarnings blocks = [] := by
    refine cutWarnings_eq_nil.mpr ⟨honce, ?_⟩
    intro body hbody
    obtain ⟨b, hb, rfl⟩ := List.mem_map.mp (List.mem_of_mem_dropLast hbody)
    exact (haccepted b hb).expectsName_eq_false (hcut.closed b.body hbody)
  rw [hparse, Except.map, queryWith, hprojection, hsource, hcondition, hgrouping, horder, hquiet,
    String.ofList_toList, ← h.everything]
  rfl

end Queries

/-- The rows of some data grouped by one column. -/
def rowsGroupedBy (name : String) : Query where
  text := ""
  projection := .everything
  source := some "data"
  condition := none
  grouping := [name]
  order := none
  limit := none
  warnings := []

theorem bareName_data : BareName "data" where
  identifier := by decide
  division := by decide +kernel
  free := by
    unfold IsFree
    decide +kernel

theorem rowsBy_rowsGroupedBy {column : String → Prop} {name : String} (h : column name) :
    (rowsGroupedBy name).RowsBy column where
  everything := rfl
  source := ⟨"data", rfl, bareName_data⟩
  condition := nofun
  writable := nofun
  literal := nofun
  grouping := by
    intro other hother
    rw [List.mem_singleton.mp hother]
    exact h
  order := nofun
  limit := nofun

/-- Division is no column to group by. -/
theorem parse_rowsGroupedBy_division {name : String} (hname : isIdentifier name.toList = true)
    (hdivision : Text.upper name = "DIV") :
    Query.parse (rowsGroupedBy name).toSql ≠
      .ok { rowsGroupedBy name with text := (rowsGroupedBy name).toSql, warnings := [] } := by
  have hlost : ∀ w ∈ divisionWords,
      (Query.parse (rowsGroupedBy (String.ofList w)).toSql).toOption.map Query.grouping =
        some [] := by
    decide +kernel
  intro hparse
  have hgrouping := hlost _ (toList_mem_divisionWords hname hdivision)
  rw [String.ofList_toList, hparse] at hgrouping
  exact List.cons_ne_nil _ _ (Option.some.inj hgrouping)

/-- Identifiers between blanks are read as one token each, with its own spelling and place,
whatever keywords they make. Division alone is an operator: the tokens are all words, and a query
may use any of the identifiers but the keywords of clauses as a column without quotes, exactly if
none of them is division. -/
theorem identifiers_stand_bare {items : List (String × String)} (h : Identifiers items) :
    tokenize (spaced items) = nameTokens nameKind 0 items ∧
      (tokenize (spaced items) = nameTokens (fun _ => .word) 0 items ↔
        ∀ item ∈ items, Text.upper item.2 ≠ "DIV") ∧
      ((∀ q : Query, q.RowsBy (fun name => name ∈ items.map Prod.snd ∧ IsFree name) →
          Query.parse q.toSql = .ok { q with text := q.toSql, warnings := [] }) ↔
        ∀ item ∈ items, Text.upper item.2 ≠ "DIV") := by
  refine ⟨h.tokenize_spaced, h.tokenize_spaced_eq_words, ?_, ?_⟩
  · intro hreads item hitem hdivision
    have hfree : IsFree item.2 := by
      have hopeners : ∀ word ∈ openers, "DIV" ≠ word := by decide +kernel
      unfold IsFree
      rwa [hdivision]
    exact parse_rowsGroupedBy_division (h.name item hitem) hdivision
      (hreads _ (rowsBy_rowsGroupedBy ⟨List.mem_map_of_mem hitem, hfree⟩))
  · intro hwords q hq
    refine parse_toSql_of_bare (hq.imp ?_)
    rintro name ⟨hname, hfree⟩
    obtain ⟨item, hitem, rfl⟩ := List.mem_map.mp hname
    exact ⟨h.name item hitem, hwords item hitem, hfree⟩

/-- Names that make keywords of several words over blanks of all kinds, a batch separator and the
beginning of a time zone clause among them. -/
def keywordItems : List (String × String) :=
  [("", "left"), ("  ", "outer"), ("\t", "join"), ("\n", "at"), (" ", "time"), (" ", "zone"),
    ("\r\n", "go"), (" ", "order"), (" ", "by"), (" ", "union"), (" ", "not")]

/-- A query whose columns are such names. -/
def keywordQuery : Query where
  text := ""
  projection := .everything
  source := some "data"
  condition := some ⟨"at", .like, "time zone %", true⟩
  grouping := ["go", "order", "by", "union"]
  order := some ⟨"not", .descending⟩
  limit := some 5
  warnings := []

/-- Keywords of several words are cut into their words, and a query over columns with such names
is read as it was meant. -/
theorem identifiers_stand_bare_keywords :
    tokenize "left  outer\tjoin\nat time zone\r\ngo order by union not" =
        [⟨.word, "left", 0, 4⟩, ⟨.word, "outer", 6, 11⟩, ⟨.word, "join", 12, 16⟩,
          ⟨.word, "at", 17, 19⟩, ⟨.word, "time", 20, 24⟩, ⟨.word, "zone", 25, 29⟩,
          ⟨.word, "go", 31, 33⟩, ⟨.word, "order", 34, 39⟩, ⟨.word, "by", 40, 42⟩,
          ⟨.word, "union", 43, 48⟩, ⟨.word, "not", 49, 52⟩] ∧
      keywordQuery.toSql = "SELECT * FROM data WHERE at LIKE 'time zone %' " ++
        "GROUP BY go, order, by, union ORDER BY not DESC LIMIT 5" ∧
      Query.parse keywordQuery.toSql = .ok { keywordQuery with text := keywordQuery.toSql } := by
  have hitems : Identifiers keywordItems :=
    ⟨by decide +kernel, by decide +kernel, by decide +kernel⟩
  have hwords : ∀ item ∈ keywordItems, Text.upper item.2 ≠ "DIV" := by decide +kernel
  have hnames : ∀ name ∈ ["at", "go", "order", "by", "union", "not"],
      name ∈ keywordItems.map Prod.snd ∧ ∀ word ∈ openers, Text.upper name ≠ word := by
    decide +kernel
  obtain ⟨-, htokens, hqueries⟩ := identifiers_stand_bare hitems
  refine ⟨htokens.mpr hwords, by decide +kernel, hqueries.mpr hwords keywordQuery ?_⟩
  exact {
    everything := rfl
    source := ⟨"data", rfl, bareName_data⟩
    condition := by
      rintro c ⟨⟩
      exact hnames "at" (by simp)
    writable := by
      rintro c ⟨⟩
      exact .quoted (by decide +kernel)
    literal := by
      rintro c ⟨⟩ -
      decide +kernel
    grouping := fun name hname => hnames name (by simp [keywordQuery] at hname ⊢; tauto)
    order := by
      rintro key ⟨⟩
      exact hnames "not" (by simp)
    limit := by
      rintro n ⟨⟩
      have hlimit : 10 ^ 1 ≤ 10 ^ integerDigitLimit := Nat.pow_le_pow_right (by decide) (by decide)
      exact Nat.lt_of_lt_of_le (by decide) hlimit }

/-- The name of division is an operator, and as a column it is not understood. -/
theorem tokenize_division :
    isIdentifier "div".toList = true ∧ tokenize "div" = [⟨.operator, "div", 0, 3⟩] ∧
      tokenize "div" ≠ [⟨.word, "div", 0, 3⟩] ∧
      (∃ q, Query.parse "SELECT * FROM data WHERE div = 1" = .ok q ∧ q.condition = none) ∧
      (∃ q, Query.parse "SELECT * FROM data GROUP BY div" = .ok q ∧ q.grouping = []) ∧
      ∃ q, Query.parse "SELECT * FROM data ORDER BY div" = .ok q ∧ q.order = none := by
  have hlost {α : Type} [DecidableEq α] (part : Query → α) (a : α) {text : String}
      (h : (Query.parse text).toOption.map part = some a) :
      ∃ q, Query.parse text = .ok q ∧ part q = a := by
    obtain ⟨q, hq, hpart⟩ := Option.map_eq_some_iff.mp h
    exact ⟨q, toOption_eq_some.mp hq, hpart⟩
  exact ⟨by decide, by decide +kernel, by decide +kernel,
    hlost Query.condition none (by decide +kernel), hlost Query.grouping [] (by decide +kernel),
    hlost Query.order none (by decide +kernel)⟩

end JsonQuery
