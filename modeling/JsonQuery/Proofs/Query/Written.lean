import JsonQuery.Proofs.Query.Silent
import JsonQuery.Proofs.Sql.Identifier
import Mathlib.Tactic

/-!
Clauses written as pieces. What tokens mean to a query does not depend on where they stand in
its text. So parts that hold no clause and no open bracket can be put together again, with
commas between the entries of a list and blanks between the clauses, and the clauses that are
cut from the whole are those it was made of.
-/

namespace JsonQuery

open Outcome Sql

section Moved

variable {depth d : Nat} {body rest rest' : List Token} {t : Token} {ps : List Piece}

theorem isWord_moved (word : String) : (t.moved d).isWord word = t.isWord word := rfl

theorem depthBehind_place (start : Nat) :
    depthBehind depth (place start ps) = depthBehind depth (place 0 ps) := by
  rw [place_eq_map start, depthBehind, depthBehind, List.foldl_map]
  rfl

theorem NoComma.place {start : Nat} (h : NoComma depth (place start ps)) (start' : Nat) :
    NoComma depth (Sql.place start' ps) := by
  rw [place_eq_map] at h ⊢
  generalize Sql.place 0 ps = body at h
  induction body generalizing depth with
  | nil => exact .nil depth
  | cons t body ih =>
      obtain ⟨ht, hbody⟩ := NoComma.cons_iff.mp h
      exact NoComma.cons_iff.mpr ⟨ht, ih hbody⟩

theorem alias?_map_moved (d : Nat) (body : List Token) :
    alias? (body.map (Token.moved d)) = alias? body := by
  cases body with
  | nil => rfl
  | cons t rest =>
      rw [List.map_cons, alias?, alias?, isWord_moved]
      cases t.isWord "AS" <;> rcases rest with _ | ⟨_, _ | ⟨_, _⟩⟩ <;> rfl

theorem itemShape_map_moved : itemShape (body.map (Token.moved d)) = itemShape body := by
  cases body with
  | nil => rfl
  | cons head rest =>
      have hlabel := alias?_map_moved d rest
      match rest with
      | [] => rfl
      | [_] | [_, _] =>
          unfold itemShape
          dsimp only [List.map] at hlabel ⊢
          rw [hlabel]
          rfl
      | _ :: _ :: _ :: tail =>
          have htail := alias?_map_moved d tail
          unfold itemShape aggregateShape
          dsimp only [List.map] at hlabel ⊢
          rw [hlabel, htail]
          rfl

theorem itemShape_place (start : Nat) : itemShape (place start ps) = itemShape (place 0 ps) := by
  rw [place_eq_map, itemShape_map_moved]

/-- The words that are the keyword of a clause by themselves. -/
def openers : List String := ["SELECT", "FROM", "WHERE", "LIMIT"]

/-- The tokens do not begin with the second word of a keyword. -/
def BeginsApart (tokens : List Token) : Prop :=
  ∀ t, tokens.head? = some t → t.isWord "BY" = false

theorem clauseStart?_eq_none_of_apart (ht : ∀ word ∈ openers, t.isWord word = false)
    (hrest : BeginsApart rest) : clauseStart? t rest.head? = none := by
  simp only [openers, List.forall_mem_cons] at ht
  obtain ⟨hselect, hsource, hcondition, hlimit, -⟩ := ht
  cases rest with
  | nil => simp [clauseStart?, hselect, hsource, hcondition, hlimit]
  | cons b rest =>
      have hb : b.isWord "BY" = false := hrest b rfl
      simp [clauseStart?, hselect, hsource, hcondition, hlimit, hb]

theorem isWord_eq_false_of_clauseStart? {next : Option Token} (h : clauseStart? t next = none) :
    ∀ word ∈ openers, t.isWord word = false := by
  unfold clauseStart? at h
  dsimp only at h
  split_ifs at h with hselect hsource hcondition hlimit horder hgrouping
  simp only [openers, List.forall_mem_cons, Bool.not_eq_true] at *
  exact ⟨hselect, hsource, hcondition, hlimit, fun _ hnil => absurd hnil List.not_mem_nil⟩

/-- No clause starts inside a body wherever it stands and whatever follows it. -/
theorem NoClause.map_moved (h : NoClause depth (body.map (Token.moved d)) rest) (d' : Nat)
    (hrest : BeginsApart rest') : NoClause depth (body.map (Token.moved d')) rest' := by
  induction body generalizing depth with
  | nil => exact .nil depth rest'
  | cons t body ih =>
      obtain ⟨hfirst, hlater⟩ := NoClause.cons_iff.mp h
      refine NoClause.cons_iff.mpr ⟨?_, ih hlater⟩
      intro hdepth
      have hnone := clauseStart?_eq_none_iff.mpr (hfirst hdepth)
      apply clauseStart?_eq_none_iff.mp
      cases body with
      | nil =>
          exact clauseStart?_eq_none_of_apart (t := t.moved d')
            (isWord_eq_false_of_clauseStart? hnone) hrest
      | cons u body => exact hnone

theorem NoClause.place {start : Nat} (h : NoClause depth (place start ps) rest) (start' : Nat)
    (hrest : BeginsApart rest') : NoClause depth (Sql.place start' ps) rest' := by
  rw [place_eq_map] at h ⊢
  exact h.map_moved start' hrest

theorem NoClause.append {front back : List Token} (hfront : NoClause depth front (back ++ rest))
    (hback : NoClause (depthBehind depth front) back rest) :
    NoClause depth (front ++ back) rest := by
  induction front generalizing depth with
  | nil => exact hback
  | cons t front ih =>
      obtain ⟨hfirst, hlater⟩ := NoClause.cons_iff.mp hfront
      rw [List.cons_append]
      refine NoClause.cons_iff.mpr ⟨?_, ih hlater hback⟩
      rw [List.append_assoc]
      exact hfirst

theorem NoClause.of_append {front mid back : List Token}
    (h : NoClause depth (front ++ (mid ++ back)) rest) :
    NoClause (depthBehind depth front) mid (back ++ rest) := by
  rintro before after rfl hafter hdepth
  rw [← List.append_assoc]
  refine h (front ++ before) (after ++ back) (by simp) (by simp [hafter]) ?_
  rw [depthBehind_append]
  exact hdepth

theorem isWord_eq_false (ht : t.kind ≠ .word) (word : String) : t.isWord word = false := by
  rw [Token.isWord, Token.isBare, beq_false_of_ne ht, Bool.false_and]

theorem NoClause.cons_other (ht : ∀ word ∈ clauseWords, t.isWord word = false)
    (h : NoClause (depthAfter depth t) body rest) : NoClause depth (t :: body) rest :=
  NoClause.cons_iff.mpr ⟨fun _ => clauseStart?_eq_none_iff.mp (clauseStart?_eq_none ht _), h⟩

theorem NoClause.cons_sign (ht : t.kind ≠ .word) (h : NoClause (depthAfter depth t) body rest) :
    NoClause depth (t :: body) rest :=
  .cons_other (fun word _ => isWord_eq_false ht word) h

/-- No clause starts at a token that opens none by itself, if no keyword goes on behind it. -/
theorem NoClause.cons_plain (ht : ∀ word ∈ openers, t.isWord word = false)
    (hapart : BeginsApart (body ++ rest)) (h : NoClause (depthAfter depth t) body rest) :
    NoClause depth (t :: body) rest :=
  NoClause.cons_iff.mpr
    ⟨fun _ => clauseStart?_eq_none_iff.mp (clauseStart?_eq_none_of_apart ht hapart), h⟩

theorem beginsApart_cons (ht : t.isWord "BY" = false) : BeginsApart (t :: rest) := by
  intro u hu
  rw [← Option.some.inj hu]
  exact ht

end Moved

/-- No bracket is left open in the pieces of a body, and no clause starts inside. -/
structure Sealed (body : List Piece) : Prop where
  closed : ∀ start, depthBehind 0 (place start body) = 0
  noClause : ∀ start rest, BeginsApart rest → NoClause 0 (place start body) rest

/-- The pieces of a body that holds no comma outside its brackets. -/
structure Segment (part : List Piece) : Prop extends Sealed part where
  single : ∀ start, NoComma 0 (place start part)

/-- The pieces of a body: they end at every break and with no blank, no bracket in them is left
open and no clause starts inside. -/
structure Ready (body : List Piece) : Prop where
  placed : ∀ rest, breaks rest = true → WellPlaced body rest
  ends : EndsSolid body
  closed : ∀ start, depthBehind 0 (place start body) = 0
  noClause : ∀ start rest, BeginsApart rest → NoClause 0 (place start body) rest

/-- The pieces of a body are read on their own where it ends and nothing behind it is drawn to its
last word. -/
def StandsClear (body : List Piece) : Prop :=
  ∀ rest, breaks rest = true → Clear rest → Placed body rest

/-- The pieces of an entry of a list. -/
structure Entry (part : List Piece) : Prop extends Ready part where
  single : ∀ start, NoComma 0 (place start part)

theorem Ready.sealed {body : List Piece} (h : Ready body) : Sealed body := ⟨h.closed, h.noClause⟩

theorem Ready.standsClear {body : List Piece} (h : Ready body) : StandsClear body :=
  fun rest hrest _ => (h.placed rest hrest).placed

theorem Entry.segment {part : List Piece} (h : Entry part) : Segment part :=
  ⟨h.toReady.sealed, h.single⟩

/-- Pieces between the parts of a list. -/
def gap (separator : List Piece) (later : List (List Piece)) : List Piece :=
  if later.isEmpty then [] else separator

theorem intercalate_cons (separator part : List Piece) (later : List (List Piece)) :
    separator.intercalate (part :: later) =
      part ++ (gap separator later ++ separator.intercalate later) := by
  cases later with
  | nil => simp [gap]
  | cons next later => simp [gap]

section Lists

variable {part : List Piece} {parts later : List (List Piece)} {start : Nat} {rest : List Char}

/-- A comma and a space, as they stand between the entries of a list. -/
def commaGap : List Piece := [.sign ',', .blank ' ']

theorem intercalate_cons_cons (part next : List Piece) :
    commaGap.intercalate (part :: next :: later) =
      part ++ (commaGap ++ commaGap.intercalate (next :: later)) := intercalate_cons _ _ _

theorem place_commaGap (start : Nat) : place start commaGap = [⟨.comma, ",", start, start + 1⟩] :=
  rfl

theorem sealed_intercalate (h : ∀ part ∈ parts, Segment part) :
    Sealed (commaGap.intercalate parts) := by
  induction parts with
  | nil => exact ⟨fun _ => rfl, fun _ _ _ => .nil _ _⟩
  | cons part later ih =>
      obtain ⟨hpart, hlater⟩ := List.forall_mem_cons.mp h
      cases later with
      | nil =>
          rw [List.intercalate_singleton]
          exact hpart.toSealed
      | cons next later =>
          have hsealed := ih hlater
          rw [intercalate_cons_cons]
          constructor
          · intro start
            rw [place_append, depthBehind_append, hpart.closed, place_append, place_commaGap,
              depthBehind_append, depthBehind_comma 0 rfl]
            exact hsealed.closed _
          · intro start rest hrest
            rw [place_append, place_append, place_commaGap, List.singleton_append]
            refine NoClause.append (hpart.noClause start _ (beginsApart_cons rfl)) ?_
            rw [hpart.closed]
            exact .cons_sign (fun hkind => nomatch hkind) (hsealed.noClause _ rest hrest)

theorem endsSolid_intercalate (h : ∀ part ∈ parts, EndsSolid part) (hne : parts ≠ []) :
    EndsSolid (commaGap.intercalate parts) := by
  induction parts with
  | nil => exact absurd rfl hne
  | cons part later ih =>
      obtain ⟨hpart, hlater⟩ := List.forall_mem_cons.mp h
      cases later with
      | nil =>
          rw [List.intercalate_singleton]
          exact hpart
      | cons next later =>
          rw [intercalate_cons_cons]
          exact ((ih hlater (List.cons_ne_nil _ _)).behind _).behind _

theorem ready_intercalate (h : ∀ part ∈ parts, Entry part) (hne : parts ≠ []) :
    Ready (commaGap.intercalate parts) := by
  have hsealed := sealed_intercalate fun part hpart => (h part hpart).segment
  have hends := endsSolid_intercalate (fun part hpart => (h part hpart).ends) hne
  refine ⟨?_, hends, hsealed.closed, hsealed.noClause⟩
  clear hsealed hends hne
  induction parts with
  | nil => exact fun _ _ => trivial
  | cons part later ih =>
      obtain ⟨hpart, hlater⟩ := List.forall_mem_cons.mp h
      cases later with
      | nil =>
          rw [List.intercalate_singleton]
          exact hpart.placed
      | cons next later =>
          intro rest hrest
          rw [intercalate_cons_cons]
          refine wellPlaced_append.mpr ⟨hpart.placed _ rfl, ?_⟩
          exact ⟨.punctuation (by decide), .blank rfl, ih hlater rest hrest⟩

/-- The segments of a list with commas between its parts are the tokens of the parts. -/
theorem exists_segments (h : ∀ part ∈ parts, Segment part) (hne : parts ≠ []) (start : Nat) :
    ∃ segments, CommaSegments 0 (place start (commaGap.intercalate parts)) segments ∧
      List.Forall₂ (Stands (commaGap.intercalate parts) start) parts segments := by
  induction parts generalizing start with
  | nil => exact absurd rfl hne
  | cons part later ih =>
      obtain ⟨hpart, hlater⟩ := List.forall_mem_cons.mp h
      cases later with
      | nil =>
          rw [List.intercalate_singleton]
          exact ⟨[place start part], .one (hpart.single start), .cons .self .nil⟩
      | cons next later =>
          obtain ⟨segments, hsegments, hstands⟩ := ih hlater (List.cons_ne_nil _ _)
            (start + (render part).length + (render commaGap).length)
          rw [intercalate_cons_cons, place_append, place_append, place_commaGap,
            List.singleton_append]
          refine ⟨place start part :: segments, ?_, .cons Stands.self.ahead ?_⟩
          · exact .cons (hpart.single start) (hpart.closed start) rfl hsegments
          · exact hstands.imp fun _ _ h => h.behind.behind

end Lists

/-- Tokens that are cut into blocks do not begin with the second word of a keyword. -/
theorem Cut.beginsApart {tokens : List Token} {blocks : List Block} (h : Cut tokens blocks) :
    BeginsApart tokens := by
  cases h with
  | nil => exact fun t ht => absurd ht.symm (Option.some_ne_none t)
  | @cons kind keyword more body rest blocks hkeywords =>
      apply beginsApart_cons
      have hfirst : ∀ kind : ClauseKind, ∀ word ∈ kind.words.head?, word ≠ "BY" := by
        intro kind
        cases kind <;> decide
      obtain ⟨word, words, hword, -, hwords⟩ := List.forall₂_cons_left_iff.mp hkeywords
      have hne : word ≠ "BY" := hfirst kind word (by rw [hwords]; rfl)
      rw [Token.isWord, (isWord_iff.mp hword).2, beq_false_of_ne hne, Bool.and_false]

/-- A clause to be written: its kind and the pieces of its body. -/
structure Clause where
  kind : ClauseKind
  body : List Piece

/-- The words of a keyword with blanks between them. -/
def ClauseKind.pieces (kind : ClauseKind) : List Piece :=
  [.blank ' '].intercalate (kind.words.map fun word => [.word word.toList])

/-- A clause begins with its keyword, and its body stands behind a blank. -/
def Clause.pieces (c : Clause) : List Piece := c.kind.pieces ++ (.blank ' ' :: c.body)

/-- A blank, as it stands between clauses. -/
def blankGap : List Piece := [.blank ' ']

/-- Clauses with blanks between them. -/
def clausePieces (clauses : List Clause) : List Piece :=
  blankGap.intercalate (clauses.map Clause.pieces)

section Clauses

variable {kind : ClauseKind} {c : Clause} {clauses : List Clause} {start : Nat}

theorem clausePieces_cons : clausePieces (c :: clauses) =
    c.kind.pieces ++ (.blank ' ' :: (c.body ++
      (gap blankGap (clauses.map Clause.pieces) ++ clausePieces clauses))) := by
  rw [clausePieces, List.map_cons, intercalate_cons, Clause.pieces, List.append_assoc]
  rfl

/-- The words that a query is written with, besides its names and literals. -/
def writtenWords : List String := "BY" :: clauseWords ++ ["LIKE", "ASC", "DESC"]

theorem writtenWords_facts :
    ∀ word ∈ writtenWords, IsLone word.toList ∧ Text.upper word = word := by
  decide +kernel

theorem wellPlaced_keyword (kind : ClauseKind) (rest : List Char) :
    WellPlaced kind.pieces (' ' :: rest) := by
  have hword (word : String) (hword : word ∈ writtenWords) (rest : List Char) :
      Piece.Fits (.word word.toList) (' ' :: rest) := .word (writtenWords_facts word hword).1 rfl
  cases kind with
  | select => exact ⟨hword "SELECT" (by decide) _, trivial⟩
  | source => exact ⟨hword "FROM" (by decide) _, trivial⟩
  | condition => exact ⟨hword "WHERE" (by decide) _, trivial⟩
  | limit => exact ⟨hword "LIMIT" (by decide) _, trivial⟩
  | grouping =>
      exact ⟨hword "GROUP" (by decide) _, .blank rfl, hword "BY" (by decide) _, trivial⟩
  | order => exact ⟨hword "ORDER" (by decide) _, .blank rfl, hword "BY" (by decide) _, trivial⟩

theorem spelled_keyword (kind : ClauseKind) (start : Nat) :
    kind.Spelled (place start kind.pieces) := by
  rw [place_eq_map, ClauseKind.Spelled, List.forall₂_map_left_iff]
  simp only [isWord_moved]
  cases kind <;> decide +kernel

theorem breaks_blankGap : breaks
    (render (gap blankGap (clauses.map Clause.pieces) ++ clausePieces clauses)) = true := by
  cases clauses <;> rfl

/-- The keyword of the next clause draws no word of a body to it. -/
theorem clear_blankGap : Clear
    (render (gap blankGap (clauses.map Clause.pieces) ++ clausePieces clauses)) := by
  cases clauses with
  | nil => exact clear_nil
  | cons next later =>
      rw [clausePieces_cons]
      cases next.kind <;> exact clear_space (by decide) (by decide) (by decide)

theorem placed_clausePieces (h : ∀ c ∈ clauses, StandsClear c.body) :
    Placed (clausePieces clauses) [] := by
  induction clauses with
  | nil => trivial
  | cons c later ih =>
      obtain ⟨hc, hlater⟩ := List.forall_mem_cons.mp h
      have hgap (rest : List Char) :
          Placed (gap blankGap (later.map Clause.pieces)) rest := by
        cases later with
        | nil => trivial
        | cons _ _ => exact ⟨.blank rfl, trivial⟩
      rw [clausePieces_cons]
      refine placed_append.mpr ⟨(wellPlaced_keyword _ _).placed, .blank rfl, ?_⟩
      refine placed_append.mpr ⟨hc _ ?_ ?_, placed_append.mpr ⟨hgap _, ih hlater⟩⟩
      · rw [List.append_nil]
        exact breaks_blankGap
      · rw [List.append_nil]
        exact clear_blankGap

/-- Clauses that are written one behind the other are cut into blocks of their bodies. -/
theorem exists_blocks (h : ∀ c ∈ clauses, Sealed c.body) (start : Nat) :
    ∃ blocks, Cut (place start (clausePieces clauses)) blocks ∧
      List.Forall₂ (fun c b => b.kind = c.kind ∧
        Stands (clausePieces clauses) start c.body b.body) clauses blocks := by
  induction clauses generalizing start with
  | nil => exact ⟨[], .nil, .nil⟩
  | cons c later ih =>
      obtain ⟨hc, hlater⟩ := List.forall_mem_cons.mp h
      have hblank (s : Nat) (ps : List Piece) : place s (.blank ' ' :: ps) = place (s + 1) ps := rfl
      have hgap (s : Nat) : place s (gap blankGap (later.map Clause.pieces)) = [] := by
        cases later <;> rfl
      rw [clausePieces_cons, place_append, hblank, place_append, place_append, hgap,
        List.nil_append]
      generalize hbody : start + (render c.kind.pieces).length + 1 = bodyStart
      generalize hrest : bodyStart + (render c.body).length +
        (render (gap blankGap (later.map Clause.pieces))).length = restStart
      obtain ⟨blocks, hcut, hstands⟩ := ih hlater restStart
      have hspelled := spelled_keyword c.kind start
      obtain ⟨keyword, more, hkeywords⟩ :
          ∃ keyword more, place start c.kind.pieces = keyword :: more := by
        refine List.exists_cons_of_ne_nil fun hnil => ?_
        rw [hnil] at hspelled
        cases hkind : c.kind <;> rw [hkind] at hspelled <;> nomatch hspelled
      have hwhole {part : List Piece} {tokens : List Token}
          (hpart : Stands (c.body ++ (gap blankGap (later.map Clause.pieces) ++ clausePieces later))
            bodyStart part tokens) :
          Stands (c.kind.pieces ++ (.blank ' ' :: (c.body ++
              (gap blankGap (later.map Clause.pieces) ++ clausePieces later))))
            start part tokens := by
        rw [← hbody] at hpart
        have hbehind : Stands ([.blank ' '] ++ (c.body ++ _))
          (start + (render c.kind.pieces).length) part tokens := hpart.behind
        exact hbehind.behind
      rw [hkeywords] at hspelled ⊢
      refine ⟨⟨c.kind, keyword, place bodyStart c.body⟩ :: blocks, ?_, .cons ⟨rfl, ?_⟩ ?_⟩
      · exact .cons hspelled (hc.noClause _ _ hcut.beginsApart) (.inr (hc.closed _)) hcut
      · exact hwhole Stands.self.ahead
      · refine hstands.imp ?_
        rintro other b ⟨hkind, hother⟩
        rw [← hrest] at hother
        exact ⟨hkind, hwhole hother.behind.behind⟩

end Clauses

end JsonQuery
