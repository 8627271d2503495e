import JsonQuery.Query.Basic
import JsonQuery.Sql.Token

/-!
Cutting the tokens of a query into clauses. A clause starts at its keywords, outside all
brackets, and reaches to the next one. The first block of each kind counts; a later one
is set aside with a warning, and so is a keyword that stands where a name is expected.
-/

namespace JsonQuery

open Sql

/-- A clause as it stands in the text: its kind, the token it starts with, and the tokens
behind its keywords. -/
structure Block where
  kind : ClauseKind
  keyword : Token
  body : List Token
  deriving DecidableEq, Repr

/-- The clause that starts with a token, and whether the token behind it belongs to the
keywords. -/
def clauseStart? (t : Token) (next : Option Token) : Option (ClauseKind × Bool) :=
  let followedByBy := match next with
    | some b => b.isWord "BY"
    | none => false
  if t.isWord "SELECT" then some (.select, false)
  else if t.isWord "FROM" then some (.source, false)
  else if t.isWord "WHERE" then some (.condition, false)
  else if t.isWord "LIMIT" then some (.limit, false)
  else if t.isWord "ORDER" && followedByBy then some (.order, true)
  else if t.isWord "GROUP" && followedByBy then some (.grouping, true)
  else none

/-- The depth of brackets behind a token. A closing bracket too many changes nothing. -/
def depthAfter (depth : Nat) (t : Token) : Nat :=
  match t.kind with
  | .leftParen => depth + 1
  | .rightParen => depth - 1
  | _ => depth

/-- The tokens before the next clause at the given depth of brackets, and the blocks from
there on. -/
def cutFrom (depth : Nat) (tokens : List Token) : List Token × List Block :=
  match tokens with
  | [] => ([], [])
  | t :: rest =>
      match if depth == 0 then clauseStart? t rest.head? else none with
      | some (kind, wide) =>
          let (body, blocks) := cutFrom 0 (if wide then rest.tail else rest)
          ([], ⟨kind, t, body⟩ :: blocks)
      | none =>
          let (body, blocks) := cutFrom (depthAfter depth t) rest
          (t :: body, blocks)
termination_by tokens.length
decreasing_by
  · split <;> simp only [List.length_cons, List.length_tail] <;> omega
  · simp

/-- The blocks of a query that starts with a clause. -/
def cut (tokens : List Token) : List Block := (cutFrom 0 tokens).2

/-- Whether a name is expected behind the body of a clause: nothing stands in it yet, or
its last token is a comma. -/
def expectsName (body : List Token) : Bool :=
  match body.getLast? with
  | none => true
  | some t => t.kind == .comma

/-- The body of the first block of a kind. -/
def bodyOf? (blocks : List Block) (kind : ClauseKind) : Option (List Token) :=
  (blocks.find? fun b => b.kind == kind).map Block.body

/-- What is to be said about the blocks behind the ones already seen, the last of which
has the given body. -/
def blockWarnings (seen : List ClauseKind) (before : List Token) : List Block → List Warning
  | [] => []
  | b :: rest =>
      (if expectsName before then [.keywordAsName b.keyword.upper b.keyword.value] else []) ++
      (if seen.contains b.kind then [.repeatedClause b.kind] else []) ++
      blockWarnings (b.kind :: seen) b.body rest

/-- What is to be said about the blocks of a query. -/
def cutWarnings : List Block → List Warning
  | [] => []
  | first :: rest => blockWarnings [first.kind] first.body rest

/-- The tokens split at the commas outside brackets. -/
def splitAtCommas (depth : Nat) : List Token → List (List Token)
  | [] => [[]]
  | t :: rest =>
      if t.kind == .comma && depth == 0 then [] :: splitAtCommas depth rest
      else match splitAtCommas (depthAfter depth t) rest with
        | [] => [[t]]
        | segment :: segments => (t :: segment) :: segments

/-- The tokens without the semicolons at their end. -/
def dropTerminators (tokens : List Token) : List Token :=
  (tokens.reverse.dropWhile fun t => t.kind == .other && t.value == ";").reverse

end JsonQuery
