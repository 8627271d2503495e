import JsonQuery.Fault
import JsonQuery.Number.Reading
import JsonQuery.Query.Clause

/-!
Reading a query. Only a text without a selection is refused; a clause that is not
understood has no effect and leaves a warning. Each clause is read on its own, from its
tokens and the text they came from.
-/

namespace JsonQuery

open Sql

/-- The result of reading a clause, with what there is to be said about it. -/
abbrev Warned (α : Type) := α × List Warning

/-- The text from the first to the last of some tokens. -/
def sourceText (text : List Char) (tokens : List Token) : String :=
  match tokens.head?, tokens.getLast? with
  | some first, some last =>
      String.ofList (Text.stripWhere Text.isBlank ((text.take last.stop).drop first.start))
  | _, _ => ""

/-- The other name given at the end of an entry: none at all, a name, or nothing that
could be one. -/
def alias? (tokens : List Token) : Option String :=
  match tokens with
  | [] => some ""
  | t :: rest =>
      match if t.isWord "AS" then rest else tokens with
      | [name] => if name.isName || name.kind == .string then some name.value else none
      | _ => none

/-- A name that is not empty. -/
def givenName (name : String) : Option String := if name.isEmpty then none else some name

/-- A call of a function with one argument, and another name behind it. -/
def aggregateShape (name argument close : Token) (rest : List Token) : ItemShape :=
  match AggregateFunction.ofName? name.upper with
  | none => .expression
  | some f =>
      if close.kind != .rightParen || !(argument.kind == .star || argument.isName) then
        .expression
      else
        let argument := Argument.ofName argument.value
        if argument == .rows && f != .count then .expression
        else match alias? rest with
          | none => .expression
          | some label => .aggregate f argument (givenName label)

/-- What an entry of the selection list is understood as. -/
def itemShape (segment : List Token) : ItemShape :=
  match segment with
  | [] => .expression
  | head :: rest =>
      if head.isBare && (rest.head?.map Token.kind) == some .leftParen then
        match rest with
        | _ :: argument :: close :: tail => aggregateShape head argument close tail
        | _ => .expression
      else if head.isName then
        match alias? rest with
        | none => .expression
        | some label => .column head.value (givenName label)
      else .expression

/-- The selection list. Without a source everything is shown. -/
def readProjection (text : List Char) (blocks : List Block) : Warned Projection :=
  if (bodyOf? blocks .source).isNone then (.everything, [.noSource])
  else
    let tokens := (bodyOf? blocks .select).getD []
    if tokens.isEmpty then (.everything, [.emptySelection])
    else if tokens.map Token.kind == [.star] then (.everything, [])
    else
      let segments := splitAtCommas 0 tokens
      let items := (segments.filter (!·.isEmpty)).map fun segment =>
        ⟨sourceText text segment, itemShape segment⟩
      let warnings := (segments.filter (·.isEmpty)).map fun _ => Warning.emptyEntry
      (if items.isEmpty then .everything else .listed items, warnings)

/-- The source. -/
def readSource (text : List Char) (tokens : List Token) : Warned (Option String) :=
  match tokens with
  | [] => (none, [.unnamedSource])
  | name :: rest =>
      if !name.isName then (none, [.unnamedSource])
      else if rest.isEmpty then (some name.value, [])
      else (some name.value, [.textAfterSource (sourceText text rest)])

/-- A comparison of three tokens. -/
def comparison? (column operator literal : Token) : Option Condition :=
  if !column.isName then none
  else if operator.kind == .operator && operator.value == "=" then
    if literal.isName || literal.kind == .string || literal.kind == .number then
      some ⟨column.value, .equals, literal.value, literal.isQuoted⟩
    else none
  else if operator.isWord "LIKE" && literal.isQuoted then
    some ⟨column.value, .like, literal.value, true⟩
  else none

/-- The condition. -/
def readCondition (text : List Char) (tokens : List Token) : Warned (Option Condition) :=
  match tokens with
  | [] => (none, [.emptyCondition])
  | _ =>
      let condition := match tokens with
        | [column, operator, literal] => comparison? column operator literal
        | _ => none
      (condition, if condition.isNone then [.unclearCondition (sourceText text tokens)] else [])

/-- The name a segment consists of. -/
def segmentName? : List Token → Option String
  | [t] => if t.isName then some t.value else none
  | _ => none

/-- The columns to group by: names separated by commas. -/
def readGrouping (tokens : List Token) : Warned (List String) :=
  match (splitAtCommas 0 tokens).mapM segmentName? with
  | some names => (names, [])
  | none => ([], [.unclearGrouping])

/-- The column to sort by and the direction; anything behind them is left out. -/
def readOrder (text : List Char) (tokens : List Token) : Warned (Option SortKey) :=
  match tokens with
  | [] => (none, [.unclearOrder])
  | name :: rest =>
      if !name.isName then (none, [.unclearOrder])
      else
        let (direction, rest) := match rest with
          | t :: tail =>
              if t.isWord "ASC" then (Direction.ascending, tail)
              else if t.isWord "DESC" then (.descending, tail)
              else (.ascending, rest)
          | [] => (.ascending, [])
        let warnings := match rest with
          | [] => []
          | t :: _ =>
              if t.kind == .comma then [.furtherSortKeys name.value]
              else [.textAfterSortKey (sourceText text rest)]
        (some ⟨name.value, direction⟩, warnings)

/-- The greatest number of rows: a run of digits. -/
def readLimit (text : List Char) (tokens : List Token) :
    Except Fault (Warned (Option Nat)) :=
  match tokens with
  | [] => .ok (none, [.unclearLimit])
  | number :: rest =>
      let digits := number.value.toList
      if number.kind != .number || !digits.all Text.isDecimal then .ok (none, [.unclearLimit])
      else if integerDigitLimit < digits.length then
        .error (.integerTooLongToRead digits.length)
      else
        .ok (some (natOfDigits digits),
          if rest.isEmpty then [] else [.textAfterLimit (sourceText text rest)])

/-- What a clause is read as, if the query has it. -/
def readIfPresent {α : Type} (missing : α) (read : List Token → Warned α) :
    Option (List Token) → Warned α
  | none => (missing, [])
  | some tokens => read tokens

/-- The query the blocks of a text denote. -/
def queryOfBlocks (text : List Char) (blocks : List Block) : Except Fault Query := do
  let (projection, w₁) := readProjection text blocks
  let (source, w₂) := readIfPresent none (readSource text) (bodyOf? blocks .source)
  let (condition, w₃) := readIfPresent none (readCondition text) (bodyOf? blocks .condition)
  let (grouping, w₄) := readIfPresent [] readGrouping (bodyOf? blocks .grouping)
  let (order, w₅) := readIfPresent none (readOrder text) (bodyOf? blocks .order)
  let (limit, w₆) ← match bodyOf? blocks .limit with
    | none => pure (none, [])
    | some tokens => readLimit text tokens
  return {
    text := String.ofList text, projection, source, condition, grouping, order, limit
    warnings := cutWarnings blocks ++ w₁ ++ w₂ ++ w₃ ++ w₄ ++ w₅ ++ w₆ }

/-- The query a text denotes. -/
def Query.parse (text : String) : Except Fault Query :=
  let text := Text.strip text
  if text.isEmpty then .error .emptyQuery
  else
    let tokens := dropTerminators (tokenize text)
    match tokens with
    | [] => .error .notSelection
    | first :: _ =>
        if first.isWord "SELECT" then queryOfBlocks text.toList (cut tokens)
        else .error .notSelection

end JsonQuery
