import JsonQuery.Sql.Lexeme
import JsonQuery.Text.Literal

/-!
Tokens: the lexemes that matter to a query, with quotes removed and phrases cut into
their words. White space and remarks make no token, and every other lexeme makes one
token, or one for each of its words.
-/

namespace JsonQuery.Sql

/-- The kinds of token the grammar tells apart. -/
inductive TokenKind where
  | word
  | string
  | quotedName
  | number
  | operator
  | star
  | comma
  | leftParen
  | rightParen
  | other
  deriving DecidableEq, Repr

/-- The name under which a kind of token is shown. -/
def TokenKind.name : TokenKind → String
  | .word => "word"
  | .string => "string"
  | .quotedName => "quoted_name"
  | .number => "number"
  | .operator => "operator"
  | .star => "star"
  | .comma => "comma"
  | .leftParen => "lparen"
  | .rightParen => "rparen"
  | .other => "other"

/-- A token with the place of its lexeme, or of its word, in the text. The value of a
quoted token is what its quotes enclose; any other value is the text itself. -/
structure Token where
  kind : TokenKind
  value : String
  start : Nat
  stop : Nat
  deriving DecidableEq, Repr

namespace Token

/-- The value in upper case. -/
def upper (t : Token) : String := Text.upper t.value

/-- Whether the token is a bare word. -/
def isBare (t : Token) : Bool := t.kind == .word

/-- Whether the token is the bare word given in capitals, in any case of letters. -/
def isWord (t : Token) (word : String) : Bool := t.isBare && t.upper == word

/-- Whether the token can name a column or a table. -/
def isName (t : Token) : Bool := t.kind == .word || t.kind == .quotedName

/-- Whether the token was quoted. -/
def isQuoted (t : Token) : Bool := t.kind == .string || t.kind == .quotedName

/-- The token as shown in a description. -/
def describe (t : Token) : String := "Token(" ++ t.kind.name ++ ", " ++ Text.literal t.value ++ ")"

end Token

/-- The characters with each doubled quote written once. -/
def undouble (quote : Char) : List Char → List Char
  | [] => []
  | [c] => [c]
  | c :: d :: rest =>
      if c == quote && d == quote then c :: undouble quote rest
      else c :: undouble quote (d :: rest)

/-- What the quotes around a text enclose; a text that is not closed stays as it is. -/
def unquote (raw : List Char) : List Char :=
  match raw with
  | quote :: rest =>
      if rest.getLast? == some quote then undouble quote rest.dropLast else raw
  | [] => []

/-- The token of a quoted text: single quotes make a string, all others a name. -/
def quotedToken (raw : List Char) (start : Nat) : Token :=
  let kind := if raw.head? == some '\'' then .string else .quotedName
  ⟨kind, String.ofList (unquote raw), start, start + raw.length⟩

/-- One token for each word of a text, `word` holding the characters of the word under
way in reverse and `start` counting the characters read. -/
def splitWords (word : List Char) (start : Nat) : List Char → List Token
  | [] => if word.isEmpty then [] else [close word start]
  | c :: cs =>
      if Text.isBlank c then
        if word.isEmpty then splitWords [] (start + 1) cs
        else close word start :: splitWords [] (start + 1) cs
      else splitWords (c :: word) (start + 1) cs
where
  /-- The token of a word that ends where `stop` characters have been read. -/
  close (word : List Char) (stop : Nat) : Token :=
    ⟨.word, String.ofList word.reverse, stop - word.length, stop⟩

/-- The kind of a punctuation token. -/
def punctuationKind : List Char → TokenKind
  | [','] => .comma
  | ['('] => .leftParen
  | [')'] => .rightParen
  | _ => .other

/-- The tokens a lexeme makes. -/
def Lexeme.tokens (l : Lexeme) : List Token :=
  let whole (kind : TokenKind) : List Token :=
    [⟨kind, String.ofList l.raw, l.start, l.start + l.raw.length⟩]
  match l.kind with
  | .space => []
  | .remark => []
  | .star => whole .star
  | .quoted => [quotedToken l.raw l.start]
  | .number => whole .number
  | .punctuation => whole (punctuationKind l.raw)
  | .words => splitWords [] l.start l.raw
  | .markedName => whole .word
  | .operator => whole .operator
  | .other => whole .other

/-- The tokens of a text, in order. -/
def tokenize (text : String) : List Token := (lexemes text.toList).flatMap Lexeme.tokens

end JsonQuery.Sql
