import JsonQuery.Text.Basic

/-!
Texts written as quoted literals, the way they are shown inside a description of
a token, a query or a setting. Single quotes delimit the literal unless only double
quotes can do so without an escape; characters with no visible form are escaped by
their code point in two, four or eight hexadecimal digits.
-/

namespace JsonQuery.Text

/-- A character written by its code point, in two, four or eight hexadecimal digits. -/
def escapeCode (c : Char) : List Char :=
  let code := codeOf c
  if code < 0x100 then '\\' :: 'x' :: hexadecimal 2 code
  else if code < 0x10000 then '\\' :: 'u' :: hexadecimal 4 code
  else '\\' :: 'U' :: hexadecimal 8 code

/-- One character inside a literal with the given delimiter. -/
def escapeInLiteral (quote c : Char) : List Char :=
  if c == quote || c == '\\' then ['\\', c]
  else if c == '\n' then ['\\', 'n']
  else if c == '\r' then ['\\', 'r']
  else if c == '\t' then ['\\', 't']
  else if isPrintable c then [c]
  else escapeCode c

/-- The characters with every one beyond ASCII written by its code point. -/
def escapeBeyondAscii (cs : List Char) : List Char :=
  cs.flatMap fun c => if c.toNat < 128 then [c] else escapeCode c

/-- The delimiter of a literal: double quotes exactly when the text holds single
quotes and no double ones. -/
def literalQuote (cs : List Char) : Char :=
  if cs.contains '\'' && !cs.contains '"' then '"' else '\''

/-- The text as a quoted literal. -/
def literal (s : String) : String :=
  let quote := literalQuote s.toList
  String.ofList (quote :: s.toList.flatMap (escapeInLiteral quote) ++ [quote])

end JsonQuery.Text
