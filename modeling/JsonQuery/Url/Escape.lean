import JsonQuery.Text.Basic

/-!
Percent escapes in URLs. Every part of a URL has its own set of characters that stand for
themselves; any other character is written as the bytes of its UTF-8 form. A percent sign
stands for itself, so text that is escaped already stays as it is.
-/

namespace JsonQuery

/-- A part of a URL with its own set of characters. -/
inductive UrlField where
  | userInfo
  | host
  | path
  | query
  | fragment
  deriving DecidableEq, Repr

namespace UrlField

/-- Characters that stand for themselves in every part. -/
def isUnreserved (c : Char) : Bool :=
  Text.isAsciiLetter c || Text.isAsciiDigit c || "-._~".toList.contains c

/-- The visible characters of ASCII that a part has to escape. A host is described by what
it may hold instead. -/
def escaped : UrlField → List Char
  | .fragment => "\"<>`".toList
  | .query => "\"#<>".toList
  | .path => "\"#<>?`\x7b\x7d".toList
  | .userInfo => "\"#<>?`\x7b\x7d/;=@[\\]^|".toList
  | .host => "#/:<>?@[]^".toList

/-- Whether a character stands for itself in a part. -/
def holds (field : UrlField) (c : Char) : Bool :=
  isUnreserved c || (33 ≤ c.toNat && c.toNat ≤ 126 && !field.escaped.contains c)

/-- A byte as an escape. -/
def escapeByte (b : UInt8) : List Char :=
  '%' :: (Text.hexadecimal 2 b.toNat).map Char.toUpper

/-- A text with the escapes that a part needs. -/
def escape (field : UrlField) (cs : List Char) : List Char :=
  cs.flatMap fun c =>
    if field.holds c then [c] else (String.utf8EncodeChar c).flatMap escapeByte

end UrlField

end JsonQuery
