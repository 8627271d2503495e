import JsonQuery.Text.Literal

/-!
Texts that have to be written as bytes, and what keeps one from being written: headers are
written in ASCII, files and tables in UTF-8, and neither can write every text.
-/

namespace JsonQuery.Text

/-- A way to write texts as bytes. -/
inductive Charset where
  | ascii
  | utf8
  deriving DecidableEq, Repr

namespace Charset

/-- The name of a charset. -/
def name : Charset → String
  | .ascii => "ascii"
  | .utf8 => "utf-8"

/-- Whether a character can be written. -/
def holds : Charset → Char → Bool
  | .ascii, c => c.toNat < 128
  | .utf8, c => !isHalf c

/-- Why a character cannot be written. -/
def reason : Charset → String
  | .ascii => "ordinal not in range(128)"
  | .utf8 => "surrogates not allowed"

end Charset

/-- Where a text cannot be written: the first character in question, its place, and how many
of them follow each other there. -/
structure Unwritable where
  charset : Charset
  first : Char
  position : Nat
  count : Nat
  deriving DecidableEq, Repr

/-- The first place at which a text cannot be written. -/
def Charset.unwritable? (charset : Charset) (s : String) : Option Unwritable :=
  let readable := s.toList.takeWhile charset.holds
  match s.toList.drop readable.length with
  | [] => none
  | c :: rest =>
      some ⟨charset, c, readable.length, 1 + (rest.takeWhile (!charset.holds ·)).length⟩

/-- The wording for a place at which a text cannot be written. -/
def Unwritable.message (u : Unwritable) : String :=
  "'" ++ u.charset.name ++ "' codec can't encode " ++
    (if u.count == 1 then
      "character '" ++ String.ofList (escapeCode u.first) ++ "' in position " ++
        toString u.position
    else "characters in position " ++ toString u.position ++ "-" ++
      toString (u.position + u.count - 1)) ++
    ": " ++ u.charset.reason

end JsonQuery.Text
