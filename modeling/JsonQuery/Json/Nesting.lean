import JsonQuery.Json.Reader

/-!
Reading JSON text from outside, which may be nested only so deep. Where a text opens one
array or object too many, nothing behind that place is read, so a mistake in front of it is
told and one behind it is not.
-/

namespace JsonQuery.Json

/-- The most arrays and objects that may lie within each other in a text from outside. -/
def nestingLimit : Nat := 980

/-- How far a scan for brackets has come. -/
structure NestingScan where
  offset : Nat
  /-- The number of levels that may still be opened. -/
  room : Nat
  inString : Bool

/-- The offset of the first bracket that opens a level too many, and whether it opens an
object. Brackets within strings do not count. -/
def overflow? (s : NestingScan) : List Char → Option (Nat × Bool)
  | [] => none
  | '\\' :: c :: rest =>
      if s.inString then overflow? { s with offset := s.offset + 2 } rest
      else overflow? { s with offset := s.offset + 1 } (c :: rest)
  | c :: rest =>
      let next := { s with offset := s.offset + 1 }
      if c == '"' then overflow? { next with inString := !s.inString } rest
      else if s.inString then overflow? next rest
      else if c == '[' || c == '\x7b' then
        match s.room with
        | 0 => some (s.offset, c == '\x7b')
        | left + 1 => overflow? { next with room := left } rest
      else if c == ']' || c == '\x7d' then overflow? { next with room := s.room + 1 } rest
      else overflow? next rest

/-- The value that a text from outside denotes. -/
def readOutside (text : String) : Except Fault Value :=
  match overflow? ⟨0, nestingLimit, false⟩ text.toList with
  | none => read text
  | some (offset, opensObject) =>
      match read (String.ofList (text.toList.take offset)) with
      | .error (.json .expectedValue position) =>
          if position.offset == offset then .error (.tooNested opensObject)
          else .error (.json .expectedValue position)
      | other => other

end JsonQuery.Json
