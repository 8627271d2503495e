import JsonQuery.Fault

/-!
What is written where output goes to no terminal: lines without the sequences that set
colours and move the cursor, up to the first one that cannot be written.
-/

namespace JsonQuery

/-- Whether a character may stand between the beginning and the letter at the end of a
control sequence. -/
def isSequenceParameter (c : Char) : Bool := c == ';' || c == '?' || Text.isAsciiDigit c

/-- The characters without control sequences. What may be the beginning of one is held
back, in reverse, until it is decided. -/
def dropSequences : List Char → List Char → List Char
  | held, [] => held.reverse
  | held, c :: rest =>
      if c == '\x1b' then held.reverse ++ dropSequences [c] rest
      else match held with
        | [] => c :: dropSequences [] rest
        | [_] => if c == '[' then dropSequences (c :: held) rest
            else held.reverse ++ c :: dropSequences [] rest
        | _ =>
            if isSequenceParameter c then dropSequences (c :: held) rest
            else if Text.isAsciiLetter c then dropSequences [] rest
            else held.reverse ++ c :: dropSequences [] rest

/-- A line without control sequences. -/
def plainLine (line : String) : String := String.ofList (dropSequences [] line.toList)

/-- The lines that are written one after the other, and the fault of the one that cannot
be. -/
def writtenLines : List String → List String × Option Fault
  | [] => ([], none)
  | line :: rest =>
      match Text.Charset.utf8.unwritable? (plainLine line) with
      | some place => ([], some (.unwritable place))
      | none =>
          let (lines, fault?) := writtenLines rest
          (line :: lines, fault?)

/-- Everything that is written for some lines. -/
def consoleText (lines : List String) : String :=
  String.join (lines.map fun line => plainLine line ++ "\n")

end JsonQuery
