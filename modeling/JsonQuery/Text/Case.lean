import JsonQuery.Text.CaseTable

/-!
Upper case, lower case and case folding of whole texts. One character may become
several, and the lower case of a capital sigma depends on whether it ends a word;
everything else is decided character by character.
-/

namespace JsonQuery.Text

/-- The image of a character under the first run that moves it. -/
def CaseRun.image? (runs : List CaseRun) (c : Char) : Option Char :=
  (runs.find? fun run => run.moves c.toNat).map fun run =>
    Char.ofNat ((c.toNat : Int) + run.offset).toNat

/-- The characters a table lists for this one. -/
def expansion? (table : List (Nat × List Nat)) (c : Char) : Option (List Char) :=
  (table.lookup c.toNat).map fun codes => codes.map Char.ofNat

/-- One character in upper case. -/
def upperChar (c : Char) : List Char :=
  if c.toNat < 128 then [c.toUpper]
  else match expansion? upperExpansions c with
    | some image => image
    | none => [(CaseRun.image? upperRuns c).getD c]

/-- One character in lower case, away from a word's end. -/
def lowerChar (c : Char) : List Char :=
  if c.toNat < 128 then [c.toLower]
  else match expansion? lowerExpansions c with
    | some image => image
    | none => [(CaseRun.image? lowerRuns c).getD c]

/-- One character folded for comparison without regard to case. -/
def foldChar (c : Char) : List Char :=
  if c.toNat < 128 then [c.toLower]
  else match expansion? foldExceptions c with
    | some image => image
    | none => lowerChar c

private def isCased (c : Char) : Bool := CodeRange.anyContains casedRanges c

private def isCaseIgnorable (c : Char) : Bool := CodeRange.anyContains caseIgnorableRanges c

/-- Whether the nearest character that is not passed over is a letter with case. -/
private def meetsCased (chars : List Char) : Bool :=
  match chars.dropWhile isCaseIgnorable with
  | [] => false
  | c :: _ => isCased c

/-- Lower case of a text whose characters before it are given in reverse. A capital
sigma that ends a word becomes the final form. -/
private def lowerAfter (before : List Char) : List Char → List Char
  | [] => []
  | c :: rest =>
      (if c == 'Σ' then
        [if meetsCased before && !meetsCased rest then 'ς' else 'σ']
      else lowerChar c) ++ lowerAfter (c :: before) rest

/-- The text in upper case. -/
def upper (s : String) : String := String.ofList (s.toList.flatMap upperChar)

/-- The text in lower case. -/
def lower (s : String) : String := String.ofList (lowerAfter [] s.toList)

/-- The text folded for comparison without regard to case. -/
def fold (s : String) : String := String.ofList (s.toList.flatMap foldChar)

end JsonQuery.Text
