import JsonQuery.Log.Placeholder
import JsonQuery.Value.Display

/-!
Messages made from a template and its arguments. Without arguments the template is the
message. Otherwise the placeholders take the arguments in turn, or find them by name when
the only argument is an object; a message that would lack an argument, have one left over
or write one as something that it is not cannot be made.
-/

namespace JsonQuery

/-- Arguments of a template. -/
structure Arguments where
  /-- What placeholders with a name look into. -/
  named : Option Record
  /-- The arguments whose turn is still to come. -/
  queue : List Value

/-- A list of arguments. Members can be found by name when a single object is given. -/
def Arguments.ofList : List Value → Arguments
  | [.object (member :: members)] =>
      ⟨some (member :: members), [.object (member :: members)]⟩
  | values => ⟨none, values⟩

/-- What takes arguments and may find that it cannot. -/
abbrev Filling := StateT Arguments Option

namespace Filling

/-- The argument whose turn it is. -/
def next : Filling Value := fun args =>
  match args.queue with
  | [] => none
  | v :: rest => some (v, { args with queue := rest })

/-- Makes it the turn of the member with a name. -/
def turnTo (name : String) : Filling Unit := fun args => do
  let v ← Record.get? (← args.named) name
  return ((), { args with queue := [v] })

/-- The greatest width of a placeholder. -/
def widthLimit : Nat := powerOfTwo 31 - 1

/-- A width or precision, if there is one. It may come from an argument that is an integer. -/
def extent : Option Extent → Filling (Option Int)
  | none => return none
  | some (.count n) => bounded n
  | some .argument => do
      match ← next with
      | .number (.int n) => bounded n
      | .bool b => return some (if b then 1 else 0)
      | _ => failure
where
  /-- A width or precision that is not beyond the limit. -/
  bounded (n : Int) : Filling (Option Int) :=
    if n.natAbs ≤ widthLimit then return some n else failure

end Filling

/-- An argument written out, before it is filled up to a width. -/
inductive WrittenArgument where
  | text (cs : List Char)
  /-- A number: its sign, the marker of its base and its digits. -/
  | numeral (negative : Bool) (marker digits : List Char)

namespace WrittenArgument

/-- An integer in digits of a base, of which there are at least as many as the precision
says. -/
def ofInt (base : Nat) (marker : List Char) (precision : Option Nat) (n : Int) :
    WrittenArgument :=
  .numeral (n < 0) marker (Text.padLeft (precision.getD 0) '0' (Nat.toDigits base n.natAbs))

/-- A number filled up on the left with zeros, or a text with spaces on either side. -/
def fill (flags : List Char) (width : Nat) : WrittenArgument → List Char
  | .text cs => if flags.contains '-' then Text.padRight width cs else Text.padLeft width ' ' cs
  | .numeral negative marker digits =>
      let sign := if negative then ['-'] else if flags.contains '+' then ['+']
        else if flags.contains ' ' then [' '] else []
      let start := sign ++ marker
      if flags.contains '-' then Text.padRight width (start ++ digits)
      else if flags.contains '0' then start ++ Text.padLeft (width - start.length) '0' digits
      else Text.padLeft width ' ' (start ++ digits)

end WrittenArgument

/-- The integer that an argument is, or is cut down to. -/
def Value.integer? : Value → Option Int
  | .number (.int n) => if Value.integerFits n then some n else none
  | .number (.float (.finite negative units)) =>
      some (Binary64.signedUnits negative (units / Binary64.unitsPerOne))
  | .bool b => some (if b then 1 else 0)
  | _ => none

/-- The integer that an argument is. -/
def Value.exactInteger? : Value → Option Int
  | .number (.int n) => some n
  | .bool b => some (if b then 1 else 0)
  | _ => none

/-- The double-precision number that an argument is, or comes nearest to. -/
def Value.float? : Value → Option Binary64
  | .number n => n.toFloat?
  | .bool b => some (if b then .finite false Binary64.unitsPerOne else .zero)
  | _ => none

/-- The single character that an argument is, or is the code of. -/
def Value.character? (v : Value) : Option Char :=
  match v with
  | .string s =>
      match s.toList with
      | [c] => some c
      | _ => none
  | v => do
      let code ← v.exactInteger?
      if 0 ≤ code && code.toNat < 0x110000 then return Text.charOf code.toNat else none

/-- Digits with a point among or behind them. -/
def withPoint (cs : List Char) : List Char :=
  if cs.contains '.' then cs
  else cs.takeWhile (· != 'e') ++ '.' :: cs.dropWhile (· != 'e')

/-- A magnitude in fixed, general or exponent form. The alternative form always has a
point, and keeps the zeros that the general form drops. -/
def magnitudeDigits (c : Conversion) (alternative : Bool) (precision units : Nat) : List Char :=
  let digits := match c with
    | .exponent _ => DecimalLayout.scientific.write (Decimal.filled (precision + 1) units)
    | .general _ =>
        let count := max 1 precision
        let d := if alternative then Decimal.filled count units
          else if units == 0 then Decimal.zero else Decimal.rounded count units
        (DecimalLayout.general count).write d
    | _ => Binary64.fixedDigits precision units
  if alternative then withPoint digits else digits

/-- A number in fixed, general or exponent form, with six places unless a precision is
given. -/
def writtenFloat (c : Conversion) (upper alternative : Bool) (precision : Option Nat)
    (x : Binary64) : WrittenArgument :=
  let (negative, digits) := match x with
    | .nan | .spelledNan => (false, ['n', 'a', 'n'])
    | .infinite negative => (negative, ['i', 'n', 'f'])
    | .finite negative units =>
        (negative, magnitudeDigits c alternative (precision.getD 6) units)
  .numeral negative [] (if upper then digits.map Char.toUpper else digits)

/-- An argument as the given conversion writes it. -/
def writtenArgument (c : Conversion) (alternative : Bool) (precision : Option Nat) (v : Value) :
    Option WrittenArgument :=
  let cut (cs : List Char) : WrittenArgument := .text (cs.take (precision.getD cs.length))
  let marker (letter : Char) := if alternative then ['0', letter] else []
  match c with
  | .display => v.display.toOption.map fun s => cut s.toList
  | .description => if v.integersFit then some (cut v.describe.toList) else none
  | .asciiDescription =>
      if v.integersFit then some (cut (Text.escapeBeyondAscii v.describe.toList)) else none
  | .character => v.character?.map fun ch => .text [ch]
  | .integer => v.integer?.map (.ofInt 10 [] precision)
  | .octal => v.exactInteger?.map (.ofInt 8 (marker 'o') precision)
  | .hexadecimal upper => v.exactInteger?.map fun n =>
      match WrittenArgument.ofInt 16 (marker (if upper then 'X' else 'x')) precision n with
      | .numeral negative start digits =>
          .numeral negative start (if upper then digits.map Char.toUpper else digits)
      | other => other
  | .exponent upper | .fixed upper | .general upper =>
      v.float?.map (writtenFloat c upper alternative precision)

/-- A placeholder with its argument written into it. A negative width stands for its
opposite on the left, and a negative precision for none of anything. -/
def Placeholder.fill (p : Placeholder) : Filling (List Char) := do
  match p.name with
  | none => pure ()
  | some name => Filling.turnTo name
  let width ← Filling.extent p.width
  let precision := (← Filling.extent p.precision).map Int.toNat
  let v ← Filling.next
  let written ← (writtenArgument p.conversion (p.flags.contains '#') precision v : Option _)
  let flags := if width.any (· < 0) then '-' :: p.flags else p.flags
  return written.fill flags (width.getD 0).natAbs

/-- A template with its arguments written into it. -/
def fillTemplate : List TemplatePart → Filling (List Char)
  | [] => return []
  | .text c :: parts => return c :: (← fillTemplate parts)
  | .placeholder p :: parts => do
      let written ← p.fill
      return written ++ (← fillTemplate parts)

/-- The message made from a template and its arguments, if they fit. -/
def makeMessage? (template : String) (arguments : List Value) : Option String := do
  if arguments.isEmpty then return template
  let parts ← templateParts template.toList
  let (message, rest) ← (fillTemplate parts).run (.ofList arguments)
  if rest.named.isNone && !rest.queue.isEmpty then none
  else return String.ofList message

end JsonQuery
