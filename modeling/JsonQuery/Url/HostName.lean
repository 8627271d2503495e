import JsonQuery.Fault
import JsonQuery.Text.Case
import JsonQuery.Url.Address
import JsonQuery.Url.Escape
import JsonQuery.Url.Label

/-!
Names of hosts as requests are sent to them: addresses are checked and kept, names are
written in lower case, and names beyond ASCII in the ASCII form of each of their labels. A
name in that form can be read back.
-/

namespace JsonQuery.HostName

/-- The full stops that part labels. -/
def isDot (c : Char) : Bool := [0x2E, 0x3002, 0xFF0E, 0xFF61].contains c.toNat

/-- The labels of a name, and whether a full stop ends it. -/
def cutLabels (name : List Char) : List HostLabel × Bool :=
  let labels := Text.splitOn '.' (name.map fun c => if isDot c then '.' else c)
  if labels.getLast? == some [] then (labels.dropLast, true) else (labels, false)

/-- The name of some labels. -/
def joinLabels (labels : List HostLabel) (stopped : Bool) : List Char :=
  ['.'].intercalate labels ++ (if stopped then ['.'] else [])

/-- The most characters of a name, the full stop that may end it apart. -/
def lengthLimit : Nat := 253

/-- A name beyond ASCII in ASCII, if it has such a form. -/
def encodeName? (name : List Char) : Option (List Char) := do
  let (labels, stopped) := cutLabels name
  let encoded ← labels.mapM HostLabel.encode?
  let text := joinLabels encoded stopped
  if encoded.isEmpty || lengthLimit + (if stopped then 1 else 0) < text.length then none
  else some text

/-- The name that a name in ASCII stands for. -/
def decodeName (name : List Char) : Except LabelProblem (List Char) := do
  if lengthLimit + 1 < name.length then throw .nameTooLong
  let (labels, stopped) := cutLabels name
  return joinLabels (← labels.mapM HostLabel.decode) stopped

/-- The name that a host is known by. Only a host whose first label is encoded is read
back. -/
def decode (host : List Char) : Except LabelProblem (List Char) :=
  if Text.startsWith HostLabel.encodedMark host then decodeName host else .ok host

/-- Whether a host stands in brackets. -/
def isBracketed (host : List Char) : Bool :=
  host.head? == some '[' && host.getLast? == some ']' && 2 ≤ host.length

/-- The host as a request is sent to it, without brackets. -/
def encode (host : List Char) : Except UrlProblem (List Char) :=
  if Address.looksFourPart host then
    if Address.isFourPart host then .ok host
    else .error (.fourPartAddress (String.ofList host))
  else if isBracketed host then
    let address := host.tail.dropLast
    if Address.isBracketable address then .ok address
    else .error (.bracketedAddress (String.ofList host))
  else if host.all (·.toNat < 128) then
    .ok (UrlField.host.escape (host.map Char.toLower))
  else
    match encodeName? (Text.lower (String.ofList host)).toList with
    | some name => .ok name
    | none => .error (.internationalName (String.ofList host))

end JsonQuery.HostName
