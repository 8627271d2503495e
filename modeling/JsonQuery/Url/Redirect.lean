import JsonQuery.Text.Encoding
import JsonQuery.Url.Request

/-!
Where a redirect leads. Its location is read as a URL of its own; what it leaves out is
taken from the URL that was requested, and a relative path starts where that one ends.
-/

namespace JsonQuery

namespace UrlParts

/-- The path of some parts up to the parameters of its last segment, and those. -/
def cutParameters (path : List Char) : List Char × List Char :=
  let (directory?, last) := Text.cutAtLast '/' path
  match Text.cutAt ';' last with
  | (_, none) => (path, [])
  | (segment, some parameters) =>
      (match directory? with
        | none => segment
        | some directory => directory ++ '/' :: segment, parameters)

/-- The text of some parts. -/
def print (p : UrlParts) : List Char :=
  let path := if p.path.isEmpty || p.path.head? == some '/' then p.path else '/' :: p.path
  (if p.scheme.isEmpty then [] else p.scheme.toList ++ [':']) ++ '/' :: '/' :: p.authority ++
    path ++ (if p.query.isEmpty then [] else '?' :: p.query) ++
    (if p.fragment.isEmpty then [] else '#' :: p.fragment)

/-- A path that starts at the directory of another path, without dots. -/
def joinPaths (base path : List Char) : List Char :=
  let own := Text.splitOn '/' path
  let segments :=
    if path.head? == some '/' then own
    else
      let directory := Text.splitOn '/' base
      let directory :=
        if directory.getLast? == some [] then directory else directory.dropLast
      match directory ++ own with
      | [] => []
      | first :: rest =>
          first :: (rest.dropLast.filter (!·.isEmpty) ++ rest.getLast?.toList)
  let resolved := segments.foldl (fun output segment =>
    if segment == ['.', '.'] then output.dropLast
    else if segment == ['.'] then output
    else output ++ [segment]) []
  let last := segments.getLast?
  let resolved :=
    if last == some ['.'] || last == some ['.', '.'] then resolved ++ [[]] else resolved
  let joined := ['/'].intercalate resolved
  if joined.isEmpty then ['/'] else joined

/-- Schemes whose URLs may be relative to each other. -/
def hierarchicalSchemes : List String := [
  "", "ftp", "http", "gopher", "nntp", "imap", "wais", "file", "https", "shttp", "mms",
  "prospero", "rtsp", "rtsps", "rtspu", "sftp", "svn", "svn+ssh", "ws", "wss"]

/-- A path with the parameters of its last segment, if there are any. -/
def withParameters (path parameters : List Char) : List Char :=
  if parameters.isEmpty then path else path ++ ';' :: parameters

/-- The text of a URL that may leave out what it has in common with another one. -/
def join (base target : UrlParts) : Option (List Char) :=
  let scheme := if target.scheme.isEmpty then base.scheme else target.scheme
  let (path, parameters) := cutParameters target.path
  let (basePath, baseParameters) := cutParameters base.path
  if scheme != base.scheme || !hierarchicalSchemes.contains scheme then none
  else if !target.authority.isEmpty then
    some (print ⟨scheme, target.authority, withParameters path parameters, target.query,
      target.fragment⟩)
  else if path.isEmpty && parameters.isEmpty then
    let query := if target.query.isEmpty then base.query else target.query
    some (print ⟨scheme, base.authority, withParameters basePath baseParameters, query,
      target.fragment⟩)
  else
    some (print ⟨scheme, base.authority, withParameters (joinPaths basePath path) parameters,
      target.query, target.fragment⟩)

end UrlParts

namespace RequestUrl

/-- The URL that a relative one denotes beside this one. Both have to be in order as URLs
with parts that may be missing. -/
def join (base target : RequestUrl) : Except Fault RequestUrl := do
  let text ←
    if base.print.isEmpty then pure target.print
    else if target.print.isEmpty then pure base.print
    else Except.mapError Fault.authority do
      let baseParts ← UrlParts.ofText (String.ofList base.print)
      let targetParts ← UrlParts.ofText (String.ofList target.print)
      return (UrlParts.join baseParts targetParts).getD target.print
  Except.mapError Fault.url (read text)

/-- A text whose escapes are undone. Bytes that are no character leave a mark in their
place. -/
def unescape (cs : List Char) : List Char :=
  (Text.decodeUtf8 false (bytes cs)).map (·.getD (Char.ofNat 0xFFFD))
where
  /-- The bytes a text stands for. -/
  bytes : List Char → List UInt8
    | [] => []
    | '%' :: a :: b :: rest =>
        match Text.hexDigitValue? a, Text.hexDigitValue? b with
        | some high, some low => UInt8.ofNat (16 * high + low) :: bytes rest
        | _, _ => String.utf8EncodeChar '%' ++ bytes (a :: b :: rest)
    | c :: rest => String.utf8EncodeChar c ++ bytes rest

/-- The URL with the fragment of another one, unless it has its own. -/
def keepFragment (u : RequestUrl) (fragment : Option (List Char)) :
    Except UrlProblem RequestUrl :=
  match fragment with
  | none | some [] => .ok u
  | some kept =>
      if !(u.fragment.getD []).isEmpty then .ok u
      else
        let plain := unescape kept
        let changed := { u with fragment := some plain }
        match changed.oversizedPart?, plain.findIdx? isControl with
        | some part, _ => .error (.partTooLong part)
        | none, some position =>
            .error (.unprintableFragment (plain.getD position ' ') position)
        | none, none => ofText changed.pieces none

/-- The name that the host is known by. -/
def hostName (u : RequestUrl) : Except LabelProblem (List Char) := HostName.decode u.host

/-- The URL with the host of another one, by the name that host is known by. -/
def withHostOf (u other : RequestUrl) : Except Fault RequestUrl := do
  let name ← Except.mapError Fault.label other.hostName
  Except.mapError Fault.url do
    match u.oversizedPart? with
    | some part => throw (.partTooLong part)
    | none => ofText u.pieces (some (bracketed name))

/-- The URL that a location leads to from this one. A location that is no URL makes the
answer unusable. Names of hosts in ASCII have to stand for others. -/
def redirect (u : RequestUrl) (location : List Char) : Except Fault RequestUrl :=
  match read location with
  | .error problem =>
      .error (.fetch (.noAnswer ("Invalid URL in location header: " ++ problem.message ++ ".")))
  | .ok target => do
      let target ←
        if target.scheme.isEmpty then pure target
        else do
          let name ← Except.mapError Fault.label target.hostName
          if name.isEmpty then target.withHostOf u else pure target
      let target ← if target.isRelative then u.join target else pure target
      let target ← Except.mapError Fault.url (target.keepFragment u.fragment)
      let _ ← Except.mapError Fault.label target.hostName
      return target

end RequestUrl

end JsonQuery
