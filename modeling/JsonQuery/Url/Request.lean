import JsonQuery.Url.HostName
import JsonQuery.Url.Parts

/-!
URLs as requests are sent to them. Scheme and host are in lower case, a port is written
only where it is not the usual one, dots in the path are resolved, and every part is
escaped. A URL of this kind may also be relative, as a redirect may give it.
-/

namespace JsonQuery

/-- A URL that a request can be sent to. The host is written without brackets. -/
structure RequestUrl where
  scheme : String
  userInfo : List Char
  host : List Char
  port : Option Int
  path : List Char
  query : Option (List Char)
  fragment : Option (List Char)
  deriving DecidableEq, Repr

/-- A URL cut at its delimiters, before anything in it is judged. -/
structure UrlText where
  scheme : List Char
  authority : List Char
  path : List Char
  query : Option (List Char)
  fragment : Option (List Char)
  deriving DecidableEq, Repr

namespace UrlText

/-- The scheme and what follows its colon. -/
def cutScheme (cs : List Char) : List Char × List Char :=
  match Text.cutAt ':' cs with
  | (scheme, some rest) =>
      let sound := match scheme with
        | [] => true
        | c :: name => Text.isAsciiLetter c && name.all UrlParts.isSchemeChar
      if sound then (scheme, rest) else ([], cs)
  | _ => ([], cs)

/-- The pieces of a text. Every text has them. -/
def ofChars (cs : List Char) : UrlText :=
  let (scheme, afterScheme) := cutScheme cs
  let (authority, afterAuthority) := UrlParts.cutAuthority afterScheme
  let (beforeFragment, fragment) := Text.cutAt '#' afterAuthority
  let (path, query) := Text.cutAt '?' beforeFragment
  ⟨scheme, authority, path, query, fragment⟩

/-- The host of an authority, with its brackets, and what follows it. -/
def cutHost (address : List Char) : List Char × List Char :=
  match address, Text.cutAtLast ']' address with
  | '[' :: _, (some bracketed, rest) => (bracketed ++ [']'], rest)
  | _, _ => (address.takeWhile (· != ':'), address.dropWhile (· != ':'))

end UrlText

namespace RequestUrl

/-- The port that a scheme has when none is written. -/
def usualPort? (scheme : List Char) : Option Int :=
  [("ftp", 21), ("http", 80), ("https", 443), ("ws", 80), ("wss", 443)].lookup
    (String.ofList scheme)

/-- The port that has to be written, if the text is a port at all. -/
def portOf (scheme text : List Char) : Except UrlProblem (Option Int) :=
  if text.isEmpty then .ok none
  else match intOfText? (String.ofList text) with
    | none => .error (.port (String.ofList text))
    | some port => .ok (if usualPort? scheme == some port then none else some port)

/-- The segments of a path with the dots resolved. -/
def resolveDots (segments : List (List Char)) : List (List Char) :=
  segments.foldl (fun output segment =>
    if segment == ['.'] then output
    else if segment == ['.', '.'] then
      if output == [] || output == [[]] then output else output.dropLast
    else output ++ [segment]) []

/-- A path without the segments that only lead through the tree. -/
def normalizePath (path : List Char) : List Char :=
  let segments := Text.splitOn '/' path
  if segments.contains ['.'] || segments.contains ['.', '.'] then
    ['/'].intercalate (resolveDots segments)
  else path

/-- Why a path cannot follow what stands before it. -/
def pathProblem? (hasScheme hasAuthority : Bool) (path : List Char) : Option UrlProblem :=
  if hasAuthority then
    if path.isEmpty || path.head? == some '/' then none else some .detachedPath
  else if hasScheme then none
  else if Text.startsWith ['/', '/'] path then some .doubleSlash
  else if path.head? == some ':' then some .leadingColon
  else none

/-- The URL of some pieces. A host that is given takes the place of the one written. -/
def ofText (t : UrlText) (otherHost : Option (List Char)) : Except UrlProblem RequestUrl := do
  let (userInfo?, address) := Text.cutAtLast '@' t.authority
  let (written, afterHost) := UrlText.cutHost address
  let host ← HostName.encode (otherHost.getD written)
  let portText := match afterHost with
    | ':' :: rest => rest
    | rest => rest
  let port ← portOf t.scheme portText
  let userInfo := UrlField.userInfo.escape (userInfo?.getD [])
  let hasScheme := !t.scheme.isEmpty
  let hasAuthority := !userInfo.isEmpty || !host.isEmpty || port.isSome
  match pathProblem? hasScheme hasAuthority t.path with
  | some problem => .error problem
  | none =>
      let path := if hasScheme || hasAuthority then normalizePath t.path else t.path
      return ⟨String.ofList (t.scheme.map Char.toLower), userInfo, host, port,
        UrlField.path.escape path, t.query.map UrlField.query.escape,
        t.fragment.map UrlField.fragment.escape⟩

/-- The most characters a URL may have. -/
def lengthLimit : Nat := 65536

/-- Control characters of ASCII. -/
def isControl (c : Char) : Bool := c.toNat < 32 || c.toNat == 127

/-- The URL a text denotes. -/
def read (cs : List Char) : Except UrlProblem RequestUrl :=
  if lengthLimit < cs.length then .error .tooLong
  else match cs.findIdx? isControl with
    | some position => .error (.unprintable (cs.getD position ' ') position)
    | none => ofText (UrlText.ofChars cs) none

/-- A host as it is written in an authority. -/
def bracketed (host : List Char) : List Char :=
  if host.contains ':' then '[' :: host ++ [']'] else host

/-- The host as it is written in an authority. -/
def hostText (u : RequestUrl) : List Char := bracketed u.host

/-- Host and port. -/
def address (u : RequestUrl) : List Char :=
  u.hostText ++
    match u.port with
    | none => []
    | some port => ':' :: (toString port).toList

/-- User, host and port. -/
def authority (u : RequestUrl) : List Char :=
  (if u.userInfo.isEmpty then [] else u.userInfo ++ ['@']) ++ u.address

/-- The text of the URL. -/
def print (u : RequestUrl) : List Char :=
  (if u.scheme.isEmpty then [] else u.scheme.toList ++ [':']) ++
    (if u.authority.isEmpty then [] else '/' :: '/' :: u.authority) ++ u.path ++
    (match u.query with | none => [] | some query => '?' :: query) ++
    match u.fragment with | none => [] | some fragment => '#' :: fragment

/-- The pieces that the URL is written with. -/
def pieces (u : RequestUrl) : UrlText :=
  ⟨u.scheme.toList, u.authority, u.path, u.query, u.fragment⟩

/-- The first part of a URL that is too long to be put together with others. -/
def oversizedPart? (u : RequestUrl) : Option String :=
  let parts := [("authority", u.authority), ("path", u.path), ("query", u.query.getD []),
    ("fragment", u.fragment.getD [])]
  (parts.find? fun part => lengthLimit < part.2.length).map (·.1)

/-- Whether scheme or host have to be taken from elsewhere. -/
def isRelative (u : RequestUrl) : Bool := u.scheme.isEmpty || u.host.isEmpty

end RequestUrl

end JsonQuery
