import JsonQuery.Fetch.Access
import JsonQuery.Fetch.Response
import JsonQuery.Json.Nesting
import JsonQuery.Log.Entry
import JsonQuery.Url.Redirect
import JsonQuery.Value.Display

/-!
Fetching data: a permitted URL is requested, redirects are followed, and the answer has to
be JSON. The network is a function from URLs to replies, so a fetch is a pure function of
the settings, the network and the URL, and it answers every request that it sends.
-/

namespace JsonQuery

/-- What the network has to say to a request. -/
inductive Reply where
  | answer (response : Response)
  /-- Nothing came in time. -/
  | timeout
  /-- The connection failed; what is known about it. -/
  | failure (text : String)
  /-- The URL is none that can be requested; what is known about it. -/
  | refusal (text : String)

/-- The network: the reply to a request for a URL, given as it is printed. -/
abbrev Network := String → Reply

/-- A request that was sent. -/
structure Request where
  url : String
  userAgent : String
  deriving DecidableEq, Repr

/-- What came of sending requests: the URLs requested in order, and the last answer. -/
structure Exchange where
  urls : List String
  outcome : Except Fault Answer

/-- The most redirects that are followed. -/
def redirectLimit : Nat := 20

/-- Why a redirect is not followed any more. -/
def tooManyRedirects : FetchProblem := .noAnswer "Exceeded maximum allowed redirects."

/-- Whether the text of a URL names its kind before a colon. -/
def namesKind (url : List Char) : Bool :=
  match url.dropWhile fun c => c != '/' && c != ':' with
  | ':' :: _ => url.head? != some ':'
  | _ => false

/-- Requests a URL and follows redirects, as many as are left. -/
def follow (timeLimit : Except Fault String) (network : Network) :
    Nat → RequestUrl → Exchange
  | redirects, url =>
      let text := String.ofList url.print
      match network text with
      | .timeout => ⟨[text], .error (timeoutFault timeLimit)⟩
      | .failure reason => ⟨[text], .error (.fetch (.noAnswer reason))⟩
      | .refusal reason => ⟨[text], .error (.url (.refused reason))⟩
      | .answer response =>
          match response.receive with
          | .error fault => ⟨[text], .error fault⟩
          | .ok answer =>
              if !namesKind url.print then ⟨[text], .error (.unknownUrlKind text)⟩
              else match response.location? with
                | none => ⟨[text], .ok answer⟩
                | some location =>
                    match url.redirect location.toList with
                    | .error fault => ⟨[text], .error fault⟩
                    | .ok next =>
                        match redirects with
                        | 0 => ⟨[text], .error (.fetch tooManyRedirects)⟩
                        | left + 1 =>
                            let rest := follow timeLimit network left next
                            { rest with urls := text :: rest.urls }
where
  /-- Why no answer came in time; the time allowed has to be a number to be told. -/
  timeoutFault : Except Fault String → Fault
    | .ok seconds => .fetch (.timedOut seconds)
    | .error fault => fault

/-- The time allowed, as it is told. -/
def FetchSettings.timeLimit (s : FetchSettings) : Except Fault String :=
  match s.timeoutSeconds with
  | .number n =>
      match n.toFloat? with
      | some x => .ok (x.generalText 6)
      | none => .error .integerExceedsFloat
  | .bool b => .ok (if b then "1" else "0")
  | .string _ => .error .textAsNumber
  | v => .error (.wrongKind ("unsupported format string passed to " ++ v.kindWord ++ ".__format__"))

/-- The text of a header, which has to be ASCII. -/
def headerText (text : String) : Except Fault String :=
  match Text.Charset.ascii.unwritable? text with
  | none => .ok text
  | some place => .error (.unwritable place)

/-- The name the program gives itself in requests. -/
def FetchSettings.agent (s : FetchSettings) : Except Fault String :=
  match s.userAgent with
  | .string text => headerText text
  | v => .error (.wrongKind
      ("Header value must be str or bytes, not <class '" ++ v.kindWord ++ "'>"))

/-- The URL to request first. One without scheme or host is taken for a path. -/
def firstUrl (text : String) : Except Fault RequestUrl := Except.mapError Fault.url do
  let url ← RequestUrl.read text.toList
  if url.isRelative then
    let path : RequestUrl :=
      ⟨"", [], [], none, '/' :: url.path.dropWhile (· == '/'), url.query, none⟩
    match path.oversizedPart? with
    | some part => throw (.partTooLong part)
    | none => RequestUrl.ofText path.pieces none
  else return url

/-- Data that was fetched, with what the answer said about itself. -/
structure Fetched where
  data : Value
  status : Int
  headers : List (String × String)

/-- The data of an answer. -/
def Answer.data (a : Answer) : Except Fault Fetched :=
  let r := a.response
  if !r.isSuccess then .error (.fetch (.status r.status (statusPhrase r.status)))
  else if !Text.contains ((r.header? "content-type").getD "") "application/json" then
    .error (.fetch .notJson)
  else match (bodyText? a.content).map Json.readOutside with
    | some (.ok .null) => .error (.fetch .noValue)
    | some (.ok data) => .ok ⟨data, r.status, r.headerTable⟩
    | some (.error (.tooNested isObject)) => .error (.tooNested isObject)
    | _ => .error (.fetch .invalidJson)

/-- A fetch with everything that can be seen of it. The outcome is a fault when the fetch
broke off, and otherwise the data or why there is none. -/
structure Fetch where
  requests : List Request
  journal : Journal
  outcome : Except Fault (Except FetchProblem Fetched)

/-- Requests a permitted URL. Its host has to have a name, and is told in a header. -/
def sendRequest (settings : FetchSettings) (network : Network) (text : String) :
    List Request × Except Fault Answer :=
  let prepared := do
    let url ← firstUrl text
    let agent ← settings.agent
    let name ← Except.mapError Fault.label url.hostName
    if !name.isEmpty then
      let _ ← headerText (String.ofList url.address)
    return (url, agent)
  match prepared with
  | .error fault => ([], .error fault)
  | .ok (url, agent) =>
      let exchange := follow settings.timeLimit network redirectLimit url
      (exchange.urls.map (⟨·, agent⟩), exchange.outcome)

/-- What is reported of the outcome of a fetch. -/
def reportFetch (url : Value) (outcome : Except FetchProblem Fetched) : Journal :=
  match outcome with
  | .error problem => [.plain .error .requests
      ("API fetch error for " ++ url.plainDisplay ++ ": " ++ problem.message)]
  | .ok fetched => [.plain .info .requests
      ("Fetched " ++ url.plainDisplay ++ ": HTTP " ++ toString fetched.status)]

/-- Fetches the data of a URL. -/
def fetch (settings : FetchSettings) (network : Network) (url : Value) : Fetch :=
  match permittedUrl settings url with
  | .error (.fetch problem) => ⟨[], reportFetch url (.error problem), .ok (.error problem)⟩
  | .error fault => ⟨[], [], .error fault⟩
  | .ok text =>
      let started : LogEntry := .plain .debug .requests ("GET " ++ text)
      let (requests, received) := sendRequest settings network text
      match received.bind Answer.data with
      | .error (.fetch problem) =>
          ⟨requests, started :: reportFetch url (.error problem), .ok (.error problem)⟩
      | .error fault => ⟨requests, [started], .error fault⟩
      | .ok fetched => ⟨requests, started :: reportFetch url (.ok fetched), .ok (.ok fetched)⟩

end JsonQuery
