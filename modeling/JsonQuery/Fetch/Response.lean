import JsonQuery.Compression.Envelope
import JsonQuery.Fault
import JsonQuery.Text.Case
import JsonQuery.Text.Encoding

/-!
What a server answers to a request: a status, headers and a body of bytes. Headers are ASCII,
and they may say that the body is compressed. The content of a JSON answer says by its first
bytes how its text is encoded.
-/

namespace JsonQuery

/-- The registered phrases of status codes. -/
def statusPhrases : List (Int × String) := [
  (100, "Continue"), (101, "Switching Protocols"), (102, "Processing"), (103, "Early Hints"),
  (200, "OK"), (201, "Created"), (202, "Accepted"), (203, "Non-Authoritative Information"),
  (204, "No Content"), (205, "Reset Content"), (206, "Partial Content"), (207, "Multi-Status"),
  (208, "Already Reported"), (226, "IM Used"), (300, "Multiple Choices"),
  (301, "Moved Permanently"), (302, "Found"), (303, "See Other"), (304, "Not Modified"),
  (305, "Use Proxy"), (307, "Temporary Redirect"), (308, "Permanent Redirect"),
  (400, "Bad Request"), (401, "Unauthorized"), (402, "Payment Required"), (403, "Forbidden"),
  (404, "Not Found"), (405, "Method Not Allowed"), (406, "Not Acceptable"),
  (407, "Proxy Authentication Required"), (408, "Request Timeout"), (409, "Conflict"),
  (410, "Gone"), (411, "Length Required"), (412, "Precondition Failed"),
  (413, "Request Entity Too Large"), (414, "Request-URI Too Long"),
  (415, "Unsupported Media Type"), (416, "Requested Range Not Satisfiable"),
  (417, "Expectation Failed"), (418, "I'm a teapot"), (421, "Misdirected Request"),
  (422, "Unprocessable Entity"), (423, "Locked"), (424, "Failed Dependency"), (425, "Too Early"),
  (426, "Upgrade Required"), (428, "Precondition Required"), (429, "Too Many Requests"),
  (431, "Request Header Fields Too Large"), (451, "Unavailable For Legal Reasons"),
  (500, "Internal Server Error"), (501, "Not Implemented"), (502, "Bad Gateway"),
  (503, "Service Unavailable"), (504, "Gateway Timeout"), (505, "HTTP Version Not Supported"),
  (506, "Variant Also Negotiates"), (507, "Insufficient Storage"), (508, "Loop Detected"),
  (510, "Not Extended"), (511, "Network Authentication Required")]

/-- The phrase of a status code, empty if none is registered. -/
def statusPhrase (code : Int) : String := (statusPhrases.lookup code).getD ""

/-- An answer to a request. -/
structure Response where
  status : Int
  headers : List (String × String)
  body : List UInt8

namespace Response

/-- The headers with names in lower case. Equal names are one header, whose values stand
in order with commas between them, and the length of a body is always told. -/
def headerTable (r : Response) : List (String × String) :=
  let given := r.headers.map fun (name, value) => (Text.lower name, value)
  let given :=
    if r.body.isEmpty || given.any (·.1 == "content-length") then given
    else given ++ [("content-length", toString r.body.length)]
  (given.map (·.1)).eraseDups.map fun name =>
    (name, ", ".intercalate ((given.filter (·.1 == name)).map (·.2)))

/-- The value of a header. -/
def header? (r : Response) (name : String) : Option String := r.headerTable.lookup name

/-- Whether the status tells of success. -/
def isSuccess (r : Response) : Bool := 200 ≤ r.status && r.status ≤ 299

/-- Where the answer sends the request instead. -/
def location? (r : Response) : Option String :=
  if [301, 302, 303, 307, 308].contains r.status then r.header? "location" else none

/-- The first header that is not ASCII. -/
def foreignHeader? (r : Response) : Option Text.Unwritable :=
  (r.headers.flatMap fun (name, value) => [name, value]).findSome? Text.Charset.ascii.unwritable?

/-- The codings of the body, in the order in which they were applied. Names of other codings
are passed over. -/
def codings (r : Response) : List Compression.Coding :=
  let values := (r.headers.filter fun h => Text.lower h.1 == "content-encoding").map (·.2)
  (values.flatMap fun value => Text.splitOn ',' value.toList).filterMap fun name =>
    Compression.Coding.ofName? (Text.lower (Text.strip (String.ofList name)))

/-- The body before its codings were applied. -/
def content (r : Response) : Except Compression.Problem (List UInt8) :=
  r.codings.reverse.foldlM (fun bytes coding => coding.undo bytes) r.body

end Response

/-- An answer whose body has been read. -/
structure Answer where
  response : Response
  content : List UInt8

/-- Reads an answer. Its headers come first. -/
def Response.receive (r : Response) : Except Fault Answer :=
  match r.foreignHeader? with
  | some place => .error (.unwritable place)
  | none =>
      match r.content with
      | .ok content => .ok ⟨r, content⟩
      | .error problem => .error (.fetch (.noAnswer
          ("Error -3 while decompressing data: " ++ problem.message)))

/-- The characters of the bytes of a JSON text. Marks at the beginning tell the encoding,
and without one the zeros in the first four bytes do. -/
def decodeBody (bytes : List UInt8) : List (Option Char) :=
  match bytes.map UInt8.toNat with
  | 0 :: 0 :: 0xFE :: 0xFF :: _ => Text.decodeUtf32 .bigEndian (bytes.drop 4)
  | 0xFF :: 0xFE :: 0 :: 0 :: _ => Text.decodeUtf32 .littleEndian (bytes.drop 4)
  | 0xFE :: 0xFF :: _ => Text.decodeUtf16 .bigEndian (bytes.drop 2)
  | 0xFF :: 0xFE :: _ => Text.decodeUtf16 .littleEndian (bytes.drop 2)
  | 0xEF :: 0xBB :: 0xBF :: _ => Text.decodeUtf8 true (bytes.drop 3)
  | 0 :: second :: _ :: _ :: _ =>
      if second == 0 then Text.decodeUtf32 .bigEndian bytes
      else Text.decodeUtf16 .bigEndian bytes
  | _ :: 0 :: third :: fourth :: _ =>
      if third == 0 && fourth == 0 then Text.decodeUtf32 .littleEndian bytes
      else Text.decodeUtf16 .littleEndian bytes
  | [0, _] => Text.decodeUtf16 .bigEndian bytes
  | [_, 0] => Text.decodeUtf16 .littleEndian bytes
  | _ => Text.decodeUtf8 true bytes

/-- The text of a body, if all of its bytes make characters. -/
def bodyText? (bytes : List UInt8) : Option String :=
  (decodeBody bytes).mapM id |>.map String.ofList

end JsonQuery
