import JsonQuery.Number.Basic
import JsonQuery.Text.Charset
import JsonQuery.Url.Problem

/-!
Everything that can go wrong, by cause. The wording of each cause is given once,
by `Fault.message`.
-/

namespace JsonQuery

/-- What is wrong with a JSON text, at the place where it was noticed. -/
inductive JsonProblem where
  | byteOrderMark
  | expectedValue
  | expectedName
  | expectedColon
  | expectedComma
  | extraData
  | unterminatedString
  | invalidControl
  | invalidEscape
  | invalidUnicodeEscape
  deriving DecidableEq, Repr

/-- The wording of a problem with a JSON text. -/
def JsonProblem.message : JsonProblem → String
  | .byteOrderMark => "Unexpected UTF-8 BOM (decode using utf-8-sig)"
  | .expectedValue => "Expecting value"
  | .expectedName => "Expecting property name enclosed in double quotes"
  | .expectedColon => "Expecting ':' delimiter"
  | .expectedComma => "Expecting ',' delimiter"
  | .extraData => "Extra data"
  | .unterminatedString => "Unterminated string starting at"
  | .invalidControl => "Invalid control character at"
  | .invalidEscape => "Invalid \\escape"
  | .invalidUnicodeEscape => "Invalid \\uXXXX escape"

/-- Why there is nothing to query. -/
inductive Unavailable where
  | noDataset
  | notArray
  | emptyArray
  | notObjects
  deriving DecidableEq, Repr

/-- The standing message shown while there is nothing to query. -/
def Unavailable.message : Unavailable → String
  | .noDataset => "No data available for querying"
  | .notArray => "SQL queries are only available for array data"
  | .emptyArray => "SQL queries are not available for an empty array"
  | .notObjects => "SQL queries are only available for arrays of objects"

/-- A position in a text: line and column count from one, the offset from zero. -/
structure TextPosition where
  line : Nat
  column : Nat
  offset : Nat
  deriving DecidableEq, Repr

/-- Why a request brought no data. -/
inductive FetchProblem where
  | noUrl
  | malformedUrl
  | schemeNotAllowed
  | privateHost
  /-- The answer has a status other than success; its code and its phrase. -/
  | status (code : Int) (phrase : String)
  | notJson
  | invalidJson
  | noValue
  /-- There was no answer in time; the time allowed, in seconds. -/
  | timedOut (seconds : String)
  /-- There was no answer; what is known about it. -/
  | noAnswer (text : String)
  deriving DecidableEq, Repr

/-- The wording of a problem with a request. -/
def FetchProblem.message : FetchProblem → String
  | .noUrl => "Please provide a valid URL"
  | .malformedUrl => "Invalid URL format"
  | .schemeNotAllowed => "Only HTTP and HTTPS URLs are allowed"
  | .privateHost => "Private/localhost URLs are not allowed for security reasons"
  | .status code phrase => "HTTP " ++ toString code ++ ": " ++ phrase
  | .notJson => "API must return JSON data"
  | .invalidJson => "API returned invalid JSON"
  | .noValue => "API returned empty or null data"
  | .timedOut seconds => "Request timed out after " ++ seconds ++ " seconds"
  | .noAnswer text => "Request failed: " ++ text

/-- Why a file cannot be written. -/
inductive FileProblem where
  | noDirectory
  | isDirectory
  | notDirectory
  | nameTooLong
  deriving DecidableEq, Repr

/-- The wording of a problem with a file. -/
def FileProblem.message : FileProblem → String
  | .noDirectory => "No such file or directory"
  | .isDirectory => "Is a directory"
  | .notDirectory => "Not a directory"
  | .nameTooLong => "File name too long"

/-- Why an operation could not be done. -/
inductive Fault where
  /-- The query has no text. -/
  | emptyQuery
  /-- The query does not start with the word that starts a selection. -/
  | notSelection
  /-- The data cannot be queried, for a standing reason. -/
  | noData (reason : Unavailable)
  /-- Only objects can be flattened; the kind of the value given instead. -/
  | notAnObject (kind : String)
  /-- An integer has too many digits to be written. -/
  | integerTooLongToWrite
  /-- A run of digits is too long to be read as an integer; how many there are. -/
  | integerTooLongToRead (digits : Nat)
  /-- An integer beyond double precision met a double-precision number. -/
  | integerExceedsFloat
  /-- The mean of integers is beyond double precision. -/
  | quotientExceedsFloat
  /-- An integer of a column of integers is beyond 64 bits. -/
  | integerExceedsColumn
  /-- No comparison of a condition has this name. -/
  | unknownComparison (name : String)
  /-- No operator of a filter has this name. -/
  | unknownFilterOperator (name : String)
  /-- No export format has this name. -/
  | unknownFormat (name : String)
  /-- A text with a control character cannot stand in a sheet. -/
  | illegalCharacter (text : String)
  /-- A sheet title or other setting of the wrong kind, with its full wording. -/
  | wrongKind (message : String)
  /-- A section of the settings has names it does not know. -/
  | unknownSettings (name : String) (names : List String)
  /-- A section of the settings is no mapping. -/
  | sectionNotMapping (name : String)
  /-- A step of a run has a name that means nothing. -/
  | unknownStep (name : String)
  /-- A URL is refused, or the request for it brought no data. -/
  | fetch (problem : FetchProblem)
  /-- A request cannot be sent to a URL. -/
  | url (problem : UrlProblem)
  /-- The authority of a URL is malformed. -/
  | authority (problem : AuthorityProblem)
  /-- The host of a URL is in ASCII a name that stands for no other. -/
  | label (problem : LabelProblem)
  /-- The URL of an answered request has no scheme. -/
  | unknownUrlKind (text : String)
  /-- A text stands where a number is to be written. -/
  | textAsNumber
  /-- A text has to be written as bytes and cannot be. -/
  | unwritable (place : Text.Unwritable)
  /-- A settings file is not there. -/
  | noSettingsFile (path : String)
  /-- A file cannot be written. -/
  | file (problem : FileProblem)
  /-- A path holds the character that ends a text. -/
  | nullInPath
  /-- A level of the log is no text; the kind of value it is. -/
  | levelNotText (kind : String)
  /-- A level of the log stands for something that is no level. -/
  | unknownLevel (text : String)
  /-- The settings are no mapping. -/
  | settingsNotMapping
  /-- A YAML text is malformed. -/
  | yaml
  /-- A text is no integer in a base. -/
  | notInteger (base : Nat) (text : String)
  /-- A text is no number. -/
  | notNumber (text : String)
  /-- A part of a date or a time is out of its range. -/
  | dateOutOfRange (message : String)
  /-- A text that has to be a moment of time is none. -/
  | notMoment
  /-- A text that has to be a truth value is none. -/
  | notTruth (text : String)
  /-- A text that has to be a number is empty. -/
  | noNumber
  /-- A code point is beyond the last one, and may be beyond 31 bits. -/
  | noCodePoint (isWide : Bool)
  /-- A JSON text has too many arrays and objects within each other; whether the first one
  that is too much is an object. -/
  | tooNested (isObject : Bool)
  /-- A JSON text is malformed. -/
  | json (problem : JsonProblem) (position : TextPosition)
  deriving DecidableEq, Repr

namespace Fault

/-- The wording of a fault. -/
def message : Fault → String
  | .emptyQuery => "Query is empty"
  | .notSelection => "Only SELECT queries are supported"
  | .noData reason => reason.message
  | .notAnObject kind => s!"Cannot flatten a value of type {kind}; expected an object"
  | .integerTooLongToWrite =>
      s!"Exceeds the limit ({integerDigitLimit} digits) for integer string conversion; " ++
        "use sys.set_int_max_str_digits() to increase the limit"
  | .integerTooLongToRead digits =>
      s!"Exceeds the limit ({integerDigitLimit} digits) for integer string conversion: " ++
        s!"value has {digits} digits; use sys.set_int_max_str_digits() to increase the limit"
  | .integerExceedsFloat => "int too large to convert to float"
  | .quotientExceedsFloat => "integer division result too large for a float"
  | .integerExceedsColumn => "Python int too large to convert to C long"
  | .unknownComparison name => Text.literal name ++ " is not a valid PredicateOperator"
  | .unknownFilterOperator name => Text.literal name ++ " is not a valid FilterOperator"
  | .unknownFormat name => "Unsupported export format: " ++ name
  | .illegalCharacter text => text ++ " cannot be used in worksheets."
  | .wrongKind message => message
  | .unknownSettings sec names =>
      "Unknown keys in section '" ++ sec ++ "': " ++ ", ".intercalate names
  | .sectionNotMapping sec => "Section '" ++ sec ++ "' must be a mapping"
  | .unknownStep name => name
  | .fetch problem => problem.message
  | .url problem => problem.message
  | .authority problem => problem.message
  | .label problem => problem.message
  | .unknownUrlKind text => "unknown url type: " ++ Text.literal text
  | .textAsNumber => "Unknown format code 'g' for object of type 'str'"
  | .unwritable place => place.message
  | .noSettingsFile path => "Config file not found: " ++ path
  | .file problem => problem.message
  | .nullInPath => "embedded null byte"
  | .levelNotText kind => "'" ++ kind ++ "' object has no attribute 'upper'"
  | .unknownLevel text => "Unknown level: " ++ Text.literal text
  | .settingsNotMapping => "Config file must contain a mapping at the top level"
  | .yaml => ""
  | .notInteger base text =>
      s!"invalid literal for int() with base {base}: " ++ Text.literal text
  | .notNumber text => "could not convert string to float: " ++ Text.literal text
  | .dateOutOfRange message => message
  | .notMoment => "'NoneType' object has no attribute 'groupdict'"
  | .notTruth text => Text.literal text
  | .noNumber => "string index out of range"
  | .noCodePoint isWide =>
      if isWide then "Python int too large to convert to C int"
      else "chr() arg not in range(0x110000)"
  | .tooNested isObject =>
      "maximum recursion depth exceeded while decoding a JSON " ++
        (if isObject then "object" else "array") ++ " from a unicode string"
  | .json problem position =>
      s!"{problem.message}: line {position.line} column {position.column} " ++
        s!"(char {position.offset})"

end Fault

end JsonQuery
