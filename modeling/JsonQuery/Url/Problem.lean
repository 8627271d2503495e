import JsonQuery.Text.Literal

/-!
What can be wrong with a URL, with its authority, and with the labels of a host that is
written beyond ASCII. Positions in labels count from one.
-/

namespace JsonQuery

/-- Why a text is no URL that a request can be sent to. -/
inductive UrlProblem where
  | tooLong
  /-- A part that is put in place of another is too long; its name. -/
  | partTooLong (part : String)
  /-- A control character, and its place. -/
  | unprintable (c : Char) (position : Nat)
  /-- A control character in the fragment taken over by a redirect, and its place. -/
  | unprintableFragment (c : Char) (position : Nat)
  | port (text : String)
  | fourPartAddress (text : String)
  | bracketedAddress (text : String)
  | internationalName (text : String)
  /-- A path that does not begin with a slash follows a host. -/
  | detachedPath
  | doubleSlash
  | leadingColon
  /-- Who was asked to send a request refuses its URL; what is known about it. -/
  | refused (text : String)
  deriving DecidableEq, Repr

/-- The wording of a problem with a URL. -/
def UrlProblem.message : UrlProblem → String
  | .tooLong => "URL too long"
  | .partTooLong part => "URL component '" ++ part ++ "' too long"
  | .unprintable c position =>
      "Invalid non-printable ASCII character in URL, " ++ Text.literal c.toString ++
        " at position " ++ toString position ++ "."
  | .unprintableFragment c position =>
      "Invalid non-printable ASCII character in URL fragment component, " ++
        Text.literal c.toString ++ " at position " ++ toString position ++ "."
  | .port text => "Invalid port: " ++ Text.literal text
  | .fourPartAddress text => "Invalid IPv4 address: " ++ Text.literal text
  | .bracketedAddress text => "Invalid IPv6 address: " ++ Text.literal text
  | .internationalName text => "Invalid IDNA hostname: " ++ Text.literal text
  | .detachedPath => "For absolute URLs, path must be empty or begin with '/'"
  | .doubleSlash => "Relative URLs cannot have a path starting with '//'"
  | .leadingColon => "Relative URLs cannot have a path starting with ':'"
  | .refused text => text

/-- Why the authority of a URL is malformed. -/
inductive AuthorityProblem where
  | brackets
  /-- The versioned address in brackets has no version or says nothing. -/
  | versionedAddress
  /-- An address of four parts stands in brackets. -/
  | fourPartAddress
  /-- What stands in brackets is no address. -/
  | noAddress (text : String)
  /-- A character stands for one that divides URLs. -/
  | disguise (authority : String)
  deriving DecidableEq, Repr

/-- The wording of a problem with an authority. -/
def AuthorityProblem.message : AuthorityProblem → String
  | .brackets => "Invalid IPv6 URL"
  | .versionedAddress => "IPvFuture address is invalid"
  | .fourPartAddress => "An IPv4 address cannot be in brackets"
  | .noAddress text => Text.literal text ++ " does not appear to be an IPv4 or IPv6 address"
  | .disguise authority =>
      "netloc " ++ authority ++ " contains invalid characters under NFKC normalization"

/-- Why a label cannot be part of the name of a host. -/
inductive LabelProblem where
  | nameTooLong
  | empty
  /-- Nothing follows the mark of an encoded label. -/
  | nothingEncoded
  | encodedHyphen
  | notDecodable
  | notComposed
  | hyphensInside
  | hyphenOutside
  | leadingMark
  /-- A joiner without letters that it could join; its code point and place. -/
  | joiner (code position : Nat) (label : String)
  /-- A character that is permitted only beside others; its code point and place. -/
  | context (code position : Nat) (label : String)
  | notPermitted (code position : Nat) (label : String)
  | unknownDirection (label : String) (position : Nat)
  /-- A label with letters from right to left begins with no letter. -/
  | leadingDirection (label : String)
  /-- A letter from left to right in a label that begins with one from right to left. -/
  | againstRightToLeft (position : Nat)
  /-- A letter from right to left in a label that begins with one from left to right. -/
  | againstLeftToRight (position : Nat)
  | mixedDigits
  | trailingDirection
  deriving DecidableEq, Repr

namespace LabelProblem

/-- A code point as problems name it. -/
def codeName (code : Nat) : String :=
  "U+" ++ String.ofList ((Text.hexadecimal 4 code).map Char.toUpper)

/-- The wording of a problem with a label. -/
def message : LabelProblem → String
  | .nameTooLong => "Domain too long"
  | .empty => "Empty Label"
  | .nothingEncoded => "Malformed A-label, no Punycode eligible content found"
  | .encodedHyphen => "A-label must not end with a hyphen"
  | .notDecodable => "Invalid A-label"
  | .notComposed => "Label must be in Normalization Form C"
  | .hyphensInside => "Label has disallowed hyphens in 3rd and 4th position"
  | .hyphenOutside => "Label must not start or end with a hyphen"
  | .leadingMark => "Label begins with an illegal combining character"
  | .joiner code position label =>
      "Unknown codepoint adjacent to joiner " ++ codeName code ++ " at position " ++
        toString position ++ " in " ++ Text.literal label
  | .context code position label =>
      "Codepoint " ++ codeName code ++ " not allowed at position " ++ toString position ++
        " in " ++ Text.literal label
  | .notPermitted code position label =>
      "Codepoint " ++ codeName code ++ " at position " ++ toString position ++ " of " ++
        Text.literal label ++ " not allowed"
  | .unknownDirection label position =>
      "Unknown directionality in label " ++ Text.literal label ++ " at position " ++
        toString position
  | .leadingDirection label =>
      "First codepoint in label " ++ Text.literal label ++
        " must be directionality L, R or AL"
  | .againstRightToLeft position =>
      "Invalid direction for codepoint at position " ++ toString position ++
        " in a right-to-left label"
  | .againstLeftToRight position =>
      "Invalid direction for codepoint at position " ++ toString position ++
        " in a left-to-right label"
  | .mixedDigits => "Can not mix numeral types in a right-to-left label"
  | .trailingDirection => "Label ends with illegal codepoint directionality"

end LabelProblem

end JsonQuery
