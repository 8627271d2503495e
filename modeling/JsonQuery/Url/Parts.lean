import JsonQuery.Text.Case
import JsonQuery.Url.Address
import JsonQuery.Url.Problem

/-!
URLs cut into their parts, as they are judged before anything is requested: control
characters and blanks in front and line breaks anywhere are passed over, and a host in
brackets has to be an address.
-/

namespace JsonQuery

/-- The parts of a URL. A part that is missing is empty. -/
structure UrlParts where
  scheme : String
  authority : List Char
  path : List Char
  query : List Char
  fragment : List Char
  deriving DecidableEq, Repr

namespace UrlParts

/-- Characters of the name of a scheme. -/
def isSchemeChar (c : Char) : Bool :=
  Text.isAsciiLetter c || Text.isAsciiDigit c || c == '+' || c == '-' || c == '.'

/-- The scheme in lower case and what follows its colon. -/
def cutScheme (cs : List Char) : String × List Char :=
  match Text.cutAt ':' cs with
  | (c :: name, some rest) =>
      if Text.isAsciiLetter c && name.all isSchemeChar then
        (String.ofList ((c :: name).map Char.toLower), rest)
      else ("", cs)
  | _ => ("", cs)

/-- Characters that end an authority. -/
def endsAuthority (c : Char) : Bool := c == '/' || c == '?' || c == '#'

/-- The authority behind two slashes and what follows it. -/
def cutAuthority : List Char → List Char × List Char
  | '/' :: '/' :: rest =>
      (rest.takeWhile (!endsAuthority ·), rest.dropWhile (!endsAuthority ·))
  | cs => ([], cs)

/-- Why a text may not stand in brackets. It has to be an address of groups, or a versioned
one. -/
def bracketedProblem? (cs : List Char) : Option AuthorityProblem :=
  match cs with
  | 'v' :: version =>
      let isVersioned := match Text.cutAt '.' version with
        | (digits, some address) =>
            !digits.isEmpty && (digits.all fun c => (Text.hexDigitValue? c).isSome) &&
              !address.isEmpty
        | _ => false
      if isVersioned then none else some .versionedAddress
  | _ =>
      if Address.isBracketable cs then none
      else if Address.isFourPart cs then some .fourPartAddress
      else some (.noAddress (String.ofList cs))

/-- What is wrong with the brackets of an authority. Where there are any, the host is one that
may stand in them, and it fills the place between the user and the port. -/
def bracketsProblem? (authority : List Char) : Option AuthorityProblem :=
  match authority.contains '[', authority.contains ']' with
  | false, false => none
  | true, true =>
      match Text.cutAt '[' (Text.cutAtLast '@' authority).2 with
      | ([], some bracketed) =>
          match Text.cutAt ']' bracketed with
          | (host, none) | (host, some []) | (host, some (':' :: _)) => bracketedProblem? host
          | _ => some .brackets
      | (_, some _) => some .brackets
      | (address, none) => bracketedProblem? (Text.cutAt ':' address).1
  | _, _ => some .brackets

/-- Characters that turn into one that ends an authority or divides it once their
compatible forms are put in place. -/
def disguisesDelimiter (c : Char) : Bool :=
  [0x2047, 0x2048, 0x2049, 0x2100, 0x2101, 0x2105, 0x2106, 0x2A74, 0xFE13, 0xFE16, 0xFE55,
    0xFE56, 0xFE5F, 0xFE6B, 0xFF03, 0xFF0F, 0xFF1A, 0xFF1F, 0xFF20].contains c.toNat

/-- What is wrong with an authority. -/
def authorityProblem? (authority : List Char) : Option AuthorityProblem :=
  match bracketsProblem? authority with
  | some problem => some problem
  | none =>
      if authority.any disguisesDelimiter then some (.disguise (String.ofList authority))
      else none

/-- The parts of a URL. Its authority has to be in order. -/
def ofText (url : String) : Except AuthorityProblem UrlParts :=
  let text := (url.toList.dropWhile fun c => c.toNat ≤ 32).filter fun c =>
    !(c == '\t' || c == '\n' || c == '\r')
  let (scheme, afterScheme) := cutScheme text
  let (authority, afterAuthority) := cutAuthority afterScheme
  let (beforeFragment, fragment?) := Text.cutAt '#' afterAuthority
  let (path, query?) := Text.cutAt '?' beforeFragment
  match authorityProblem? authority with
  | some problem => .error problem
  | none => .ok ⟨scheme, authority, path, query?.getD [], fragment?.getD []⟩

/-- The parts of a URL, unless its authority is malformed. -/
def ofText? (url : String) : Option UrlParts := (ofText url).toOption

/-- The host of an authority as it is written, without user, port and brackets. -/
def hostText (authority : List Char) : List Char :=
  let address := (Text.cutAtLast '@' authority).2
  match Text.cutAt '[' address with
  | (_, some bracketed) => (Text.cutAt ']' bracketed).1
  | (_, none) => (Text.cutAt ':' address).1

/-- The host in lower case, except for the name of a zone. -/
def host (p : UrlParts) : String :=
  match Text.cutAt '%' (hostText p.authority) with
  | (name, none) => Text.lower (String.ofList name)
  | (name, some zone) => Text.lower (String.ofList name) ++ String.ofList ('%' :: zone)

end UrlParts

end JsonQuery
