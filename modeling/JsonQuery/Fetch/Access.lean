import JsonQuery.Config.Settings
import JsonQuery.Url.Parts

/-!
Which URLs may be requested. The scheme has to be one of those in the settings and the
host must not begin like one that is not public.
-/

namespace JsonQuery

namespace FetchSettings

/-- Whether a scheme is allowed: it is an item of the setting, a key of it, or a part of
it, as the setting is an array, an object or a text. -/
def allowsScheme (s : FetchSettings) (scheme : String) : Except Fault Bool :=
  match s.allowedSchemes with
  | .array items => .ok (items.any fun
      | .string allowed => allowed == scheme
      | _ => false)
  | .object members => .ok (Record.hasKey members scheme)
  | .string text => .ok (Text.contains text scheme)
  | v => .error (.wrongKind ("argument of type '" ++ v.kindWord ++ "' is not iterable"))

/-- The beginnings of hosts that are not public: the items of the setting, its keys or its
characters. -/
def blockedStarts (s : FetchSettings) : Except Fault (List Value) :=
  match s.blockedHosts with
  | .array items => .ok items
  | .object members => .ok ((Record.keys members).map .string)
  | .string text => .ok (text.toList.map fun c => .string c.toString)
  | v => .error (.wrongKind ("'" ++ v.kindWord ++ "' object is not iterable"))

end FetchSettings

/-- Whether a host begins in one of the given ways. The first of them that fits or is no
text decides. -/
def beginsWithAny (host : String) : List Value → Except Fault Bool
  | [] => .ok false
  | .string start :: starts =>
      if Text.startsWith start.toList host.toList then .ok true else beginsWithAny host starts
  | v :: _ =>
      .error (.wrongKind ("startswith first arg must be str or a tuple of str, not " ++ v.kindWord))

/-- The text of a URL that may be requested. -/
def permittedUrl (settings : FetchSettings) (url : Value) : Except Fault String := do
  match url with
  | .string text =>
      if text.isEmpty then throw (.fetch .noUrl)
      match UrlParts.ofText? text with
      | none => throw (.fetch .malformedUrl)
      | some parts =>
          if parts.scheme.isEmpty || parts.host.isEmpty then throw (.fetch .malformedUrl)
          if !(← settings.allowsScheme parts.scheme) then throw (.fetch .schemeNotAllowed)
          if ← beginsWithAny (Text.lower parts.host) (← settings.blockedStarts) then
            throw (.fetch .privateHost)
          return text
  | _ => throw (.fetch .noUrl)

end JsonQuery
