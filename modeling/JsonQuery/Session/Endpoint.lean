import JsonQuery.Url.Parts

/-!
Names for the places data came from. Some well-known services have a name of their own;
any other place is named by its host and path.
-/

namespace JsonQuery

/-- A place data came from: its URL, and the name it is listed under. -/
structure Endpoint where
  url : String
  name : String
  deriving DecidableEq, Repr

/-- Known services: a part of the host's name, a part of the path, and the name they are
listed under. -/
def knownEndpoints : List (String × String × String) := [
  ("jsonplaceholder", "/users", "JSONPlaceholder Users"),
  ("jsonplaceholder", "/posts", "JSONPlaceholder Posts"),
  ("jsonplaceholder", "", "JSONPlaceholder API"),
  ("restcountries", "", "Countries Data"),
  ("dog.ceo", "", "Dog Breeds"),
  ("openweathermap", "", "Weather Data"),
  ("coingecko", "", "Cryptocurrency Prices"),
  ("quotable", "", "Random Quotes")]

/-- The name a place is listed under. The first known service that fits decides; a URL
without a host is its own name. -/
def endpointName (url : String) : String :=
  match UrlParts.ofText? url with
  | none => url
  | some parts =>
      if parts.host.isEmpty then url
      else
        let path := String.ofList parts.path
        match knownEndpoints.find? fun (hostPart, pathPart, _) =>
            Text.contains parts.host hostPart && Text.contains path pathPart with
        | some (_, _, name) => name
        | none => parts.host ++ path

end JsonQuery
