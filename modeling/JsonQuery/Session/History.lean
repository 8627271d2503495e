import JsonQuery.Session.Endpoint
import JsonQuery.Value.Basic
import JsonQuery.Fault

/-!
The history of places data came from, the latest first and each place once. The setting
for its length is a number of entries to keep; a negative number keeps all but that many
of the oldest, and no number keeps all.
-/

namespace JsonQuery

/-- The entries that a setting for the length keeps. -/
def keepEntries (size : Value) (entries : List Endpoint) : Except Fault (List Endpoint) :=
  let keep (n : Int) : List Endpoint :=
    entries.take (if n < 0 then entries.length + n else n).toNat
  match size with
  | .null => .ok entries
  | .bool b => .ok (keep (if b then 1 else 0))
  | .number (.int n) => .ok (keep n)
  | _ => .error (.wrongKind
      "slice indices must be integers or None or have an __index__ method")

/-- The history after data came from a place. -/
def remember (size : Value) (history : List Endpoint) (url : String) :
    Except Fault (List Endpoint) :=
  keepEntries size (⟨url, endpointName url⟩ :: history.filter fun e => e.url != url)

end JsonQuery
