import RecordDesk.Api.Address
set_option autoImplicit false

/-!
The places of the service by their paths, and the methods that each takes. A path may end in slashes that
lead nowhere; its caller is then sent on to the place without them.
-/

namespace RecordDesk.Api

inductive Route where
  | health
  | records (entityId : String)
  | record (entityId recordId : String)
  | ruleTest
  | ruleLogs
  | widgetData
  /-- A page about the service itself. -/
  | guide
  deriving DecidableEq, Repr

namespace Route

def methods : Route → List String
  | .health | .ruleLogs => ["GET"]
  | .records _ | .ruleTest | .widgetData => ["POST"]
  | .record .. => ["PUT"]
  | .guide => ["GET", "HEAD"]

/-- The text without a line end behind it. -/
def withoutLineEnd (s : String) : String :=
  match s.toList.reverse with
  | '\n' :: rest => String.ofList rest.reverse
  | _ => s

def mapLast (f : String → String) : List String → List String
  | [] => []
  | [s] => [f s]
  | s :: rest => s :: mapLast f rest

def ofWords? : List String → Option Route
  | ["api", "v1", "health"] => some .health
  | ["api", "v1", "entities", entityId, "records"] => if entityId = "" then none else some (.records entityId)
  | ["api", "v1", "rules", "test"] => some .ruleTest
  | ["api", "v1", "rules", "logs"] => some .ruleLogs
  | ["api", "v1", "widgets", "data"] => some .widgetData
  | ["openapi.json"] | ["docs"] | ["docs", "oauth2-redirect"] | ["redoc"] => some .guide
  | _ => none

/-- The place of a path; names of rows are never empty. -/
def ofSegments? : List String → Option Route
  | ["api", "v1", "entities", entityId, "records", recordId] =>
    if entityId = "" ∨ recordId = "" then none else some (.record entityId recordId)
  | segments => ofWords? (mapLast withoutLineEnd segments)

def redirectLimit : Nat := 20

/-- The place that an address leads to, and the address by then. -/
def find (a : Address) : Nat → Except Fault (Option (Route × Address))
  | 0 => .error .tooManyRedirects
  | fuel + 1 => match ofSegments? a.segments with
    | some route => .ok (some (route, a))
    | none => match a.withoutEndSlashes? with
      | none => .ok none
      | some trimmed =>
        if (ofSegments? trimmed.segments).isSome then find trimmed.again fuel else .ok none

def ofAddress (a : Address) : Except Fault (Option (Route × Address)) := find a (redirectLimit + 1)

end Route

end RecordDesk.Api
