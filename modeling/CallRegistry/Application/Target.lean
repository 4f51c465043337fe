import CallRegistry.Http.Url

/-!
# Targets of web requests

A request names a path, and perhaps a query behind a question mark.  The path is
taken as it is written and looked up among the paths that are known; a line feed
may stand behind it.  A known path with slashes behind it leads to the path
without them.
-/

namespace CallRegistry

open Http (Url)

/-- What a request is about. -/
structure WebTarget where
  path : String
  query : String
  deriving DecidableEq, Repr

namespace WebTarget

def ofText (s : String) : WebTarget where
  path := String.ofList (s.toList.takeWhile (· ≠ '?'))
  query := String.ofList ((s.toList.dropWhile (· ≠ '?')).drop 1)

/-- The path as it is reported, without characters that break a line. -/
def reportedPath (t : WebTarget) : String :=
  String.ofList (t.path.toList.filter fun c => c ≠ '\t' ∧ c ≠ '\r' ∧ c ≠ '\n')

def trimmed (t : WebTarget) : String :=
  String.ofList (Text.trimEndBy (· = '/') t.path.toList)

def endsInSlash (t : WebTarget) : Bool :=
  t.path != "/" && t.path.toList.getLast? == some '/'

/-- The characters that stand for themselves in the address of a redirection. -/
def inLocation (c : Char) : Bool :=
  c.isAlphanum || "_.-~:/%#?=@[]!$&'()*+,;".toList.contains c

/-- The address of a path and the query of a target, for a given origin. -/
def locationOf (t : WebTarget) (origin path : String) : String :=
  let query := if t.query = "" then "" else "?" ++ t.query
  String.ofList
    ((origin ++ path ++ query).toList.flatMap (Url.escaped inLocation))

end WebTarget

inductive Route where
  | liveness
  | readiness
  deriving DecidableEq, Repr

/-- The known paths. -/
def Route.table : List (String × Route) :=
  [("/health", .liveness), ("/health/ready", .readiness)]

/-- The route of a path, behind which a line feed may stand. -/
def Route.ofPath? (path : String) : Option Route :=
  let cs := path.toList
  let name := if cs.getLast? = some '\n' then cs.dropLast else cs
  Route.table.lookup (String.ofList name)

inductive Destination where
  | route (route : Route)
  /-- A known path, asked for by a method that has no answer. -/
  | notAllowed
  /-- Another path. -/
  | elsewhere (path : String)
  | unknown
  deriving DecidableEq, Repr

/-- The method that has answers. -/
def answeredMethod : String := "GET"

/-- Where a request leads. -/
def WebTarget.destination (t : WebTarget) (method : String) : Destination :=
  match Route.ofPath? t.path with
  | some route => if method = answeredMethod then .route route else .notAllowed
  | none =>
    if t.endsInSlash && (Route.ofPath? t.trimmed).isSome then
      .elsewhere t.trimmed
    else
      .unknown

end CallRegistry
