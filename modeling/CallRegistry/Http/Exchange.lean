import CallRegistry.File.Writing
import CallRegistry.Http.Response

/-!
# Exchanges with a token server

A request goes out only if its address can be read, the client is open and the
address says by itself where to go over the web.  What comes back is fixed by a
script: one delivery for each request, the last one again and again after that.
A delivery arrives after a delay, or never.  If it brings something that is written
to a file, the script says what becomes of that too.
-/

namespace CallRegistry.Http

/-- What interrupts the task it happens in and is no ordinary failure. -/
inductive Interruption where
  /-- The task is cancelled, which it reports to nobody. -/
  | cancelled
  | generatorExit
  | other
  deriving DecidableEq, Repr

inductive Outcome where
  | response (response : Response)
  | failure (failure : ForeignFailure)
  | interruption (sort : Interruption) (message : String)
  deriving DecidableEq, Repr

/-- An outcome, and how many milliseconds after the request it arrives; none
when it never does. -/
structure Delivery where
  outcome : Outcome
  delay : Option Nat
  /-- What becomes of the writing of what it brings. -/
  writing : File.Writing := {}
  deriving DecidableEq, Repr

abbrev Script := List Delivery

namespace Script

/-- The delivery when nothing is scripted. -/
def blank : Delivery where
  outcome := .response { status := 200, headers := [], body := [] }
  delay := some 0

/-- The delivery to a request, by how many went before it. -/
def delivery (s : Script) (before : Nat) : Delivery :=
  match s[before]? with
  | some d => d
  | none => s.getLast?.getD blank

/-- What all the deliveries of a script have in common, and the one when nothing is
scripted, is so for every request. -/
theorem delivery_of_forall {P : Delivery → Prop} {s : Script}
    (h : ∀ d ∈ s, P d) (hblank : P blank) (before : Nat) : P (s.delivery before) := by
  unfold delivery
  split
  · next d hd => exact h d (List.mem_of_getElem? hd)
  · cases hlast : s.getLast? with
    | none => exact hblank
    | some d => exact h d (List.mem_of_getLast? hlast)

end Script

inductive SendFault where
  | url (fault : UrlFault)
  | closed
  | noScheme
  | scheme (name : String)
  deriving DecidableEq, Repr

def SendFault.message : SendFault → String
  | .url fault => fault.message
  | .closed => "Cannot send a request, as the client has been closed."
  | .noScheme => "Request URL is missing an 'http://' or 'https://' protocol."
  | .scheme name =>
    "Request URL has an unsupported protocol '" ++ name ++ "://'."

/-- The part of an address without a scheme or a host that is too long, if one is.
Its path is taken to begin with a slash. -/
def longRelativePart? (u : Url) : Option UrlFault :=
  let path := "/" ++ String.ofList (u.path.toList.dropWhile (· = '/'))
  if u.isComplete then none
  else ({ scheme := "", user := "", host := "", port := none, path,
          query := u.query, fragment := none } : Url).longPart?

def dispatch (isOpen : Bool) (url : String) : Except SendFault Url := do
  let u ← (Url.parse url).mapError .url
  if let some fault := longRelativePart? u then throw (.url fault)
  if !isOpen then throw .closed
  else if !u.isComplete then throw .noScheme
  else if u.scheme = "http" ∨ u.scheme = "https" then return u
  else throw (.scheme u.scheme)

end CallRegistry.Http
