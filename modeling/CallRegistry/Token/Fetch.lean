import CallRegistry.Event
import CallRegistry.Http.Exchange
import CallRegistry.Token.Replacement

/-!
# Fetching an identity token

A token is fetched from the address that is configured, and the token file is
replaced by it.  Without an address nothing happens.  A fetch has two halves,
with the wait for the outcome between them: `TokenSource.send` sends the request,
and `TokenSource.receive` takes what comes back.  Only the latter can touch a
file, and only after a success: the token is put in place by a thread of its own,
while the fetch waits for it.
-/

namespace CallRegistry.Token

open File (Path Tree Mishap)
open Http (Outcome Interruption Url)

/-- Where tokens come from, and the file that holds the current one. -/
structure TokenSource where
  url : Option String
  path : Path
  deriving DecidableEq, Repr

/-- A request for a token as it goes out. -/
structure TokenRequest where
  method : String
  url : String
  headers : List (String × String)
  deriving DecidableEq, Repr

/-- The header without which a metadata server gives no token. -/
def metadataHeader : String × String := ("Metadata-Flavor", "Google")

def TokenRequest.ofUrl (url : String) : TokenRequest :=
  { method := "GET", url, headers := [metadataHeader] }

inductive FetchFault where
  | send (fault : Http.SendFault)
  | response (fault : Http.ResponseFault)
  | foreign (failure : ForeignFailure)
  | replacement (fault : ReplacementFault)
  deriving DecidableEq, Repr

def FetchFault.message : FetchFault → String
  | .send fault => fault.message
  | .response fault => fault.message
  | .foreign failure => failure.message
  | .replacement fault => fault.message

inductive FetchEnd where
  /-- The token is in place, or there is nothing to fetch. -/
  | done
  | failed (fault : FetchFault)
  | interrupted (sort : Interruption) (message : String)
  deriving DecidableEq, Repr

namespace TokenSource

/-- What is logged when a fetch begins. -/
def announcement (s : TokenSource) : List Event :=
  s.url.toList.map .tokenRequested

/-- Sends the request: the address it goes out to, if there is one and if it
goes out. -/
def send (s : TokenSource) (isOpen : Bool) :
    Option (Except Http.SendFault Url) :=
  s.url.map (Http.dispatch isOpen)

theorem send_of_url {s : TokenSource} {address : String}
    (haddress : s.url = some address) (isOpen : Bool) :
    s.send isOpen = some (Http.dispatch isOpen address) := by
  rw [send, haddress, Option.map_some]

/-- What the outcome of the request to an address comes to: a token that is to be
put in place, or else the end of the fetch. -/
def read (url : Url) : Outcome → Except FetchEnd (List UInt8)
  | .response r => (r.content url).mapError fun fault => .failed (.response fault)
  | .failure failure => .error (.failed (.foreign failure))
  | .interruption sort message => .error (.interrupted sort message)

def put (s : TokenSource) (body : List UInt8) (mishap : Option Mishap)
    (t : Tree) : Tree × FetchEnd :=
  match replace s.path body t mishap with
  | (t, some fault) => (t, .failed (.replacement fault))
  | (t, none) => (t, .done)

/-- Takes the outcome of the request to an address. -/
def receive (s : TokenSource) (url : Url) (o : Outcome) (t : Tree)
    (mishap : Option Mishap := none) : Tree × FetchEnd :=
  match read url o with
  | .ok body => s.put body mishap t
  | .error ending => (t, ending)

/-- What is logged when a fetch has put a token in place. -/
def confirmation (s : TokenSource) : FetchEnd → List Event
  | .done => [.tokenWritten s.path.text]
  | _ => []

end TokenSource

structure Fetched where
  tree : Tree
  /-- What is logged before the request. -/
  announced : List Event
  /-- The addresses of the requests that went out: one at most. -/
  requests : List String
  /-- What is logged after the request. -/
  confirmed : List Event
  ending : FetchEnd

/-- What is logged by a fetch, in order. -/
def Fetched.events (f : Fetched) : List Event :=
  f.announced ++ f.confirmed

/-- Carries a fetch out, given what becomes of its request and of the writing of
the token. -/
def TokenSource.fetch (s : TokenSource) (isOpen : Bool) (o : Outcome)
    (t : Tree) (mishap : Option Mishap := none) : Fetched :=
  match s.send isOpen with
  | none =>
    { tree := t, announced := [], requests := [], confirmed := [], ending := .done }
  | some (.error fault) =>
    { tree := t
      announced := s.announcement
      requests := []
      confirmed := []
      ending := .failed (.send fault) }
  | some (.ok url) =>
    let (tree, ending) := s.receive url o t mishap
    { tree
      announced := s.announcement
      requests := [url.text]
      confirmed := s.confirmation ending
      ending }

end CallRegistry.Token
