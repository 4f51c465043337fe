import CallRegistry.Token.Fetch

/-!
# The refresh loop

A refresher rests for its pause, fetches a token, and begins again.  A fetch that
fails is logged and changes nothing else; an interruption ends the loop for good.

Time is counted in milliseconds.  Resting takes time, and so does waiting for a
delivery and for the token of it to be put in place; nothing else does.  The last is
the work of a thread of its own: when the loop is ended in the meantime, the work is
done all the same, and nobody hears of it.

Between two of its steps the loop is a value, a `Loop`, that knows when its next step
is due; `Refresher.advance` takes the steps that are due before a given time.  A step
that is due in the very instant in which a run is told to stop is still taken.
-/

namespace CallRegistry.Token

open File (Path Tree Mishap)
open Http (Script Delivery Url)

inductive Pause where
  | lasting (milliseconds : Nat)
  /-- A pause of no length that could be slept for, and why. -/
  | unusable (reason : String)
  deriving DecidableEq, Repr

structure Refresher where
  source : TokenSource
  pause : Pause
  deriving DecidableEq, Repr

/-- A token that was handed to a thread to be put in place, and when that is
done. -/
structure Work where
  body : List UInt8
  mishap : Option Mishap
  done : Nat
  deriving DecidableEq, Repr

inductive Phase where
  | resting (wake : Nat)
  /-- A request went out to an address, and its delivery is on the way. -/
  | waiting (since : Nat) (url : Url) (delivery : Delivery)
  /-- The delivery to a request that went out at a time has brought a token. -/
  | writing (since : Nat) (work : Work)
  /-- The loop was cancelled, and left work that goes on. -/
  | outlived (time : Nat) (work : Work)
  /-- The loop is over; a reason is there unless it was cancelled. -/
  | ended (time : Nat) (reason : Option String)
  deriving DecidableEq, Repr

/-- The loop between two of its steps. -/
structure Loop where
  phase : Phase
  tree : Tree
  /-- How many requests have gone out. -/
  sent : Nat

inductive Happening where
  | logged (event : Event)
  /-- A request goes out, the given one in the count of all. -/
  | requested (number : Nat) (url : String)
  deriving DecidableEq, Repr

/-- The request for a token that goes out, if one does. -/
def Happening.tokenRequest? : Happening → Option TokenRequest
  | .requested _ url => some (.ofUrl url)
  | .logged _ => none

/-- Something that happens, when, and what the token file holds then. -/
structure Entry where
  time : Nat
  token : Option (List UInt8)
  happening : Happening
  deriving DecidableEq, Repr

namespace Loop

/-- When the next step is due, if one ever is. -/
def due (l : Loop) : Option Nat :=
  match l.phase with
  | .resting wake => some wake
  | .waiting since _ delivery => delivery.delay.map (since + ·)
  | .writing _ work | .outlived _ work => some work.done
  | .ended .. => none

/-- The loop after it was cancelled at a time: whatever it was waiting for is left,
and only work that was handed over goes on. -/
def halt (l : Loop) (now : Nat) : Loop :=
  match l.phase with
  | .ended .. | .outlived .. => l
  | .writing _ work => { l with phase := .outlived now work }
  | _ => { l with phase := .ended now none }

end Loop

namespace Refresher

/-- Entries about one moment of a loop. -/
def entries (r : Refresher) (now : Nat) (l : Loop) (hs : List Happening) :
    List Entry :=
  hs.map fun happening =>
    { time := now, token := l.tree.content? r.source.path, happening }

/-- What the loop does from a moment on in which nothing is under way. -/
def rest (r : Refresher) (now : Nat) : Phase :=
  match r.pause with
  | .lasting milliseconds => .resting (now + milliseconds)
  | .unusable reason => .ended now (some reason)

def start (r : Refresher) (now : Nat) (sent : Nat) (t : Tree) : Loop :=
  { phase := r.rest now, tree := t, sent }

/-- What is logged at the end of a cycle that began at the given time. -/
def report (r : Refresher) (since now : Nat) (ending : FetchEnd) : List Event :=
  let finished := Event.cycleFinished ((now - since) * 1000)
  match ending with
  | .done => r.source.confirmation .done ++ [finished]
  | .failed fault => [.fetchFailed fault.message, finished]
  | .interrupted .. => []

def afterFetch (r : Refresher) (now : Nat) : FetchEnd → Phase
  | .done | .failed _ => r.rest now
  | .interrupted .cancelled _ => .ended now none
  | .interrupted _ message => .ended now (some message)

def finish (r : Refresher) (since now : Nat) (l : Loop) (ending : FetchEnd) :
    Loop × List Event :=
  ({ l with phase := r.afterFetch now ending }, r.report since now ending)

/-- Begins a cycle: the request goes out, or the cycle ends at once. -/
def wake (r : Refresher) (script : Script) (now : Nat) (l : Loop) :
    Loop × List Happening :=
  let announced := r.source.announcement.map .logged
  match r.source.send true with
  | none =>
    let ended := { l with phase := r.rest now }
    (ended, [.logged (.cycleFinished 0)])
  | some (.error fault) =>
    let (ended, events) := r.finish now now l (.failed (.send fault))
    (ended, announced ++ events.map .logged)
  | some (.ok url) =>
    let number := l.sent + 1
    ({ l with
        phase := .waiting now url (script.delivery l.sent)
        sent := number },
      announced ++ [.requested number url.text])

/-- Takes the delivery to a request: a token is handed over to be put in place, and
anything else ends the cycle. -/
def deliver (r : Refresher) (since now : Nat) (url : Url) (d : Delivery)
    (l : Loop) : Loop × List Happening :=
  match TokenSource.read url d.outcome with
  | .ok body =>
    let work : Work :=
      { body, mishap := d.writing.mishap, done := now + d.writing.span }
    ({ l with phase := .writing since work }, [])
  | .error ending =>
    let (ended, events) := r.finish since now l ending
    (ended, events.map .logged)

def complete (r : Refresher) (since now : Nat) (work : Work) (l : Loop) :
    Loop × List Happening :=
  let (tree, ending) := r.source.put work.body work.mishap l.tree
  let (ended, events) := r.finish since now { l with tree } ending
  (ended, events.map .logged)

/-- Does the work that has outlived the loop. -/
def settleWork (r : Refresher) (time : Nat) (work : Work) (l : Loop) : Loop :=
  { l with
    phase := .ended time none
    tree := (r.source.put work.body work.mishap l.tree).1 }

def step (r : Refresher) (script : Script) (now : Nat) (l : Loop) :
    Loop × List Entry :=
  let (next, hs) :=
    match l.phase with
    | .resting _ => r.wake script now l
    | .waiting since url delivery => r.deliver since now url delivery l
    | .writing since work => r.complete since now work l
    | .outlived time work => (r.settleWork time work l, [])
    | .ended .. => (l, [])
  (next, r.entries now next hs)

/-- Takes the steps that are due before a limit, as long as the requests that
have gone out are fewer than `quit`; `fuel` bounds the number of steps. -/
def advance (r : Refresher) (script : Script) (limit quit : Option Nat) :
    Nat → Loop → Loop × List Entry
  | 0, l => (l, [])
  | fuel + 1, l =>
    match l.due with
    | none => (l, [])
    | some now =>
      if limit.all (now < ·) && quit.all (l.sent < ·) then
        let (next, here) := r.step script now l
        let (last, later) := r.advance script limit quit fuel next
        (last, here ++ later)
      else
        (l, [])

def pauseLength (r : Refresher) : Nat :=
  match r.pause with
  | .lasting milliseconds => milliseconds
  | .unusable _ => 0

/-- A number of steps that is enough for a span of time, a number of requests, and
the deliveries of a script: a cycle has three steps at most, and before each one
lies a pause. -/
def stepsWithin (r : Refresher) (script : Script) (limit quit : Option Nat) :
    Nat :=
  3 * (limit.getD 0 / max 1 r.pauseLength + quit.getD 0 + script.length + 2)

end Refresher

end CallRegistry.Token
