import CallRegistry.Token.Refresher

/-!
# A run of the refresher

A run lasts until it is told to stop, until it is cancelled, or until its loop is
over by itself, whichever comes first.  A run that returns says so in the log; a
cancelled one does not.

What is due in the very moment of the end still happens, be it a delivery or the end
of a pause.  What is under way after that is left where it is, but for a token that
was handed over to be put in place.
-/

namespace CallRegistry.Token

open File (Tree)
open Http (Script)

/-- What ends a run from outside. -/
inductive Signal where
  | stop
  | cancel
  deriving DecidableEq, Repr

structure Plan where
  /-- At a time. -/
  atTime : Option (Nat × Signal)
  /-- When the given request has gone out. -/
  atRequest : Option (Nat × Signal)
  deriving DecidableEq, Repr

inductive Conclusion where
  | returned (time : Nat)
  | cancelled (time : Nat)
  /-- Nothing ends the run. -/
  | never
  deriving DecidableEq, Repr

structure RunResult where
  entries : List Entry
  loop : Loop
  conclusion : Conclusion

namespace Refresher

/-- What a run logs about the end of its loop. -/
def obituary : Phase → List Event
  | .ended _ (some reason) => [.refresherDied reason]
  | _ => []

/-- Ends a run at a time. -/
def conclude (r : Refresher) (now : Nat) (l : Loop) (before : List Entry)
    (signal : Signal) : RunResult :=
  match signal with
  | .cancel =>
    { entries := before, loop := l.halt now, conclusion := .cancelled now }
  | .stop =>
    let last := (obituary l.phase ++ [Event.refresherStopped]).map .logged
    { entries := before ++ r.entries now l last
      loop := l.halt now
      conclusion := .returned now }

/-- Ends a run whose loop has gone as far as it goes. -/
def settle (r : Refresher) (plan : Plan) (l : Loop) (before : List Entry) :
    RunResult :=
  match l.phase, plan.atRequest with
  | .ended time _, _ => r.conclude time l before .stop
  | .waiting since .., some (number, signal) =>
    if l.sent = number then r.conclude since l before signal
    else timed
  | _, _ => timed
where
  /-- Ends the run at the time that is planned. -/
  timed : RunResult :=
    match plan.atTime with
    | some (time, signal) => r.conclude time l before signal
    | none => { entries := before, loop := l, conclusion := .never }

/-- A run from time zero on. -/
def run (r : Refresher) (script : Script) (plan : Plan) (t : Tree) :
    RunResult :=
  let first := r.start 0 0 t
  let ready := r.entries 0 first [.logged .refresherReady]
  match plan.atTime with
  -- At the beginning a run has only begun to wait.
  | some (0, signal) => r.conclude 0 first ready signal
  | _ =>
    let limit := plan.atTime.map (·.1 + 1)
    let quit := plan.atRequest.map (·.1)
    let (last, entries) :=
      r.advance script limit quit (r.stepsWithin script limit quit) first
    r.settle plan last (ready ++ entries)

end Refresher

end CallRegistry.Token
