import CallRegistry.Store.Operation

/-!
# Operations against replies fixed in advance

`Pending.play` carries an operation out against a list of replies, one for each
request.  When the list has run out the next request fails, which ends the
operation.
-/

namespace CallRegistry

structure Playback where
  /-- What was sent, in order. -/
  requests : List Request
  events : List Event
  outcome : StoreOutcome
  /-- The replies left over. -/
  unused : List Reply

/-- The failure of a request for which no reply is left. -/
def noReplyLeft : ForeignFailure :=
  { sort := "RuntimeError", message := "no reply scripted" }

namespace Pending

/-- Carries an operation out against a list of replies. -/
def play (p : Pending) : List Reply → Playback
  | [] =>
    { requests := [p.request]
      events := []
      outcome := .error (.foreign noReplyLeft)
      unused := [] }
  | reply :: rest =>
    match p.resume reply with
    | (events, .finished outcome) =>
      { requests := [p.request], events, outcome, unused := rest }
    | (events, .waiting next) =>
      let later := next.play rest
      { later with
        requests := p.request :: later.requests
        events := events ++ later.events }

end Pending

end CallRegistry
