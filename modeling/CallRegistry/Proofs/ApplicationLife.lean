import CallRegistry.Application.Basic
import CallRegistry.Proofs.RefreshCycles

/-!
# The life of an application

Requests, calls on the store and the passing of time come to an application in
any order.  Only the passing of time moves its refresher, and however time is cut
into pieces, the refresher has gone as far as if all of it had passed at once:
`Application.Carries` says so of any two moments, from step to step.
-/

namespace CallRegistry

open Token (Entry Happening Loop Phase Refresher)

/-- What comes to a running application. -/
inductive Occasion where
  | request (origin method : String) (target : WebTarget)
  | call (ticket : ℕ) (call : StoreCall)
  | time (milliseconds : ℕ)

/-- How much time passes on an occasion. -/
def Occasion.duration : Occasion → ℕ
  | .time milliseconds => milliseconds
  | _ => 0

/-- How much time passes on all of them. -/
def elapsed (os : List Occasion) : ℕ :=
  (os.map Occasion.duration).sum

/-- What an application gives back. -/
inductive Reaction where
  | answered (answer : WebAnswer)
  | carriedOut (outcome : StoreOutcome) (events : List Event)
  | waited (events : List Event)

/-- What the refresher logged while time passed. -/
def Reaction.ofRefresher : Reaction → List Event
  | .waited events => events
  | _ => []

namespace Application

variable {a b : Application} {es : List Entry} {said : List Event}
  {interval : ℕ}

/-- Lets an occasion come. -/
def meet (a : Application) : Occasion → Application × Reaction
  | .request origin method target =>
    let (next, answer) := a.answer origin method target
    (next, .answered answer)
  | .call ticket call =>
    let (next, outcome, events) := a.call ticket call
    (next, .carriedOut outcome events)
  | .time milliseconds =>
    let (next, events) := a.advance milliseconds
    (next, .waited events)

/-- The application after some occasions. -/
def after (a : Application) (os : List Occasion) : Application :=
  os.foldl (fun a o => (a.meet o).1) a

/-- What the application gave back to each of them. -/
def reactions (a : Application) : List Occasion → List Reaction
  | [] => []
  | o :: os => (a.meet o).2 :: (a.meet o).1.reactions os

theorem after_nil (a : Application) : a.after [] = a := rfl

theorem after_cons (a : Application) (o : Occasion) (os : List Occasion) :
    a.after (o :: os) = (a.meet o).1.after os := rfl

/-- What the refresher has logged on the occasions. -/
def refresherLog (a : Application) (os : List Occasion) : List Event :=
  (a.reactions os).flatMap Reaction.ofRefresher

theorem refresherLog_cons (a : Application) (o : Occasion) (os : List Occasion) :
    a.refresherLog (o :: os) =
      (a.meet o).2.ofRefresher ++ (a.meet o).1.refresherLog os :=
  List.flatMap_cons

/-! ## Occasions on which no time passes -/

/-- The one application differs from the other in its store and in what went to
it, and in nothing else. -/
def SameButStore (a b : Application) : Prop :=
  ∃ store replies requests,
    b = { a with store, replies, tableRequests := requests }

theorem sameButStore_refl (a : Application) : a.SameButStore a :=
  ⟨a.store, a.replies, a.tableRequests, rfl⟩

theorem sameButStore_call (a : Application) (ticket : ℕ) (c : StoreCall) :
    a.SameButStore (a.call ticket c).1 := by
  unfold call
  split
  · exact ⟨_, a.replies, a.tableRequests, rfl⟩
  · next config hstore => exact ⟨a.store, _, _, rfl⟩

theorem sameButStore_answer (a : Application) (origin method : String)
    (target : WebTarget) : a.SameButStore (a.answer origin method target).1 := by
  unfold answer
  split
  · exact a.sameButStore_refl
  · exact a.sameButStore_call 0 (.get Health.probeGroup)
  · exact a.sameButStore_refl
  · exact a.sameButStore_refl
  · exact a.sameButStore_refl

/-- On an occasion time passes, or the refresher is left alone. -/
theorem meet_cases (a : Application) (o : Occasion) :
    (∃ milliseconds, o = .time milliseconds) ∨
      (a.SameButStore (a.meet o).1 ∧ (a.meet o).2.ofRefresher = [] ∧
        o.duration = 0) := by
  cases o with
  | request origin method target =>
      exact .inr ⟨a.sameButStore_answer origin method target, rfl, rfl⟩
  | call ticket call => exact .inr ⟨a.sameButStore_call ticket call, rfl, rfl⟩
  | time milliseconds => exact .inl ⟨milliseconds, rfl⟩

/-! ## The refresher over the occasions -/

/-- What a run says of a loop that is over. -/
def farewell (l : Loop) : List Event :=
  match l.phase with
  | .ended .. | .outlived .. =>
    Refresher.obituary l.phase ++ [.refresherStopped]
  | _ => []

theorem lastWords_eq (a : Application) :
    a.lastWords = if a.returned then [] else farewell a.loop := by
  unfold lastWords farewell
  cases a.loop.phase <;> simp

theorem farewell_ne_nil_iff {l : Loop} :
    farewell l ≠ [] ↔ Refresher.Over l.phase := by
  obtain ⟨phase, tree, sent⟩ := l
  cases phase <;> simp [farewell, Refresher.Over]

theorem farewell_of_over {l : Loop} (hover : Refresher.Over l.phase) :
    farewell l = Refresher.obituary l.phase ++ [.refresherStopped] := by
  obtain ⟨phase, tree, sent⟩ := l
  cases phase with
  | outlived | ended => rfl
  | _ => exact hover.elim

/-- From one moment of an application to a later one: what never changes, how far
the refresher went, and what it asked for and said meanwhile. -/
structure Carries (a b : Application) (es : List Entry) (said : List Event) :
    Prop where
  settings_eq : b.settings = a.settings
  refresher_eq : b.refresher = a.refresher
  script_eq : b.script = a.script
  open_eq : b.clientOpen = a.clientOpen
  goes : a.refresher.Goes a.script (b.now + 1) a.loop es b.loop
  requests_eq : b.tokenRequests = a.tokenRequests ++ requestsOf es
  returned_iff : b.returned = true ↔ farewell b.loop ≠ []
  said_eq : said = logOf es ++ farewell b.loop

theorem Carries.sameButStore {c : Application} (h : a.Carries b es said)
    (hsame : b.SameButStore c) : a.Carries c es said := by
  obtain ⟨store, replies, requests, rfl⟩ := hsame
  exact
    { settings_eq := h.settings_eq
      refresher_eq := h.refresher_eq
      script_eq := h.script_eq
      open_eq := h.open_eq
      goes := h.goes
      requests_eq := h.requests_eq
      returned_iff := h.returned_iff
      said_eq := h.said_eq }

theorem logOf_append (es es' : List Entry) :
    logOf (es ++ es') = logOf es ++ logOf es' :=
  List.filterMap_append

theorem requestsOf_append (es es' : List Entry) :
    requestsOf (es ++ es') = requestsOf es ++ requestsOf es' :=
  List.filterMap_append

theorem farewell_of_not_returned (h : a.Carries b es said)
    (hreturned : b.returned = false) : farewell b.loop = [] := by
  by_contra hne
  have htrue := h.returned_iff.mpr hne
  rw [hreturned] at htrue
  cases htrue

theorem advance_eq {milliseconds : ℕ} {last : Loop} {later : List Entry}
    (hadvance : a.refresher.advance a.script (some (a.now + milliseconds + 1)) none
      (a.refresher.stepsWithin a.script (some (a.now + milliseconds + 1)) none)
      a.loop = (last, later)) :
    let words := if a.returned then [] else farewell last
    a.advance milliseconds =
      ({ a with
          now := a.now + milliseconds
          loop := last
          tokenRequests := a.tokenRequests ++ requestsOf later
          returned := a.returned || !words.isEmpty },
        logOf later ++ words) := by
  simp only [Application.advance, hadvance, lastWords_eq]

/-- The passing of time takes the refresher on, and lets it say farewell once. -/
theorem Carries.advance (hpause : a.refresher.pause = .lasting interval)
    (hpositive : 0 < interval) (h : a.Carries b es said) (milliseconds : ℕ) :
    ∃ es', a.Carries (b.advance milliseconds).1 (es ++ es')
      (said ++ (b.advance milliseconds).2) := by
  let limit := b.now + milliseconds + 1
  obtain ⟨last, later, hadvance⟩ : ∃ last later,
      b.refresher.advance b.script (some limit) none
        (b.refresher.stepsWithin b.script (some limit) none)
        b.loop = (last, later) := ⟨_, _, rfl⟩
  have hgoes : a.refresher.Goes a.script limit b.loop later last := by
    have hdone := Refresher.goes_stepsWithin hpause hpositive a.script limit b.loop
    rw [← h.refresher_eq, ← h.script_eq, hadvance] at hdone
    rw [← h.refresher_eq, ← h.script_eq]
    exact hdone
  have hall : a.refresher.Goes a.script limit a.loop (es ++ later) last :=
    h.goes.trans (by omega) hgoes
  have hrequests : b.tokenRequests ++ requestsOf later =
      a.tokenRequests ++ requestsOf (es ++ later) := by
    rw [h.requests_eq, requestsOf_append, List.append_assoc]
  rw [advance_eq hadvance]
  cases hreturned : b.returned with
  | true =>
      -- The loop was over before, so it has nothing more to say.
      have hover := farewell_ne_nil_iff.mp (h.returned_iff.mp hreturned)
      obtain ⟨rfl, hlast, hwords⟩ := hgoes.of_over hover
      have hsaid : said ++ (logOf [] ++ []) =
          logOf (es ++ []) ++ farewell last := by
        rw [List.append_nil es, farewell_of_over hlast, hwords,
          ← farewell_of_over hover, ← h.said_eq]
        simp [logOf]
      exact ⟨[], h.settings_eq, h.refresher_eq, h.script_eq, h.open_eq, hall,
        hrequests, by simpa using farewell_ne_nil_iff.mpr hlast, hsaid⟩
  | false =>
      have hsaid : said ++ (logOf later ++ farewell last) =
          logOf (es ++ later) ++ farewell last := by
        rw [h.said_eq, farewell_of_not_returned h hreturned, logOf_append]
        simp
      exact ⟨later, h.settings_eq, h.refresher_eq, h.script_eq, h.open_eq, hall,
        hrequests, by simp, hsaid⟩

theorem Carries.meet (hpause : a.refresher.pause = .lasting interval)
    (hpositive : 0 < interval) (h : a.Carries b es said) (o : Occasion) :
    ∃ es', a.Carries (b.meet o).1 (es ++ es')
      (said ++ (b.meet o).2.ofRefresher) := by
  rcases b.meet_cases o with ⟨milliseconds, rfl⟩ | ⟨hsame, hsilent, -⟩
  · exact h.advance hpause hpositive milliseconds
  · refine ⟨[], ?_⟩
    rw [hsilent, List.append_nil, List.append_nil]
    exact h.sameButStore hsame

theorem Carries.after (hpause : a.refresher.pause = .lasting interval)
    (hpositive : 0 < interval) (h : a.Carries b es said) (os : List Occasion) :
    ∃ es', a.Carries (b.after os) (es ++ es') (said ++ b.refresherLog os) := by
  induction os generalizing b es said with
  | nil =>
      refine ⟨[], ?_⟩
      have hsilent : b.refresherLog [] = [] := rfl
      rw [hsilent, List.append_nil, List.append_nil]
      exact h
  | cons o os ih =>
      obtain ⟨here, hmeet⟩ := h.meet hpause hpositive o
      obtain ⟨later, hafter⟩ := ih hmeet
      refine ⟨here ++ later, ?_⟩
      rw [after_cons, refresherLog_cons, ← List.append_assoc, ← List.append_assoc]
      exact hafter

theorem now_meet (a : Application) (o : Occasion) :
    (a.meet o).1.now = a.now + o.duration := by
  rcases a.meet_cases o with ⟨milliseconds, rfl⟩ | ⟨hsame, -, hduration⟩
  · rfl
  · obtain ⟨store, replies, requests, hnext⟩ := hsame
    rw [hnext, hduration, Nat.add_zero]

/-- The clock shows all the time that has passed. -/
theorem now_after (a : Application) (os : List Occasion) :
    (a.after os).now = a.now + elapsed os := by
  induction os generalizing a with
  | nil => rfl
  | cons o os ih =>
      calc
        (a.after (o :: os)).now = (a.meet o).1.now + elapsed os := ih _
        _ = a.now + (o.duration + elapsed os) := by
              rw [now_meet, Nat.add_assoc]
        _ = a.now + elapsed (o :: os) := rfl

end Application

end CallRegistry
