import CallRegistry.Proofs.RefreshCycles

/-!
# A refresher that begins after other requests

The first request of a startup is not the refresher's, so its loop begins when a
delivery of the script may have been used up.  It then goes the way of a loop that
begins with none, over the deliveries that are left: only the numbers of its
requests are higher.
-/

namespace CallRegistry.Http.Script

/-- The deliveries that are left when so many requests have gone out. -/
def after (script : Script) (n : ℕ) : Script :=
  if n < script.length then script.drop n else script.getLast?.toList

theorem delivery_after (script : Script) (n k : ℕ) :
    (script.after n).delivery k = script.delivery (n + k) := by
  unfold after delivery
  by_cases hn : n < script.length
  · have hlast : (script.drop n).getLast? = script.getLast? := by
      rw [List.getLast?_drop, if_neg (by omega)]
    rw [if_pos hn, List.getElem?_drop, hlast]
  · have hused : script[n + k]? = none := by
      rw [List.getElem?_eq_none_iff]
      omega
    rw [if_neg hn, hused]
    -- All that is left is the last delivery, again and again.
    cases hlast : script.getLast? with
    | none => simp
    | some d => cases k <;> simp

end CallRegistry.Http.Script

namespace CallRegistry.Token

open Http (Script)

/-- The happening when so many requests went out before. -/
def Happening.later (n : ℕ) : Happening → Happening
  | .requested number url => .requested (n + number) url
  | .logged event => .logged event

def Entry.later (n : ℕ) (e : Entry) : Entry :=
  { e with happening := e.happening.later n }

def Loop.later (n : ℕ) (l : Loop) : Loop :=
  { l with sent := n + l.sent }

namespace Refresher

variable {r : Refresher} {script : Script} {limit now n : ℕ} {l last : Loop}
  {es : List Entry}

theorem entries_later (r : Refresher) (now n : ℕ) (l : Loop)
    (hs : List Happening) :
    r.entries now (l.later n) (hs.map (Happening.later n)) =
      (r.entries now l hs).map (Entry.later n) := by
  simp only [entries, List.map_map]
  rfl

theorem later_logged (n : ℕ) (events : List Event) :
    (events.map Happening.logged).map (Happening.later n) =
      events.map Happening.logged := by
  rw [List.map_map]
  rfl

theorem wake_later (r : Refresher) (script : Script) (now n : ℕ) (l : Loop) :
    r.wake script now (l.later n) =
      ((r.wake (script.after n) now l).1.later n,
        (r.wake (script.after n) now l).2.map (Happening.later n)) := by
  unfold wake
  cases r.source.send true with
  | none => rfl
  | some dispatched =>
      cases dispatched with
      | error fault =>
          dsimp only
          rw [List.map_append, later_logged, later_logged]
          rfl
      | ok url =>
          dsimp only
          rw [List.map_append, later_logged, Http.Script.delivery_after]
          rfl

theorem deliver_later (r : Refresher) (since now n : ℕ) (url : Http.Url)
    (d : Http.Delivery) (l : Loop) :
    r.deliver since now url d (l.later n) =
      ((r.deliver since now url d l).1.later n,
        (r.deliver since now url d l).2.map (Happening.later n)) := by
  unfold deliver
  split
  · rfl
  · dsimp only
    rw [later_logged]
    rfl

theorem complete_later (r : Refresher) (since now n : ℕ) (work : Work)
    (l : Loop) :
    r.complete since now work (l.later n) =
      ((r.complete since now work l).1.later n,
        (r.complete since now work l).2.map (Happening.later n)) := by
  unfold complete
  dsimp only
  rw [later_logged]
  rfl

theorem step_later (r : Refresher) (script : Script) (now n : ℕ) (l : Loop) :
    r.step script now (l.later n) =
      ((r.step (script.after n) now l).1.later n,
        (r.step (script.after n) now l).2.map (Entry.later n)) := by
  have hphase : (l.later n).phase = l.phase := rfl
  unfold step
  rw [hphase]
  cases l.phase with
  | resting wake =>
      dsimp only
      rw [wake_later, entries_later]
  | waiting since url delivery =>
      dsimp only
      rw [deliver_later, entries_later]
  | writing since work =>
      dsimp only
      rw [complete_later, entries_later]
  | outlived time work => rfl
  | ended time reason => rfl

/-- What a loop does over the deliveries that are left, it does later over all of
them. -/
theorem Goes.later (h : r.Goes (script.after n) limit l es last) :
    r.Goes script limit (l.later n) (es.map (Entry.later n)) (last.later n) := by
  induction h with
  | stop hdue => exact .stop hdue
  | @step l last now es hdue hlt hgoes ih =>
      have hstep := r.step_later script now n l
      have hnext : r.Goes script limit (r.step script now (l.later n)).1
          (es.map (Entry.later n)) (last.later n) := by
        rw [hstep]
        exact ih
      have hall := Goes.step (l := l.later n) hdue hlt hnext
      rw [hstep, ← List.map_append] at hall
      exact hall

end Refresher

end CallRegistry.Token
