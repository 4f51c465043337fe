import CallRegistry.Proofs.ApplicationLife
import CallRegistry.Proofs.LaterRequests
import CallRegistry.Proofs.RefresherEnd
import CallRegistry.Proofs.StartedServices

/-!
# The shutdown of an application

An application may be shut down at any moment of its life.  Until then its
refresher has gone through a run that is told to stop at that very moment, and the
run has returned by then: what it was waiting for is left, be it the end of a
pause or a delivery.  Nothing is asked for afterwards, and nothing is written but a
token that was handed over to be put in place.
-/

namespace CallRegistry

open File (Path Tree)
open Http (Script)
open Token (Entry Loop Phase Refresher RunResult)

namespace Application

variable {a b : Application} {es : List Entry} {said : List Event}
  {s : Settings} {script : Script} {replies : List Reply} {t : Tree}
  {maker : ClientMaker}

/-! ## At the launch -/

theorem pause_of_launched
    (hlaunched : (launch s script replies t maker).application = some a) :
    a.refresher.pause = .lasting s.intervalMs := by
  obtain ⟨services, houtcome, rfl⟩ := launch_eq_some_iff.mp hlaunched
  cases Settings.provides_start houtcome <;> rfl

theorem loop_of_launched
    (hlaunched : (launch s script replies t maker).application = some a) :
    a.loop = (a.refresher.start 0 0 a.loop.tree).later
      a.tokenRequests.length ∧ a.now = 0 ∧ a.returned = false := by
  obtain ⟨services, houtcome, rfl⟩ := launch_eq_some_iff.mp hlaunched
  exact ⟨rfl, rfl, rfl⟩

theorem phase_of_launched
    (hlaunched : (launch s script replies t maker).application = some a) :
    a.loop.phase = .resting (0 + a.refresher.pauseLength) := by
  rw [(loop_of_launched hlaunched).1]
  exact Refresher.rest_of_lasting (pause_of_launched hlaunched) 0

/-- A launched application has done nothing yet, and its refresher rests. -/
theorem carries_of_launched
    (hlaunched : (launch s script replies t maker).application = some a) :
    a.Carries a [] [] := by
  obtain ⟨-, hnow, hreturned⟩ := loop_of_launched hlaunched
  have hphase := phase_of_launched hlaunched
  have hfarewell : farewell a.loop = [] := by
    simp [farewell, hphase]
  exact
    { settings_eq := rfl
      refresher_eq := rfl
      script_eq := rfl
      open_eq := rfl
      goes := .stop fun now hdue => by
        have hpositive := s.intervalMs.property
        simp only [Loop.due, hphase, Refresher.pauseLength,
          pause_of_launched hlaunched, Option.some.injEq] at hdue
        omega
      requests_eq := (List.append_nil a.tokenRequests).symm
      returned_iff := by simp [hreturned, hfarewell]
      said_eq := hfarewell.symm }

/-- From the launch to any later moment. -/
theorem carries_after_launch
    (hlaunched : (launch s script replies t maker).application = some a)
    (os : List Occasion) :
    ∃ es, a.Carries (a.after os) es (a.refresherLog os) := by
  have hcarries := (carries_of_launched hlaunched).after
    (pause_of_launched hlaunched) s.intervalMs.property os
  simpa only [List.nil_append] using hcarries

/-! ## The run that is told to stop -/

theorem logOf_entries (r : Refresher) (now : ℕ) (l : Loop)
    (events : List Event) :
    logOf (r.entries now l (events.map .logged)) = events := by
  simp [logOf, Refresher.entries, List.filterMap_map, Function.comp_def]

theorem requestsOf_entries (r : Refresher) (now : ℕ) (l : Loop)
    (events : List Event) :
    requestsOf (r.entries now l (events.map .logged)) = [] := by
  simp [requestsOf, Refresher.entries, List.filterMap_map, Function.comp_def]

/-- When the run of an application that is shut down is over: now, unless its loop
has ended before. -/
def endTime (b : Application) : ℕ :=
  match b.loop.phase with
  | .ended died _ => died
  | _ => b.now

/-- An application whose run has returned, and whose client is closed. -/
def shut (b : Application) : Application :=
  { b with loop := b.loop.halt b.endTime, returned := true, clientOpen := false }

/-- What a shutdown does: the run returns, unless it has before, and the client is
closed. -/
theorem stop_eq (b : Application) :
    b.stoppedRun.conclusion = .returned b.endTime ∧
      b.stop = (b.shut, .registryStopping :: if b.returned then []
        else Refresher.obituary b.loop.phase ++ [.refresherStopped]) := by
  have hrun : b.stoppedRun = b.refresher.conclude b.endTime b.loop [] .stop := by
    unfold stoppedRun Refresher.settle endTime
    split
    · next died reason hended => rw [hended]
    · next hrequest => cases hrequest
    · next hactive hrequest =>
        split
        · next died reason hended => exact absurd hended (hactive died reason)
        · rfl
  refine ⟨by rw [hrun]; rfl, ?_⟩
  unfold stop
  simp only [hrun, Refresher.conclude, List.nil_append, logOf_entries]
  rfl

/-- The loop of an application that was not shut down is at work, or was ended by a
delivery. -/
theorem loop_after_launch
    (hlaunched : (launch s script replies t maker).application = some a)
    (hcarries : a.Carries b es said) :
    ¬ Refresher.Over b.loop.phase ∨
      ∃ died reason, b.loop.phase = .ended died reason ∧ died ≤ b.now := by
  have hactive : ¬ Refresher.Over a.loop.phase := by
    rw [phase_of_launched hlaunched]
    exact id
  rcases hcarries.goes.over_last (pause_of_launched hlaunched) hactive with
    hover | ⟨died, reason, hended, hlt⟩
  · exact .inl hover
  · exact .inr ⟨died, reason, hended, Nat.le_of_lt_succ hlt⟩

theorem due_of_halt {l : Loop} {now due : ℕ} (h : (l.halt now).due = some due) :
    l.due = some due := by
  obtain ⟨phase, tree, sent⟩ := l
  cases phase with
  | writing | outlived => exact h
  | resting | waiting | ended => cases h

theorem carries_shut (hdue : ∀ due, b.loop.due = some due → b.now + 1 ≤ due) :
    b.shut.Carries b.shut [] (farewell b.shut.loop) where
  settings_eq := rfl
  refresher_eq := rfl
  script_eq := rfl
  open_eq := rfl
  goes := .stop fun due hhalted => hdue due (due_of_halt hhalted)
  requests_eq := (List.append_nil _).symm
  returned_iff :=
    ⟨fun _ => farewell_ne_nil_iff.mpr (Refresher.over_halt b.loop b.endTime),
      fun _ => rfl⟩
  said_eq := rfl

/-- The tree when some time has passed after a shutdown: as it was, but for a token
that was handed over and that has been put in place by now. -/
def treeLeft (b : Application) (now : ℕ) : Tree :=
  match b.loop.phase with
  | .writing _ work =>
    if work.done ≤ now then
      (b.refresher.source.put work.body work.mishap b.loop.tree).1
    else b.loop.tree
  | _ => b.loop.tree

theorem treeLeft_of_writing {since : ℕ} {work : Token.Work}
    (hphase : b.loop.phase = .writing since work) (now : ℕ) :
    b.treeLeft now = if work.done ≤ now then
      (b.refresher.source.put work.body work.mishap b.loop.tree).1
    else b.loop.tree := by
  simp [treeLeft, hphase]

theorem treeLeft_of_idle (hidle : ∀ since work, b.loop.phase ≠ .writing since work)
    (now : ℕ) : b.treeLeft now = b.loop.tree := by
  unfold treeLeft
  split
  · next since work hphase => exact absurd hphase (hidle since work)
  · rfl

theorem tree_of_halted {time now : ℕ} {last : Loop}
    (hunstopped : ∀ time work, b.loop.phase ≠ .outlived time work)
    (hgoes : b.refresher.Goes b.script (now + 1) (b.loop.halt time) es last) :
    last.tree = b.treeLeft now := by
  cases hphase : b.loop.phase with
  | writing since work =>
      rw [treeLeft_of_writing hphase]
      have hhalt : b.loop.halt time =
          { b.loop with phase := .outlived time work } := by
        simp [Loop.halt, hphase]
      rw [hhalt] at hgoes
      cases hgoes with
      | stop hdue =>
          have hlate := hdue work.done rfl
          have hopen : ¬ work.done ≤ now := by omega
          simp only [hopen, if_false]
      | step hdue hlt hrest =>
          cases hdue
          obtain ⟨-, rfl⟩ := hrest.of_due_none rfl
          simp only [Nat.le_of_lt_succ hlt, if_true]
          rfl
  | outlived time' work => exact absurd hphase (hunstopped time' work)
  | resting | waiting | ended =>
      have hnone : (b.loop.halt time).due = none := by
        simp [Loop.halt, Loop.due, hphase]
      obtain ⟨-, rfl⟩ := hgoes.of_due_none hnone
      rw [treeLeft_of_idle (by simp [hphase])]
      exact Refresher.tree_halt b.loop time

/-- Whatever comes after the shutdown, nothing is asked for, the client stays closed,
and nothing is written but what was handed over. -/
theorem still_after_stop
    (hlaunched : (launch s script replies t maker).application = some a)
    (hcarries : a.Carries b es said) (os : List Occasion) :
    (b.stop.1.after os).tokenRequests = b.tokenRequests ∧
      (b.stop.1.after os).clientOpen = false ∧
      (b.stop.1.after os).loop.tree = b.treeLeft (b.now + elapsed os) := by
  have hpause : b.shut.refresher.pause = .lasting s.intervalMs := by
    rw [show b.shut.refresher = b.refresher from rfl, hcarries.refresher_eq]
    exact pause_of_launched hlaunched
  have hunstopped : ∀ time work, b.loop.phase ≠ .outlived time work := by
    intro time work hphase
    rcases loop_after_launch hlaunched hcarries with hover | ⟨died, reason, hended, -⟩
    · rw [hphase] at hover
      exact hover trivial
    · rw [hphase] at hended
      cases hended
  obtain ⟨es', hafter⟩ := (carries_shut hcarries.goes.due_last).after hpause
    s.intervalMs.property os
  obtain ⟨hsilent, -⟩ :=
    hafter.goes.of_over (Refresher.over_halt b.loop b.endTime)
  rw [b.stop_eq.2]
  refine ⟨?_, hafter.open_eq, ?_⟩
  · rw [hafter.requests_eq, hsilent]
    exact List.append_nil _
  · have hgoes := hafter.goes
    rw [now_after b.shut os] at hgoes
    exact tree_of_halted hunstopped hgoes

end Application

open Application

end CallRegistry
