import CallRegistry.Proofs.RefreshCycles

/-!
# How a run of the refresher ends

A run ends by the signal that it is given, or because the delivery to its latest
request interrupted the loop.  The end of the loop is announced as an error, with
one exception: a loop that was cancelled by its delivery reports to nobody.  The
proof follows the loop from step to step, whatever the plan of the run is.
-/

namespace CallRegistry.Token

open File (Tree)
open Http (Script Interruption)

/-- The reason for which the loop is said to have ended. -/
def Happening.death? : Happening → Option String
  | .logged (.refresherDied reason) => some reason
  | _ => none

/-- By a time at which so many requests had gone out, the signal was given. -/
def Plan.Gave (plan : Plan) (signal : Signal) (now sent : ℕ) : Prop :=
  (∃ time ≤ now, plan.atTime = some (time, signal)) ∨
    ∃ number ≤ sent, plan.atRequest = some (number, signal)

namespace Refresher

variable {r : Refresher} {script : Script} {t : Tree} {plan : Plan}
  {interval k now : ℕ} {l last : Loop} {es : List Entry}
  {limit quit : Option ℕ}

/-- The delivery to the latest request interrupted the loop. -/
structure DiedOf (r : Refresher) (script : Script) (l : Loop) (died : ℕ)
    (reason : Option String) (k : ℕ) (sort : Interruption) (message : String) :
    Prop where
  sent_eq : l.sent = k + 1
  outcome_eq : (script.delivery k).outcome = .interruption sort message
  died_eq : ∃ since delay, r.begins? script k = some since ∧
    (script.delivery k).delay = some delay ∧ died = since + delay
  reason_eq : reason = if sort = .cancelled then none else some message

/-- The loop is in a cycle, and if it is over it was interrupted. -/
structure Accounted (r : Refresher) (script : Script) (t : Tree) (l : Loop) :
    Prop where
  cycle : ∃ limit k, r.InCycle script t limit k l
  death : ∀ died reason, l.phase = .ended died reason →
    ∃ k sort message, r.DiedOf script l died reason k sort message

theorem rest_ne_ended (hpause : r.pause = .lasting interval) (now died : ℕ)
    (reason : Option String) : r.rest now ≠ .ended died reason := by
  simp [rest_of_lasting hpause]

theorem accounted_start (hpause : r.pause = .lasting interval)
    (script : Script) (t : Tree) :
    r.Accounted script t (r.start 0 0 t) where
  cycle := ⟨0, 0, inCycle_start hpause t⟩
  death died reason hended := absurd hended (rest_ne_ended hpause 0 died reason)

theorem wake_ne_ended (hpause : r.pause = .lasting interval)
    (script : Script) (now : ℕ) (l : Loop) (died : ℕ) (reason : Option String) :
    (r.wake script now l).1.phase ≠ .ended died reason := by
  unfold wake
  cases r.source.send true with
  | none => exact rest_ne_ended hpause now died reason
  | some dispatched =>
      cases dispatched with
      | error fault => exact rest_ne_ended hpause now died reason
      | ok url => simp

/-- Only a fetch that was interrupted ends the loop. -/
theorem interrupted_of_ended {ending : FetchEnd} {died : ℕ}
    {reason : Option String} (hpause : r.pause = .lasting interval)
    (hended : r.afterFetch now ending = .ended died reason) :
    died = now ∧ ∃ sort message, ending = .interrupted sort message ∧
      reason = if sort = .cancelled then none else some message := by
  cases ending with
  | done => exact absurd hended (rest_ne_ended hpause now died reason)
  | failed fault => exact absurd hended (rest_ne_ended hpause now died reason)
  | interrupted sort message =>
      cases sort <;> cases hended <;> exact ⟨rfl, _, message, rfl, rfl⟩

theorem Accounted.step (hpause : r.pause = .lasting interval)
    (h : r.Accounted script t l) (hdue : l.due = some now) :
    r.Accounted script t (r.step script now l).1 := by
  obtain ⟨limit, k, hcycle⟩ := h.cycle
  have hlater := hcycle.mono (Nat.le_max_left limit (now + 1))
  obtain ⟨hs, -, hstep⟩ := hlater.step hpause hdue (by omega)
  constructor
  · cases hstep with
    | asks url hsend hsince hnext => exact ⟨_, k, hnext⟩
    | ends since hsince hends hnext => exact ⟨_, k + 1, hnext⟩
    | stays hnext => exact ⟨_, k, hnext⟩
  · intro died reason hended
    -- Of the states only a delivery under way can interrupt the loop.
    cases hcycle with
    | resting hsince hsent =>
        exact absurd hended (wake_ne_ended hpause script now _ died reason)
    | @waiting since url hsince hsend =>
        obtain ⟨delay, hdelay, rfl⟩ := Option.map_eq_some_iff.mp hdue
        simp only [Refresher.step, deliver] at hended ⊢
        split at hended
        · cases hended
        · next ending hread =>
            obtain ⟨hdied, sort, message, rfl, hreason⟩ :=
              interrupted_of_ended hpause hended
            exact ⟨k, sort, message, rfl, read_interrupted hread,
              ⟨since, delay, hsince, hdelay, hdied⟩, hreason⟩
    | writing hsince harrives hlt hsend htoken =>
        obtain ⟨-, sort, message, hending, -⟩ := interrupted_of_ended hpause hended
        exact absurd hending (put_not_interrupted r.source _ _ _ sort message)
    | ended houtcome hends => cases hdue

/-- While the loop takes its steps it does not speak of its end. -/
theorem timed_death_step (r : Refresher) (script : Script) (now : ℕ)
    (l : Loop) : timed Happening.death? (r.step script now l).2 = [] := by
  have hreport (since : ℕ) (ending : FetchEnd) :
      ((r.report since now ending).map Happening.logged).filterMap
        Happening.death? = [] := by
    cases ending <;> rfl
  have hannounced : (r.source.announcement.map Happening.logged).filterMap
      Happening.death? = [] := by
    unfold TokenSource.announcement
    cases r.source.url <;> rfl
  have hsteps : ∀ next hs, hs.filterMap Happening.death? = [] →
      timed Happening.death? (r.entries now next hs) = [] := by
    intro next hs h
    rw [timed_entries, h, List.map_nil]
  unfold step
  cases l.phase with
  | resting wake =>
      apply hsteps
      unfold Refresher.wake
      cases r.source.send true with
      | none => rfl
      | some dispatched =>
          cases dispatched with
          | error fault =>
              dsimp only
              rw [List.filterMap_append, hannounced]
              exact hreport now (.failed (.send fault))
          | ok url =>
              dsimp only
              rw [List.filterMap_append, hannounced]
              rfl
  | waiting since url delivery =>
      apply hsteps
      unfold deliver
      split
      · rfl
      · next ending hread => exact hreport since ending
  | writing since work => exact hsteps _ _ (hreport since _)
  | outlived time work => rfl
  | ended died reason => rfl

/-- However far the loop goes, its end is accounted for, and still to be told. -/
theorem Accounted.advance (hpause : r.pause = .lasting interval)
    (limit quit : Option ℕ) (fuel : ℕ) (h : r.Accounted script t l) :
    r.Accounted script t (r.advance script limit quit fuel l).1 ∧
      timed Happening.death? (r.advance script limit quit fuel l).2 = [] := by
  induction fuel generalizing l with
  | zero => exact ⟨h, rfl⟩
  | succ fuel ih =>
      unfold Refresher.advance
      cases hdue : l.due with
      | none => exact ⟨h, rfl⟩
      | some now =>
          dsimp only
          split
          · obtain ⟨hlast, hlater⟩ := ih (h.step hpause hdue)
            refine ⟨hlast, ?_⟩
            rw [timed_append, timed_death_step, hlater, List.append_nil]
          · exact ⟨h, rfl⟩

theorem sent_halt (l : Loop) (now : ℕ) : (l.halt now).sent = l.sent := by
  unfold Loop.halt
  split <;> rfl

theorem not_over_rest (hpause : r.pause = .lasting interval) (now : ℕ) :
    ¬ Over (r.rest now) := by
  rw [rest_of_lasting hpause]
  exact id

theorem over_afterFetch (hpause : r.pause = .lasting interval) (now : ℕ)
    (ending : FetchEnd) : ¬ Over (r.afterFetch now ending) ∨
      ∃ reason, r.afterFetch now ending = .ended now reason := by
  cases ending with
  | done => exact .inl (not_over_rest hpause now)
  | failed fault => exact .inl (not_over_rest hpause now)
  | interrupted sort message =>
      exact .inr (r.afterFetch_interrupted now sort message)

/-- A step that ends the loop ends it at once. -/
theorem over_step (hpause : r.pause = .lasting interval) (script : Script)
    (hactive : ¬ Over l.phase) (now : ℕ) :
    ¬ Over (r.step script now l).1.phase ∨
      ∃ reason, (r.step script now l).1.phase = .ended now reason := by
  obtain ⟨phase, tree, sent⟩ := l
  cases phase with
  | resting since =>
      left
      simp only [Refresher.step, Refresher.wake]
      split
      · exact not_over_rest hpause now
      · exact not_over_rest hpause now
      · exact id
  | waiting since url delivery =>
      simp only [Refresher.step, deliver]
      split
      · exact .inl id
      · next ending hread => exact over_afterFetch hpause now ending
  | writing since work => exact over_afterFetch hpause now _
  | outlived time work => exact absurd trivial hactive
  | ended time reason => exact absurd trivial hactive

/-- A loop that is over by a limit came to its end before it. -/
theorem Goes.over_last {limit : ℕ} (hpause : r.pause = .lasting interval)
    (hgoes : r.Goes script limit l es last) (hactive : ¬ Over l.phase) :
    ¬ Over last.phase ∨
      ∃ died reason, last.phase = .ended died reason ∧ died < limit := by
  induction hgoes with
  | stop hdue => exact .inl hactive
  | @step l last now es hdue hlt hgoes ih =>
      rcases over_step hpause script hactive now with hnext | ⟨reason, hnext⟩
      · exact ih hnext
      · have hover : (r.step script now l).1.due = none := by
          simp [Loop.due, hnext]
        obtain ⟨-, rfl⟩ := hgoes.of_due_none hover
        exact .inr ⟨now, reason, hnext, hlt⟩

/-- What a run comes to, once its loop has gone as far as it goes. -/
inductive Settles (r : Refresher) (plan : Plan) (l : Loop)
    (before : List Entry) : RunResult → Prop where
  | died {died : ℕ} {reason : Option String}
      (hended : l.phase = .ended died reason) :
      Settles r plan l before (r.conclude died l before .stop)
  | signalled {now : ℕ} {signal : Signal}
      (hgave : plan.Gave signal now l.sent) :
      Settles r plan l before (r.conclude now l before signal)
  | never : Settles r plan l before
      { entries := before, loop := l, conclusion := .never }

theorem settles_timed (r : Refresher) (plan : Plan) (l : Loop)
    (before : List Entry) :
    r.Settles plan l before (settle.timed r plan l before) := by
  unfold settle.timed
  split
  · next time signal hplan => exact .signalled (.inl ⟨time, le_rfl, hplan⟩)
  · exact .never

theorem settles_settle (r : Refresher) (plan : Plan) (l : Loop)
    (before : List Entry) : r.Settles plan l before (r.settle plan l before) := by
  unfold settle
  split
  · next died reason hended => exact .died hended
  · next since url delivery number signal hphase hplan =>
      split
      · next hsent => exact .signalled (.inr ⟨number, hsent.ge, hplan⟩)
      · exact settles_timed r plan l before
  · exact settles_timed r plan l before

/-- Every run of a refresher that rests settles. -/
theorem settles_run (hpause : r.pause = .lasting interval) (script : Script)
    (plan : Plan) (t : Tree) :
    ∃ last before, r.Accounted script t last ∧
      timed Happening.death? before = [] ∧
      r.Settles plan last before (r.run script plan t) := by
  have hstart := accounted_start hpause script t
  have hready : timed Happening.death?
      (r.entries 0 (r.start 0 0 t) [.logged .refresherReady]) = [] := rfl
  unfold run
  dsimp only
  split
  · next signal hplan =>
      exact ⟨_, _, hstart, hready, .signalled (.inl ⟨0, le_rfl, hplan⟩)⟩
  · obtain ⟨hlast, hlater⟩ := hstart.advance hpause
      (plan.atTime.map (·.1 + 1)) (plan.atRequest.map (·.1))
      (r.stepsWithin script (plan.atTime.map (·.1 + 1))
        (plan.atRequest.map (·.1)))
    refine ⟨_, _, hlast, ?_, settles_settle r plan _ _⟩
    rw [timed_append, hready, hlater, List.append_nil]

theorem timed_death_conclude {died : ℕ} {reason : Option String}
    (hended : l.phase = .ended died reason) (r : Refresher) (now : ℕ)
    (before : List Entry) :
    timed Happening.death? (r.conclude now l before .stop).entries =
      timed Happening.death? before ++ reason.toList.map (now, ·) := by
  simp only [conclude, timed_append, timed_entries, hended]
  cases reason <;> rfl

end Refresher

/-- A run that returns without having been told to stop has lost its loop to the
delivery to its latest request, at the moment when it came.  The run says so in one
error of the log, unless the delivery cancelled the loop.  A run is cancelled only if
it was told to be. -/
theorem refresher_end_reported (r : Refresher) (script : Script) (plan : Plan)
    (t : Tree) {interval : ℕ} (hpause : r.pause = .lasting interval) :
    let result := r.run script plan t
    (∀ now, result.conclusion = .returned now →
      ¬ plan.Gave .stop now result.loop.sent →
      ∃ k sort message,
        result.loop.sent = k + 1 ∧
        (script.delivery k).outcome = .interruption sort message ∧
        (∃ since delay, r.begins? script k = some since ∧
          (script.delivery k).delay = some delay ∧ now = since + delay) ∧
        timed Happening.death? result.entries =
          if sort = .cancelled then [] else [(now, message)]) ∧
    (∀ now, result.conclusion = .cancelled now →
      plan.Gave .cancel now result.loop.sent) ∧
    ∀ reason, (Event.refresherDied reason).level = .error ∧
      (Event.refresherDied reason).message =
        "Identity fetcher loop ended unexpectedly" := by
  intro result
  obtain ⟨last, before, haccounted, hbefore, hsettles⟩ :=
    Refresher.settles_run hpause script plan t
  generalize hresult : r.run script plan t = done at hsettles
  have hdone : result = done := hresult
  rw [hdone]
  refine ⟨?_, ?_, fun _ => ⟨rfl, rfl⟩⟩
  · intro now hreturned hunstopped
    cases hsettles with
    | @died died reason hended =>
        obtain rfl : died = now := Conclusion.returned.inj hreturned
        obtain ⟨k, sort, message, hdied⟩ := haccounted.death died reason hended
        refine ⟨k, sort, message, ?_, hdied.outcome_eq, hdied.died_eq, ?_⟩
        · rw [Refresher.loop_conclude, Refresher.sent_halt, hdied.sent_eq]
        · rw [Refresher.timed_death_conclude hended, hbefore, hdied.reason_eq]
          split <;> rfl
    | @signalled now' signal hgave =>
        cases signal with
        | stop =>
            obtain rfl : now' = now := Conclusion.returned.inj hreturned
            rw [Refresher.loop_conclude, Refresher.sent_halt] at hunstopped
            exact absurd hgave hunstopped
        | cancel => cases hreturned
    | never => cases hreturned
  · intro now hcancelled
    cases hsettles with
    | died hended => cases hcancelled
    | @signalled now' signal hgave =>
        cases signal with
        | stop => cases hcancelled
        | cancel =>
            obtain rfl : now' = now := Conclusion.cancelled.inj hcancelled
            rw [Refresher.loop_conclude, Refresher.sent_halt]
            exact hgave
    | never => cases hcancelled

/-- A refresher of a token file, and a reply that interrupts its first fetch. -/
def interruptedRefresher : Refresher :=
  ⟨⟨some "http://md/t", .ofText "/run/token"⟩, .lasting 1000⟩

def interruptedScript (sort : Interruption) : Script :=
  [⟨.interruption sort "closed", some 250, {}⟩]

/-- A loop that a reply takes down is told of at once, long before the stop. -/
theorem interrupted_fetch_reported :
    let result := interruptedRefresher.run (interruptedScript .generatorExit)
      ⟨some (5000, .stop), none⟩ (Tree.empty [])
    result.conclusion = .returned 1250 ∧
      timed Happening.death? result.entries = [(1250, "closed")] := by
  intro result
  have hreturned : result.conclusion = .returned 1250 := by decide +kernel
  have hunstopped :
      ¬ Plan.Gave ⟨some (5000, .stop), none⟩ .stop 1250 result.loop.sent := by
    rintro (⟨time, hle, htime⟩ | ⟨number, -, hnumber⟩)
    · cases htime
      omega
    · cases hnumber
  obtain ⟨hreported, -⟩ := refresher_end_reported interruptedRefresher
    (interruptedScript .generatorExit) ⟨some (5000, .stop), none⟩
    (Tree.empty []) (show _ = Pause.lasting 1000 from rfl)
  obtain ⟨k, sort, message, -, houtcome, -, hentries⟩ :=
    hreported 1250 hreturned hunstopped
  refine ⟨hreturned, ?_⟩
  rw [hentries]
  cases k <;> cases houtcome <;> rfl

/-- A loop that a reply cancels is over long before the stop, and no error says
so. -/
theorem cancelled_fetch_unreported :
    let plan : Plan := ⟨some (5000, .stop), none⟩
    let result := interruptedRefresher.run (interruptedScript .cancelled) plan
      (Tree.empty [])
    interruptedRefresher.pause = .lasting 1000 ∧
      result.conclusion = .returned 1250 ∧
      ¬ plan.Gave .stop 1250 result.loop.sent ∧
      ¬ plan.Gave .cancel 1250 result.loop.sent ∧
      ∀ e ∈ result.entries, ∀ event, e.happening = .logged event →
        event.level ≠ .error := by
  intro plan result
  have hungiven (signal : Signal) : ¬ plan.Gave signal 1250 result.loop.sent := by
    rintro (⟨time, hle, htime⟩ | ⟨number, -, hnumber⟩)
    · cases htime
      omega
    · cases hnumber
  have hentries : result.entries.map Entry.happening =
      [.logged .refresherReady, .logged (.tokenRequested "http://md/t"),
        .requested 1 "http://md/t", .logged .refresherStopped] := by
    decide +kernel
  refine ⟨rfl, by decide +kernel, hungiven .stop, hungiven .cancel, ?_⟩
  intro e he event hevent
  have hmem : e.happening ∈ result.entries.map Entry.happening :=
    List.mem_map_of_mem he
  rw [hentries, hevent] at hmem
  simp only [List.mem_cons, Happening.logged.injEq, reduceCtorEq, false_or,
    List.not_mem_nil, or_false] at hmem
  rcases hmem with rfl | rfl | rfl <;> decide

end CallRegistry.Token
