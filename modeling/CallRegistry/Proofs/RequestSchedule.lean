import CallRegistry.Proofs.RefreshCycles

/-!
# When tokens are asked for

The times of all requests of a run are told from the pause and the script alone.  A
request goes out one pause after the delivery to the one before has come and its token,
if it brought one, was put in place, and the first one a pause after the run began.  A
delivery that never comes, or that interrupts the loop, is the last that was asked for.
-/

namespace CallRegistry.Http.Script

variable {script : Script} {k : ℕ}

/-- The first so many deliveries come, and none of them is an interruption. -/
def Answered (script : Script) (k : ℕ) : Prop :=
  ∀ j < k, (script.delivery j).delay ≠ none ∧
    ∀ sort message, (script.delivery j).outcome ≠ .interruption sort message

/-- How long the first so many deliveries take together. -/
def delaySum (script : Script) (k : ℕ) : ℕ :=
  ((List.range k).map fun j => (script.delivery j).delay.getD 0).sum

theorem answered_succ_iff :
    script.Answered (k + 1) ↔ script.Answered k ∧
      (script.delivery k).delay ≠ none ∧
        ∀ sort message, (script.delivery k).outcome ≠ .interruption sort message :=
  Nat.forall_lt_succ_right

theorem delaySum_succ (script : Script) (k : ℕ) :
    script.delaySum (k + 1) =
      script.delaySum k + (script.delivery k).delay.getD 0 := by
  simp [delaySum, List.range_succ]

end CallRegistry.Http.Script

namespace CallRegistry.Token

open File (Tree)
open Http (Script Url)

theorem timed_tokenRequest? (es : List Entry) :
    timed Happening.tokenRequest? es =
      (timed Happening.request? es).map fun sent =>
        (sent.1, TokenRequest.ofUrl sent.2.2) := by
  simp only [timed, List.map_filterMap]
  apply List.filterMap_congr
  intro e he
  cases e.happening <;> rfl

namespace Refresher

variable {r : Refresher} {script : Script} {t : Tree} {url : Url}
  {interval k time : ℕ}

/-- How long it takes to put the tokens of the first so many cycles in place. -/
def writingSum (r : Refresher) (script : Script) (k : ℕ) : ℕ :=
  ((List.range k).map (r.writingTime script)).sum

/-- When the request of a cycle goes out, if the run lasts: behind a pause for each
request up to this one, and the deliveries and the writing of the tokens before it. -/
def sendTime (r : Refresher) (script : Script) (k : ℕ) : ℕ :=
  (k + 1) * r.pauseLength + script.delaySum k + r.writingSum script k

theorem writingSum_succ (r : Refresher) (script : Script) (k : ℕ) :
    r.writingSum script (k + 1) =
      r.writingSum script k + r.writingTime script k := by
  simp [writingSum, List.range_succ]

theorem sendTime_succ {delay : ℕ} (hdelay : (script.delivery k).delay = some delay)
    (r : Refresher) :
    r.sendTime script (k + 1) =
      r.sendTime script k + delay + r.writingTime script k + r.pauseLength := by
  unfold sendTime
  rw [Http.Script.delaySum_succ, writingSum_succ, hdelay, Option.getD_some]
  ring

theorem writingTime_of_span (h : ∀ d ∈ script, d.writing.span = 0) (r : Refresher)
    (k : ℕ) : r.writingTime script k = 0 := by
  have hspan : (script.delivery k).writing.span = 0 :=
    Http.Script.delivery_of_forall h rfl k
  rw [writingTime, hspan, ite_self]

theorem sendTime_of_span (h : ∀ d ∈ script, d.writing.span = 0) (r : Refresher)
    (k : ℕ) :
    r.sendTime script k = (k + 1) * r.pauseLength + script.delaySum k := by
  have hnone : r.writingTime script = fun _ => 0 :=
    funext (writingTime_of_span h r)
  simp [sendTime, writingSum, hnone]

theorem pauseLength_le_sendTime (r : Refresher) (script : Script) (k : ℕ) :
    r.pauseLength ≤ r.sendTime script k := by
  unfold sendTime
  rw [Nat.add_assoc]
  calc
    r.pauseLength ≤ (k + 1) * r.pauseLength := Nat.le_mul_of_pos_left _ k.succ_pos
    _ ≤ (k + 1) * r.pauseLength + (script.delaySum k + r.writingSum script k) :=
      Nat.le_add_right _ _

/-- When a cycle begins, in terms of the deliveries before it. -/
theorem begins?_eq_some_iff (hsend : r.source.send true = some (.ok url)) :
    r.begins? script k = some time ↔
      script.Answered k ∧ time = r.sendTime script k := by
  induction k generalizing time with
  | zero =>
      have hanswered : script.Answered 0 := fun j hj => absurd hj j.not_lt_zero
      have hfirst : r.sendTime script 0 = r.pauseLength := by
        simp [sendTime, writingSum, Http.Script.delaySum]
      simp [begins?, hanswered, hfirst, eq_comm]
  | succ k ih =>
      rw [begins?, Http.Script.answered_succ_iff]
      constructor
      · intro h
        obtain ⟨since, hsince, h⟩ := Option.bind_eq_some_iff.mp h
        obtain ⟨delay, hdelay, rfl⟩ := Option.map_eq_some_iff.mp h
        obtain ⟨hanswered, rfl⟩ := ih.mp hsince
        obtain ⟨hdelay, houtcome⟩ := (replyDelay?_eq_some_iff hsend).mp hdelay
        have hcomes : (script.delivery k).delay ≠ none := by simp [hdelay]
        exact ⟨⟨hanswered, hcomes, houtcome⟩, (sendTime_succ hdelay r).symm⟩
      · rintro ⟨⟨hanswered, hcomes, houtcome⟩, rfl⟩
        obtain ⟨delay, hdelay⟩ := Option.ne_none_iff_exists'.mp hcomes
        have hreply : r.replyDelay? script k = some delay :=
          (replyDelay?_eq_some_iff hsend).mpr ⟨hdelay, houtcome⟩
        rw [ih.mpr ⟨hanswered, rfl⟩, hreply, sendTime_succ hdelay]
        rfl

theorem cycleFinished_mem_recordsOf {since now : ℕ} (t : Tree)
    (hsince : r.begins? script k = some since)
    (hends : r.ends? script k = some now) :
    (now, .cycleFinished ((now - since) * 1000)) ∈ r.recordsOf script t k := by
  unfold recordsOf
  rw [hsince, hends]
  cases hending : r.ending script t k with
  | done =>
      simp [report, TokenSource.confirmation, Happening.cycleRecord?]
  | failed fault => simp [report, Happening.cycleRecord?]
  | interrupted sort message =>
      exact absurd hending (ending_not_interrupted hends t sort message)

/-- The requests of a stretch of steps from the beginning of a run. -/
theorem Goes.requests_eq {es : List Entry} {last : Loop} {limit : ℕ}
    (hpause : r.pause = .lasting interval)
    (hsend : r.source.send true = some (.ok url))
    (hgoes : r.Goes script limit (r.start 0 0 t) es last) :
    (∀ k, k < last.sent ↔ script.Answered k ∧ r.sendTime script k < limit) ∧
    timed Happening.tokenRequest? es = (List.range last.sent).map fun k =>
      (r.sendTime script k, TokenRequest.ofUrl url.text) := by
  obtain ⟨n, -, -, -, hrequests⟩ := hgoes.cycles hpause
  obtain ⟨hbegins, hasked⟩ := hrequests url hsend
  constructor
  · intro k
    rw [hbegins]
    simp only [begins?_eq_some_iff hsend, and_assoc, exists_and_left,
      exists_eq_left]
  · have hrequest : ∀ k ∈ List.range last.sent, r.requestOf? script k =
        some (r.sendTime script k, k + 1, url.text) := by
      intro k hk
      obtain ⟨since, hsince, -⟩ := (hbegins k).mp (List.mem_range.mp hk)
      obtain ⟨-, hsince'⟩ := (begins?_eq_some_iff hsend).mp hsince
      simp [requestOf?, hsend, hsince, hsince']
    rw [timed_tokenRequest?, hasked, List.filterMap_congr hrequest,
      List.filterMap_eq_map', List.map_map]
    rfl

/-- Between two requests lie the delivery to the former, the writing of its token, with
which its cycle ends, and a pause. -/
theorem Goes.between_requests {es : List Entry} {last : Loop} {limit : ℕ}
    (hpause : r.pause = .lasting interval)
    (hsend : r.source.send true = some (.ok url))
    (hgoes : r.Goes script limit (r.start 0 0 t) es last)
    (hk : k + 1 < last.sent) :
    ∃ delay, (script.delivery k).delay = some delay ∧
      (r.sendTime script k + delay + r.writingTime script k,
        .cycleFinished ((delay + r.writingTime script k) * 1000)) ∈
        timed Happening.cycleRecord? es ∧
      r.sendTime script (k + 1) =
        r.sendTime script k + delay + r.writingTime script k + interval := by
  obtain ⟨hsent, -⟩ := hgoes.requests_eq hpause hsend
  obtain ⟨hanswered, hlt⟩ := (hsent (k + 1)).mp hk
  obtain ⟨hbefore, hcomes, houtcome⟩ := Http.Script.answered_succ_iff.mp hanswered
  obtain ⟨delay, hdelay⟩ := Option.ne_none_iff_exists'.mp hcomes
  have hnext := sendTime_succ hdelay r
  have hlength : r.pauseLength = interval := by simp [pauseLength, hpause]
  rw [hlength] at hnext
  have hbegins : r.begins? script k = some (r.sendTime script k) :=
    (begins?_eq_some_iff hsend).mpr ⟨hbefore, rfl⟩
  have hends : r.ends? script k =
      some (r.sendTime script k + delay + r.writingTime script k) := by
    have hreply : r.replyDelay? script k = some delay :=
      (replyDelay?_eq_some_iff hsend).mpr ⟨hdelay, houtcome⟩
    simp [ends?, arrives?, hbegins, hreply]
  -- The next request is in time, so the end of this cycle is too.
  have hintime : r.sendTime script k + delay + r.writingTime script k < limit := by
    omega
  obtain ⟨n, -, hended, hrecords, -⟩ := hgoes.cycles hpause
  have hover : k < n := (hended k).mpr ⟨_, hends, hintime⟩
  have hfinished := cycleFinished_mem_recordsOf t hbegins hends
  rw [Nat.add_assoc, Nat.add_sub_cancel_left, ← Nat.add_assoc] at hfinished
  refine ⟨delay, hdelay, ?_, hnext⟩
  rw [hrecords]
  exact List.mem_flatMap_of_mem (List.mem_range.mpr hover) hfinished

theorem timed_run {α : Type} {f : Happening → Option α}
    (hready : f (.logged .refresherReady) = none)
    (hstopped : f (.logged .refresherStopped) = none)
    (hdied : ∀ error, f (.logged (.refresherDied error)) = none)
    (r : Refresher) (now : ℕ) (first last : Loop) (es : List Entry)
    (signal : Signal) :
    timed f (r.conclude now last
      (r.entries 0 first [.logged .refresherReady] ++ es) signal).entries =
        timed f es := by
  rw [timed_conclude hstopped hdied, timed_append, timed_entries]
  simp [hready]

theorem advance_of_due_none {l : Loop} (h : l.due = none) (script : Script)
    (limit quit : Option ℕ) (fuel : ℕ) :
    r.advance script limit quit fuel l = (l, []) := by
  cases fuel with
  | zero => rfl
  | succ fuel =>
      unfold advance
      rw [h]

/-- Where tokens are put in place at once, nothing is under way behind the end of a
run. -/
theorem Goes.due_halted {es : List Entry} {last : Loop} {limit : ℕ}
    (hpause : r.pause = .lasting interval) (hspan : ∀ d ∈ script, d.writing.span = 0)
    (hgoes : r.Goes script limit (r.start 0 0 t) es last) (now : ℕ) :
    (last.halt now).due = none := by
  obtain ⟨n, hcycle, -⟩ := hgoes.cycles hpause
  cases hcycle with
  | resting | waiting | ended => rfl
  | @writing since arrival url body hsince harrives hlt hsend htoken =>
      have hnone : (script.delivery n).writing.span = 0 :=
        Http.Script.delivery_of_forall hspan rfl n
      have hlate : limit ≤ arrival + (script.delivery n).writing.span :=
        hgoes.due_last _ rfl
      omega

end Refresher

/-- The requests of a run that is stopped or cancelled: one goes out a pause after
each delivery has come and its token was put in place, as long as deliveries come that
do not interrupt the loop, and as long as the run lasts.  The cycle of the one before
has ended by then.  The run comes to its end, and after that nothing is asked for or
logged any more, nor does anything happen if tokens are put in place at once. -/
theorem request_schedule (r : Refresher) (script : Script) (t : Tree)
    {interval : ℕ} {address : String} {url : Url}
    (hpause : r.pause = .lasting interval) (hpositive : 0 < interval)
    (haddress : r.source.url = some address)
    (haccepted : Http.dispatch true address = .ok url)
    (time : ℕ) (signal : Signal) :
    let result := r.run script ⟨some (time, signal), none⟩ t
    let requests := timed Happening.tokenRequest? result.entries
    let request : TokenRequest :=
      { method := "GET"
        url := url.text
        headers := [("Metadata-Flavor", "Google")] }
    (∃ n,
      (∀ k, k < n ↔ script.Answered k ∧ r.sendTime script k ≤ time) ∧
      requests =
        (List.range n).map (fun k => (r.sendTime script k, request)) ∧
      ∀ k, k + 1 < n → ∃ delay, (script.delivery k).delay = some delay ∧
        (r.sendTime script k + delay + r.writingTime script k,
          .cycleFinished ((delay + r.writingTime script k) * 1000)) ∈
          timed Happening.cycleRecord? result.entries ∧
        r.sendTime script (k + 1) =
          r.sendTime script k + delay + r.writingTime script k + interval) ∧
    ((∀ d ∈ script, d.writing.span = 0) →
      (∀ k, r.writingTime script k = 0 ∧
        r.sendTime script k = (k + 1) * interval + script.delaySum k) ∧
      ∀ limit quit fuel,
        r.advance script limit quit fuel result.loop = (result.loop, [])) ∧
    (∀ sent ∈ requests, interval ≤ sent.1) ∧
    result.conclusion ≠ .never ∧
    ∀ limit quit fuel,
      let later := r.advance script limit quit fuel result.loop
      later.2 = [] ∧ later.1.sent = result.loop.sent := by
  intro result requests request
  have hlength : r.pauseLength = interval := by simp [Refresher.pauseLength, hpause]
  have hsend : r.source.send true = some (.ok url) := by
    rw [TokenSource.send_of_url haddress, haccepted]
  obtain ⟨es, last, now, signal', hgoes, hresult, -⟩ :=
    Refresher.run_goes hpause hpositive script time signal t
  obtain ⟨hsent, hasked⟩ := hgoes.requests_eq hpause hsend
  have heq : requests = (List.range last.sent).map
      (fun k => (r.sendTime script k, request)) := by
    simp only [requests, result, hresult]
    rw [Refresher.timed_run rfl rfl fun _ => rfl]
    exact hasked
  refine ⟨⟨last.sent, ?_, heq, ?_⟩, ?_, ?_, ?_, ?_⟩
  · simpa only [Nat.lt_succ_iff] using hsent
  · intro k hk
    simp only [result, hresult]
    rw [Refresher.timed_run rfl rfl fun _ => rfl]
    exact hgoes.between_requests hpause hsend hk
  · intro hspan
    refine ⟨fun k => ⟨Refresher.writingTime_of_span hspan r k, ?_⟩, ?_⟩
    · rw [Refresher.sendTime_of_span hspan, hlength]
    · have hdue := hgoes.due_halted hpause hspan now
      rw [← Refresher.loop_conclude r now last _ signal', ← hresult] at hdue
      exact Refresher.advance_of_due_none hdue script
  · intro sent hmem
    rw [heq] at hmem
    obtain ⟨k, -, rfl⟩ := List.mem_map.mp hmem
    exact hlength.ge.trans (r.pauseLength_le_sendTime script k)
  · simp only [result, hresult]
    cases signal' <;> simp [Refresher.conclude]
  · have hover : Refresher.Over result.loop.phase := by
      simp only [result, hresult]
      rw [Refresher.loop_conclude]
      exact Refresher.over_halt last now
    exact Refresher.advance_of_over hover script

/-- After an answer and a failure the third delivery never comes, and nothing more is
asked for. -/
theorem request_schedule_until_hang :
    let r : Refresher :=
      ⟨⟨some "http://md/t", .ofText "/run/token"⟩, .lasting 1000⟩
    let script : Script :=
      [⟨.response ⟨200, [], [1, 2]⟩, some 250, {}⟩,
        ⟨.failure ⟨"ConnectError", "refused"⟩, some 125, {}⟩,
        ⟨.response ⟨200, [], []⟩, none, {}⟩]
    let result := r.run script ⟨some (9000, .stop), none⟩ (Tree.empty [])
    let request : TokenRequest :=
      { method := "GET"
        url := "http://md/t"
        headers := [("Metadata-Flavor", "Google")] }
    timed Happening.tokenRequest? result.entries =
      [(1000, request), (2250, request), (3375, request)] := by
  intro r script result request
  obtain ⟨url, haccepted, htext⟩ : ∃ url : Url,
      Http.dispatch true "http://md/t" = .ok url ∧ url.text = "http://md/t" :=
    ⟨⟨"http", "", "md", none, "/t", none, none⟩, by decide +kernel,
      by decide +kernel⟩
  obtain ⟨⟨n, hn, hrequests, -⟩, -⟩ :=
    request_schedule r script (Tree.empty []) rfl (show 0 < 1000 by decide)
      rfl haccepted 9000 .stop
  have hthird : 2 < n := by
    rw [hn]
    refine ⟨fun j hj => ?_, by decide⟩
    interval_cases j <;> exact ⟨by decide, by simp [script, Http.Script.delivery]⟩
  have hlast : ¬ 3 < n := by
    rw [hn]
    rintro ⟨hanswered, -⟩
    exact (hanswered 2 (by decide)).1 rfl
  obtain rfl : n = 3 := by omega
  rw [htext] at hrequests
  exact hrequests

end CallRegistry.Token
