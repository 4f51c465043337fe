import Mathlib.Tactic
import CallRegistry.Proofs.TokenReplacement
import CallRegistry.Token.Run

/-!
# The cycles of the refresher

The cycles of a run are told from its script alone: each begins a pause after the
end of the one before, and lasts as long as its delivery takes to come and the token
that it brings to be put in place.  The loop is always in one of them,
`Refresher.InCycle`, and what a step does in its cycle is said once, by
`Refresher.CycleStep`.

A loop that takes the steps that are due before a limit is described by
`Refresher.Goes`, which needs no bound on the number of steps; the bound that a run
computes for itself is enough.
-/

namespace CallRegistry.Token

open File (Path Tree Mishap)
open Http (Script Delivery Outcome Url)

/-- The record that tells of the end or the failure of a cycle. -/
def Happening.cycleRecord? : Happening → Option Event
  | .logged (.fetchFailed error) => some (.fetchFailed error)
  | .logged (.cycleFinished duration) => some (.cycleFinished duration)
  | _ => none

/-- The request that goes out. -/
def Happening.request? : Happening → Option (ℕ × String)
  | .requested number url => some (number, url)
  | _ => none

/-- What is chosen from the happenings of a run, with the times. -/
def timed {α : Type} (f : Happening → Option α) (es : List Entry) :
    List (ℕ × α) :=
  es.filterMap fun e => (f e.happening).map (e.time, ·)

theorem timed_append {α : Type} (f : Happening → Option α)
    (es es' : List Entry) : timed f (es ++ es') = timed f es ++ timed f es' :=
  List.filterMap_append

namespace Refresher

variable {r : Refresher} {script : Script} {t : Tree} {limit now k n : ℕ}
  {l next last : Loop} {es : List Entry}

theorem timed_entries {α : Type} (f : Happening → Option α) (r : Refresher)
    (now : ℕ) (l : Loop) (hs : List Happening) :
    timed f (r.entries now l hs) = (hs.filterMap f).map (now, ·) := by
  simp only [timed, entries, List.filterMap_map, List.map_filterMap]
  rfl

/-! ## When cycles begin and end -/

/-- The token that a cycle brings, if it brings one. -/
def token? (r : Refresher) (script : Script) (k : ℕ) : Option (List UInt8) :=
  r.source.token? true (script.delivery k).outcome

/-- How long the reply of a cycle takes to come, if the loop goes on after it; a cycle
without a request waits for none. -/
def replyDelay? (r : Refresher) (script : Script) (k : ℕ) : Option ℕ :=
  match r.source.send true with
  | some (.ok _) =>
    match (script.delivery k).outcome with
    | .interruption .. => none
    | _ => (script.delivery k).delay
  | _ => some 0

/-- How long a cycle takes to put its token in place, if it brings one. -/
def writingTime (r : Refresher) (script : Script) (k : ℕ) : ℕ :=
  if (r.token? script k).isSome then (script.delivery k).writing.span else 0

/-- When a cycle begins: the first one after a pause, the others a pause after the
end of the one before. -/
def begins? (r : Refresher) (script : Script) : ℕ → Option ℕ
  | 0 => some r.pauseLength
  | k + 1 =>
    (r.begins? script k).bind fun since =>
      (r.replyDelay? script k).map fun delay =>
        since + delay + r.writingTime script k + r.pauseLength

/-- When the reply of a cycle is there. -/
def arrives? (r : Refresher) (script : Script) (k : ℕ) : Option ℕ :=
  (r.begins? script k).bind fun since =>
    (r.replyDelay? script k).map fun delay => since + delay

/-- When a cycle ends. -/
def ends? (r : Refresher) (script : Script) (k : ℕ) : Option ℕ :=
  (r.arrives? script k).map (· + r.writingTime script k)

theorem begins?_succ (r : Refresher) (script : Script) (k : ℕ) :
    r.begins? script (k + 1) = (r.ends? script k).map (· + r.pauseLength) := by
  unfold ends? arrives?
  rw [begins?]
  cases r.begins? script k <;> cases r.replyDelay? script k <;> rfl

theorem begins_le_arrives {time : ℕ} (h : r.arrives? script k = some time) :
    ∃ since, r.begins? script k = some since ∧ since ≤ time := by
  unfold arrives? at h
  obtain ⟨since, hsince, hdelay⟩ := Option.bind_eq_some_iff.mp h
  obtain ⟨delay, -, rfl⟩ := Option.map_eq_some_iff.mp hdelay
  exact ⟨since, hsince, Nat.le_add_right since delay⟩

theorem begins_le_ends {time : ℕ} (h : r.ends? script k = some time) :
    ∃ since, r.begins? script k = some since ∧ since ≤ time := by
  obtain ⟨arrival, harrival, rfl⟩ := Option.map_eq_some_iff.mp h
  obtain ⟨since, hsince, hle⟩ := begins_le_arrives harrival
  exact ⟨since, hsince, hle.trans (Nat.le_add_right _ _)⟩

/-- A cycle that ends comes after all the cycles before it have ended. -/
theorem ends_mono {time : ℕ} (hk : k ≤ n) (h : r.ends? script n = some time) :
    ∃ before, r.ends? script k = some before ∧ before ≤ time := by
  induction n generalizing time with
  | zero =>
      obtain rfl := Nat.le_zero.mp hk
      exact ⟨time, h, le_rfl⟩
  | succ n ih =>
      rcases Nat.le_succ_iff.mp hk with hle | rfl
      · obtain ⟨since, hsince, hle'⟩ := begins_le_ends h
        rw [begins?_succ] at hsince
        obtain ⟨last, hlast, rfl⟩ := Option.map_eq_some_iff.mp hsince
        obtain ⟨before, hbefore, hle''⟩ := ih hle hlast
        exact ⟨before, hbefore, by omega⟩
      · exact ⟨time, h, le_rfl⟩

/-! ## What cycles do -/

/-- The tree after a number of cycles. -/
def treeAfter (r : Refresher) (script : Script) (t : Tree) : ℕ → Tree
  | 0 => t
  | k + 1 =>
    (r.source.fetch true (script.delivery k).outcome (r.treeAfter script t k)
      (script.delivery k).writing.mishap).tree

/-- How the fetch of a cycle ends. -/
def ending (r : Refresher) (script : Script) (t : Tree) (k : ℕ) : FetchEnd :=
  (r.source.fetch true (script.delivery k).outcome (r.treeAfter script t k)
    (script.delivery k).writing.mishap).ending

/-- The records about a cycle that has come to its end. -/
def recordsOf (r : Refresher) (script : Script) (t : Tree) (k : ℕ) :
    List (ℕ × Event) :=
  match r.begins? script k, r.ends? script k with
  | some since, some now =>
    ((r.report since now (r.ending script t k)).filterMap fun event =>
      (Happening.logged event).cycleRecord?).map (now, ·)
  | _, _ => []

/-- The request of a cycle that has begun, if one goes out. -/
def requestOf? (r : Refresher) (script : Script) (k : ℕ) :
    Option (ℕ × ℕ × String) :=
  match r.source.send true, r.begins? script k with
  | some (.ok url), some since => some (since, k + 1, url.text)
  | _, _ => none

/-! ## Where the loop stands -/

/-- The loop is in a cycle: it rests before the cycle, waits for the delivery or, which
then came before the limit, for the token of it to be put in place, or was ended by
it. -/
inductive InCycle (r : Refresher) (script : Script) (t : Tree) (limit k : ℕ) :
    Loop → Prop where
  | resting {since sent : ℕ} (hsince : r.begins? script k = some since)
      (hsent : ∀ url, r.source.send true = some (.ok url) → sent = k) :
      InCycle r script t limit k ⟨.resting since, r.treeAfter script t k, sent⟩
  | waiting {since : ℕ} {url : Url} (hsince : r.begins? script k = some since)
      (hsend : r.source.send true = some (.ok url)) :
      InCycle r script t limit k
        ⟨.waiting since url (script.delivery k), r.treeAfter script t k, k + 1⟩
  | writing {since arrival : ℕ} {url : Url} {body : List UInt8}
      (hsince : r.begins? script k = some since)
      (harrives : r.arrives? script k = some arrival) (hlt : arrival < limit)
      (hsend : r.source.send true = some (.ok url))
      (htoken : r.token? script k = some body) :
      InCycle r script t limit k
        ⟨.writing since ⟨body, (script.delivery k).writing.mishap,
            arrival + (script.delivery k).writing.span⟩,
          r.treeAfter script t k, k + 1⟩
  | ended {time : ℕ} {reason : Option String}
      (houtcome : ∃ sort message,
        (script.delivery k).outcome = .interruption sort message)
      (hends : r.ends? script k = none) :
      InCycle r script t limit k ⟨.ended time reason, r.treeAfter script t k, k + 1⟩

theorem inCycle_start {interval : ℕ} (hpause : r.pause = .lasting interval)
    (t : Tree) : r.InCycle script t limit 0 (r.start 0 0 t) := by
  have hstart : r.start 0 0 t = ⟨.resting r.pauseLength, t, 0⟩ := by
    simp [start, rest, pauseLength, hpause]
  rw [hstart]
  exact .resting rfl fun _ _ => rfl

theorem InCycle.mono {limit' : ℕ} (h : r.InCycle script t limit k l)
    (hle : limit ≤ limit') : r.InCycle script t limit' k l := by
  cases h with
  | resting hsince hsent => exact .resting hsince hsent
  | waiting hsince hsend => exact .waiting hsince hsend
  | writing hsince harrives hlt hsend htoken =>
      exact .writing hsince harrives (hlt.trans_le hle) hsend htoken
  | ended houtcome hends => exact .ended houtcome hends

/-- What a step does in a cycle, given what happens in it. -/
inductive CycleStep (r : Refresher) (script : Script) (t : Tree) (limit k now : ℕ)
    (l next : Loop) (hs : List Happening) : Prop where
  /-- The request goes out. -/
  | asks (url : Url) (hsend : r.source.send true = some (.ok url))
      (hsince : r.begins? script k = some now)
      (hnext : r.InCycle script t limit k next) (hsent : l.sent = k)
      (hsent' : next.sent = k + 1)
      (hrecords : hs.filterMap Happening.cycleRecord? = [])
      (hrequests : hs.filterMap Happening.request? = [(k + 1, url.text)])
  /-- The fetch ends, and with it the cycle. -/
  | ends (since : ℕ) (hsince : r.begins? script k = some since)
      (hends : r.ends? script k = some now)
      (hnext : r.InCycle script t limit (k + 1) next) (hsent : next.sent = l.sent)
      (hrecords : hs.filterMap Happening.cycleRecord? =
        (r.report since now (r.ending script t k)).filterMap fun event =>
          (Happening.logged event).cycleRecord?)
      (hrequests : hs.filterMap Happening.request? = [])
  /-- The delivery brings a token, which is handed over, or interrupts the loop. -/
  | stays (hnext : r.InCycle script t limit k next) (hsent : next.sent = l.sent)
      (hrecords : hs.filterMap Happening.cycleRecord? = [])
      (hrequests : hs.filterMap Happening.request? = [])

theorem rest_of_lasting {interval : ℕ} (hpause : r.pause = .lasting interval)
    (now : ℕ) : r.rest now = .resting (now + r.pauseLength) := by
  simp [rest, pauseLength, hpause]

theorem request?_logged (events : List Event) :
    (events.map Happening.logged).filterMap Happening.request? = [] := by
  simp [List.filterMap_map, Function.comp_def, Happening.request?]

theorem cycleRecord?_announcement (s : TokenSource) :
    (s.announcement.map Happening.logged).filterMap Happening.cycleRecord? =
      [] := by
  unfold TokenSource.announcement
  cases s.url <;> rfl

theorem read_interrupted {url : Url} {o : Outcome} {sort : Http.Interruption}
    {message : String}
    (h : TokenSource.read url o = .error (.interrupted sort message)) :
    o = .interruption sort message := by
  cases o with
  | response answer =>
      cases hcontent : answer.content url <;>
        simp [TokenSource.read, hcontent, Except.mapError] at h
  | failure failure => simp [TokenSource.read] at h
  | interruption sort' message' =>
      cases h
      rfl

theorem put_not_interrupted (s : TokenSource) (body : List UInt8)
    (mishap : Option Mishap) (t : Tree) (sort : Http.Interruption)
    (message : String) :
    (s.put body mishap t).2 ≠ .interrupted sort message := by
  unfold TokenSource.put
  split <;> simp

theorem receive_not_interrupted (s : TokenSource) (url : Url) {o : Outcome}
    (ho : ∀ sort message, o ≠ .interruption sort message) (t : Tree)
    (mishap : Option Mishap) (sort : Http.Interruption) (message : String) :
    (s.receive url o t mishap).2 ≠ .interrupted sort message := by
  unfold TokenSource.receive
  split
  · exact put_not_interrupted s _ mishap t sort message
  · next ending hread =>
      rintro rfl
      exact ho sort message (read_interrupted hread)

theorem afterFetch_not_interrupted {ending : FetchEnd}
    (h : ∀ sort message, ending ≠ .interrupted sort message) (now : ℕ) :
    r.afterFetch now ending = r.rest now := by
  cases ending with
  | done => rfl
  | failed fault => rfl
  | interrupted sort message => exact absurd rfl (h sort message)

theorem afterFetch_interrupted (r : Refresher) (now : ℕ)
    (sort : Http.Interruption) (message : String) :
    ∃ reason, r.afterFetch now (.interrupted sort message) =
      .ended now reason := by
  cases sort <;> exact ⟨_, rfl⟩

theorem replyDelay?_of_answer {url : Url}
    (hsend : r.source.send true = some (.ok url))
    (h : ∀ sort message,
      (script.delivery k).outcome ≠ .interruption sort message) :
    r.replyDelay? script k = (script.delivery k).delay := by
  unfold replyDelay?
  rw [hsend]
  dsimp only
  split
  · next sort message houtcome => exact absurd houtcome (h sort message)
  · rfl

theorem replyDelay?_eq_some_iff {url : Url} {delay : ℕ}
    (hsend : r.source.send true = some (.ok url)) :
    r.replyDelay? script k = some delay ↔
      (script.delivery k).delay = some delay ∧
        ∀ sort message, (script.delivery k).outcome ≠ .interruption sort message := by
  constructor
  · intro h
    have houtcome : ∀ sort message,
        (script.delivery k).outcome ≠ .interruption sort message := by
      intro sort message houtcome
      simp [replyDelay?, hsend, houtcome] at h
    rw [replyDelay?_of_answer hsend houtcome] at h
    exact ⟨h, houtcome⟩
  · rintro ⟨hdelay, houtcome⟩
    rw [replyDelay?_of_answer hsend houtcome, hdelay]

theorem token?_of_send {url : Url} (hsend : r.source.send true = some (.ok url))
    (script : Script) (k : ℕ) :
    r.token? script k = Token.token? url (script.delivery k).outcome := by
  unfold token? TokenSource.token?
  rw [hsend]

theorem token?_of_quick (hsend : ∀ url, r.source.send true ≠ some (.ok url))
    (script : Script) (k : ℕ) : r.token? script k = none := by
  unfold token? TokenSource.token?
  split
  · next url hurl => exact absurd hurl (hsend url)
  · rfl

theorem writingTime_of_token {body : List UInt8}
    (htoken : r.token? script k = some body) :
    r.writingTime script k = (script.delivery k).writing.span := by
  simp [writingTime, htoken]

theorem writingTime_of_no_token (htoken : r.token? script k = none) :
    r.writingTime script k = 0 := by
  simp [writingTime, htoken]

theorem ending_not_interrupted (h : r.ends? script k = some now) (t : Tree)
    (sort : Http.Interruption) (message : String) :
    r.ending script t k ≠ .interrupted sort message := by
  obtain ⟨arrival, harrival, -⟩ := Option.map_eq_some_iff.mp h
  obtain ⟨since, -, hdelay⟩ := Option.bind_eq_some_iff.mp harrival
  obtain ⟨delay, hdelay, -⟩ := Option.map_eq_some_iff.mp hdelay
  unfold ending TokenSource.fetch
  cases hsend : r.source.send true with
  | none => simp
  | some dispatched =>
      cases dispatched with
      | error fault => simp
      | ok url =>
          obtain ⟨-, houtcome⟩ := (replyDelay?_eq_some_iff hsend).mp hdelay
          exact receive_not_interrupted r.source url houtcome
            (r.treeAfter script t k) _ sort message

/-- A cycle without a request ends as soon as it begins, and leaves the tree alone. -/
theorem quick_cycle (hsend : ∀ url, r.source.send true ≠ some (.ok url))
    (hsince : r.begins? script k = some now) (t : Tree) :
    r.ends? script k = some now ∧
      r.begins? script (k + 1) = some (now + r.pauseLength) ∧
      r.treeAfter script t (k + 1) = r.treeAfter script t k := by
  have hdelay : r.replyDelay? script k = some 0 := by
    unfold replyDelay?
    split
    · next url hurl => exact absurd hurl (hsend url)
    · rfl
  have htoken := token?_of_quick hsend script k
  have hends : r.ends? script k = some now := by
    simp [ends?, arrives?, hsince, hdelay, writingTime_of_no_token htoken]
  refine ⟨hends, ?_, (TokenSource.fetch_of_no_token htoken _ _).1⟩
  rw [begins?_succ, hends]
  rfl

theorem step_resting {interval since sent : ℕ}
    (hpause : r.pause = .lasting interval)
    (hsince : r.begins? script k = some since)
    (hsent : ∀ url, r.source.send true = some (.ok url) → sent = k)
    (hl : l = ⟨.resting since, r.treeAfter script t k, sent⟩) :
    CycleStep r script t limit k since l (r.wake script since l).1
      (r.wake script since l).2 := by
  subst hl
  unfold wake
  cases hsend : r.source.send true with
  | none =>
      have hquick : ∀ url, r.source.send true ≠ some (.ok url) := by simp [hsend]
      obtain ⟨hends, hbegins, htree⟩ := quick_cycle hquick hsince t
      refine .ends since hsince hends ?_ rfl ?_ rfl
      · rw [rest_of_lasting hpause, ← htree]
        exact .resting hbegins fun url hurl => absurd hurl (hquick url)
      · simp [ending, TokenSource.fetch, hsend, report,
          TokenSource.confirmation, Happening.cycleRecord?]
  | some dispatched =>
      cases dispatched with
      | error fault =>
          have hquick : ∀ url, r.source.send true ≠ some (.ok url) := by
            simp [hsend]
          obtain ⟨hends, hbegins, htree⟩ := quick_cycle hquick hsince t
          refine .ends since hsince hends ?_ rfl ?_ ?_
          · simp only [finish, afterFetch, rest_of_lasting hpause, ← htree]
            exact .resting hbegins fun url hurl => absurd hurl (hquick url)
          · rw [List.filterMap_append, cycleRecord?_announcement,
              List.nil_append, List.filterMap_map]
            simp [ending, TokenSource.fetch, hsend, finish]
          · rw [List.filterMap_append, request?_logged, request?_logged,
              List.append_nil]
      | ok url =>
          obtain rfl := hsent url hsend
          refine .asks url hsend hsince (.waiting hsince hsend) rfl rfl ?_ ?_
          · rw [List.filterMap_append, cycleRecord?_announcement]
            rfl
          · rw [List.filterMap_append, request?_logged]
            rfl

/-- What ends a cycle that has asked leaves the tree that a fetch leaves. -/
theorem step_ending {interval since : ℕ} {url : Url} {tree : Tree}
    {ending : FetchEnd} (hpause : r.pause = .lasting interval)
    (hsince : r.begins? script k = some since)
    (hends : r.ends? script k = some now)
    (hsend : r.source.send true = some (.ok url))
    (hreceive : r.source.receive url (script.delivery k).outcome
      (r.treeAfter script t k) (script.delivery k).writing.mishap = (tree, ending))
    (hsent : l.sent = k + 1) :
    CycleStep r script t limit k now l (r.finish since now { l with tree } ending).1
      ((r.finish since now { l with tree } ending).2.map .logged) := by
  have hfetched : r.ending script t k = ending ∧
      r.treeAfter script t (k + 1) = tree := by
    unfold Refresher.ending
    rw [treeAfter]
    simp only [TokenSource.fetch, hsend, hreceive, and_self]
  have hbegins : r.begins? script (k + 1) = some (now + r.pauseLength) := by
    rw [begins?_succ, hends]
    rfl
  have hphase : r.afterFetch now ending = .resting (now + r.pauseLength) := by
    rw [← hfetched.1, afterFetch_not_interrupted (ending_not_interrupted hends t),
      rest_of_lasting hpause]
  refine .ends since hsince hends ?_ rfl ?_ (request?_logged _)
  · simp only [finish, hphase, hsent, ← hfetched.2]
    exact .resting hbegins fun _ _ => rfl
  · rw [List.filterMap_map, hfetched.1]
    rfl

theorem step_waiting {interval since : ℕ} {url : Url}
    (hpause : r.pause = .lasting interval)
    (hsince : r.begins? script k = some since)
    (hsend : r.source.send true = some (.ok url))
    (hdue : (script.delivery k).delay.map (since + ·) = some now)
    (hlt : now < limit)
    (hl : l = ⟨.waiting since url (script.delivery k), r.treeAfter script t k,
      k + 1⟩) :
    CycleStep r script t limit k now l
      (r.deliver since now url (script.delivery k) l).1
      (r.deliver since now url (script.delivery k) l).2 := by
  subst hl
  have harrives (h : ∀ sort message,
      (script.delivery k).outcome ≠ .interruption sort message) :
      r.arrives? script k = some now := by
    rw [← hdue]
    simp [arrives?, hsince, replyDelay?_of_answer hsend h]
  unfold deliver
  split
  · next body hread =>
      have htoken : Token.token? url (script.delivery k).outcome = some body := by
        simp [Token.token?, hread, Except.toOption]
      obtain ⟨answer, houtcome, -⟩ := Token.token?_eq_some_iff.mp htoken
      rw [← token?_of_send hsend] at htoken
      have harrival := harrives (by simp [houtcome])
      exact .stays (.writing hsince harrival hlt hsend htoken) rfl rfl rfl
  · next ending hread =>
      by_cases h : ∀ sort message,
          (script.delivery k).outcome ≠ .interruption sort message
      · have htoken : r.token? script k = none := by
          simp [token?_of_send hsend, Token.token?, hread, Except.toOption]
        have hends : r.ends? script k = some now := by
          simp [ends?, harrives h, writingTime_of_no_token htoken]
        refine step_ending hpause hsince hends hsend ?_ rfl
        simp only [TokenSource.receive, hread]
      · push Not at h
        obtain ⟨sort, message, houtcome⟩ := h
        have hends : r.ends? script k = none := by
          simp [ends?, arrives?, hsince, replyDelay?, hsend, houtcome]
        obtain ⟨reason, hreason⟩ := r.afterFetch_interrupted now sort message
        rw [houtcome] at hread
        cases hread
        refine .stays ?_ rfl rfl rfl
        simp only [finish, hreason]
        exact .ended ⟨sort, message, houtcome⟩ hends

theorem step_writing {interval since arrival : ℕ} {url : Url} {body : List UInt8}
    {work : Work} (hpause : r.pause = .lasting interval)
    (hsince : r.begins? script k = some since)
    (harrives : r.arrives? script k = some arrival)
    (hsend : r.source.send true = some (.ok url))
    (htoken : r.token? script k = some body)
    (hwork : work = ⟨body, (script.delivery k).writing.mishap,
      arrival + (script.delivery k).writing.span⟩)
    (hl : l = ⟨.writing since work, r.treeAfter script t k, k + 1⟩) :
    CycleStep r script t limit k work.done l (r.complete since work.done work l).1
      (r.complete since work.done work l).2 := by
  subst hl hwork
  have hends : r.ends? script k =
      some (arrival + (script.delivery k).writing.span) := by
    rw [ends?, harrives, writingTime_of_token htoken]
    rfl
  refine step_ending hpause hsince hends hsend ?_ rfl
  rw [token?_of_send hsend] at htoken
  exact TokenSource.receive_of_token htoken

theorem InCycle.step {interval : ℕ} (hpause : r.pause = .lasting interval)
    (h : r.InCycle script t limit k l) (hdue : l.due = some now)
    (hlt : now < limit) :
    ∃ hs, (r.step script now l).2 = r.entries now (r.step script now l).1 hs ∧
      CycleStep r script t limit k now l (r.step script now l).1 hs := by
  cases h with
  | resting hsince hsent =>
      obtain rfl := Option.some.inj hdue
      exact ⟨_, rfl, step_resting hpause hsince hsent rfl⟩
  | waiting hsince hsend =>
      exact ⟨_, rfl, step_waiting hpause hsince hsend hdue hlt rfl⟩
  | writing hsince harrives harrival hsend htoken =>
      obtain rfl := Option.some.inj hdue
      exact ⟨_, rfl, step_writing hpause hsince harrives hsend htoken rfl rfl⟩
  | ended houtcome hends => cases hdue

/-! ## From step to step -/

/-- The loop takes the steps that are due before a limit, one after the other. -/
inductive Goes (r : Refresher) (script : Script) (limit : ℕ) :
    Loop → List Entry → Loop → Prop where
  | stop {l : Loop} (hdue : ∀ now, l.due = some now → limit ≤ now) :
      Goes r script limit l [] l
  | step {l last : Loop} {now : ℕ} {es : List Entry} (hdue : l.due = some now)
      (hlt : now < limit)
      (hgoes : Goes r script limit (r.step script now l).1 es last) :
      Goes r script limit l ((r.step script now l).2 ++ es) last

theorem Goes.due_last (h : r.Goes script limit l es last) :
    ∀ now, last.due = some now → limit ≤ now := by
  induction h with
  | stop hdue => exact hdue
  | step hdue hlt hgoes ih => exact ih

/-- On the way to a later limit the loop passes an earlier one. -/
theorem Goes.split {limit' : ℕ} {last' : Loop} {es' : List Entry}
    (h : r.Goes script limit l es last) (hle : limit ≤ limit')
    (h' : r.Goes script limit' l es' last') :
    ∃ later, es' = es ++ later ∧ r.Goes script limit' last later last' := by
  induction h generalizing es' with
  | stop hdue => exact ⟨es', rfl, h'⟩
  | @step l last now es hdue hlt hgoes ih =>
      -- A step due before the earlier limit is due before the later one too.
      cases h' with
      | stop hdue' =>
          have hlate := hdue' now hdue
          omega
      | @step _ _ now' es'' hdue' hlt' hgoes' =>
          obtain rfl : now = now' := Option.some.inj (hdue.symm.trans hdue')
          obtain ⟨later, rfl, hlater⟩ := ih hgoes'
          exact ⟨later, (List.append_assoc ..).symm, hlater⟩

/-- Where nothing is due any more, no step is taken. -/
theorem Goes.of_due_none (h : r.Goes script limit l es last)
    (hdue : l.due = none) : es = [] ∧ last = l := by
  cases h with
  | stop => exact ⟨rfl, rfl⟩
  | step hstep =>
      rw [hdue] at hstep
      cases hstep

/-- The steps up to a limit and those from there to a later one. -/
theorem Goes.trans {limit' : ℕ} {es' : List Entry}
    (h : r.Goes script limit l es next) (hle : limit ≤ limit')
    (h' : r.Goes script limit' next es' last) :
    r.Goes script limit' l (es ++ es') last := by
  induction h with
  | stop hdue => exact h'
  | step hdue hlt hgoes ih =>
      rw [List.append_assoc]
      exact .step hdue (hlt.trans_le hle) (ih h')

/-- Whether a number of steps is enough to come to a limit: a cycle has three steps,
and before the next one lies a pause. -/
def Enough (r : Refresher) (limit fuel : ℕ) (l : Loop) : Prop :=
  match l.phase with
  | .resting wake =>
    3 * limit + 2 * r.pauseLength ≤ fuel * r.pauseLength + 3 * wake
  | .waiting since _ _ =>
    3 * limit + r.pauseLength ≤ fuel * r.pauseLength + 3 * since
  | .writing _ work => 3 * limit ≤ fuel * r.pauseLength + 3 * work.done
  | .outlived _ work => limit ≤ work.done ∨ 0 < fuel
  | .ended .. => True

/-- The steps that are allowed for a span of time are enough from any loop on. -/
theorem enough_stepsWithin {interval : ℕ} (hpause : r.pause = .lasting interval)
    (hpositive : 0 < interval) (script : Script) (limit : ℕ) (l : Loop) :
    r.Enough limit (r.stepsWithin script (some limit) none) l := by
  have hlength : r.pauseLength = interval := by simp [pauseLength, hpause]
  have hlimit : limit < interval * (limit / interval + 1) :=
    Nat.lt_mul_div_succ limit hpositive
  have hfuel : 3 * (limit / interval + 2) ≤
      r.stepsWithin script (some limit) none := by
    have hmax : max 1 interval = interval := max_eq_right hpositive
    simp only [stepsWithin, hlength, hmax, Option.getD_some, Option.getD_none]
    omega
  have hbudget : 3 * limit + 2 * r.pauseLength ≤
      r.stepsWithin script (some limit) none * r.pauseLength := by
    rw [hlength]
    calc
      3 * limit + 2 * interval
          ≤ 3 * (limit / interval + 2) * interval := by
            rw [mul_add, mul_one] at hlimit
            linarith
      _ ≤ r.stepsWithin script (some limit) none * interval :=
            Nat.mul_le_mul_right interval hfuel
  unfold Enough
  split
  · exact hbudget.trans (Nat.le_add_right _ _)
  · omega
  · omega
  · have hsome : 0 < 3 * (limit / interval + 2) := by positivity
    exact .inr (hsome.trans_le hfuel)
  · trivial

theorem enough_rest {interval fuel : ℕ} (hpause : r.pause = .lasting interval)
    (h : 3 * limit ≤ fuel * r.pauseLength + r.pauseLength + 3 * now)
    (hphase : l.phase = r.rest now) : r.Enough limit fuel l := by
  unfold Enough
  rw [hphase, rest_of_lasting hpause now]
  dsimp only
  omega

theorem enough_afterFetch {interval fuel : ℕ} {ending : FetchEnd}
    (hpause : r.pause = .lasting interval)
    (h : 3 * limit ≤ fuel * r.pauseLength + r.pauseLength + 3 * now)
    (hphase : l.phase = r.afterFetch now ending) : r.Enough limit fuel l := by
  cases ending with
  | done => exact enough_rest hpause h hphase
  | failed fault => exact enough_rest hpause h hphase
  | interrupted sort message =>
      obtain ⟨reason, hreason⟩ := r.afterFetch_interrupted now sort message
      unfold Enough
      rw [hphase, hreason]
      trivial

theorem enough_step {interval fuel : ℕ} (hpause : r.pause = .lasting interval)
    (script : Script) (h : r.Enough limit (fuel + 1) l) (hdue : l.due = some now) :
    r.Enough limit fuel (r.step script now l).1 := by
  obtain ⟨phase, tree, sent⟩ := l
  unfold Enough at h
  cases phase with
  | resting wake =>
      obtain rfl : wake = now := Option.some.inj hdue
      have hbudget : 3 * limit + r.pauseLength ≤
          fuel * r.pauseLength + 3 * wake := by
        dsimp only at h
        rw [add_mul] at h
        omega
      have hbudget' : 3 * limit ≤
          fuel * r.pauseLength + r.pauseLength + 3 * wake := by omega
      simp only [step, Refresher.wake]
      split
      · exact enough_rest hpause hbudget' rfl
      · exact enough_rest hpause hbudget' rfl
      · exact hbudget
  | waiting since url delivery =>
      obtain ⟨delay, -, rfl⟩ := Option.map_eq_some_iff.mp hdue
      have hbudget : 3 * limit ≤
          fuel * r.pauseLength + 3 * (since + delay) := by
        dsimp only at h
        rw [add_mul] at h
        omega
      simp only [step, deliver]
      split
      · unfold Enough
        dsimp only
        omega
      · exact enough_afterFetch hpause (by omega) rfl
  | writing since work =>
      obtain rfl : work.done = now := Option.some.inj hdue
      have hbudget : 3 * limit ≤
          fuel * r.pauseLength + r.pauseLength + 3 * work.done := by
        dsimp only at h
        rw [add_mul] at h
        omega
      exact enough_afterFetch hpause hbudget rfl
  | outlived time work => trivial
  | ended time reason => cases hdue

/-- When there are no steps left, no step is due before the limit. -/
theorem Enough.due_le (h : r.Enough limit 0 l) :
    ∀ now, l.due = some now → limit ≤ now := by
  obtain ⟨phase, tree, sent⟩ := l
  unfold Enough at h
  intro now hdue
  cases phase with
  | resting wake =>
      obtain rfl : wake = now := Option.some.inj hdue
      dsimp only at h
      omega
  | waiting since url delivery =>
      obtain ⟨delay, -, rfl⟩ := Option.map_eq_some_iff.mp hdue
      dsimp only at h
      omega
  | writing since work =>
      obtain rfl : work.done = now := Option.some.inj hdue
      dsimp only at h
      omega
  | outlived time work =>
      obtain rfl : work.done = now := Option.some.inj hdue
      exact h.resolve_right (Nat.lt_irrefl 0)
  | ended time reason => cases hdue

/-- The steps that a run allows itself are enough. -/
theorem goes_advance {interval fuel : ℕ} (hpause : r.pause = .lasting interval)
    (script : Script) (h : r.Enough limit fuel l) :
    r.Goes script limit l (r.advance script (some limit) none fuel l).2
      (r.advance script (some limit) none fuel l).1 := by
  induction fuel generalizing l with
  | zero => exact .stop h.due_le
  | succ fuel ih =>
      unfold advance
      cases hdue : l.due with
      | none =>
          refine .stop fun now hnow => ?_
          rw [hdue] at hnow
          cases hnow
      | some now =>
          by_cases hlt : now < limit
          · simp only [Option.all_some, Option.all_none, hlt, decide_true,
              Bool.and_true, if_true]
            exact .step hdue hlt (ih (enough_step hpause script h hdue))
          · simp only [Option.all_some, hlt, decide_false, Bool.false_and,
              Bool.false_eq_true, if_false]
            refine .stop fun now' hnow => ?_
            rw [hdue] at hnow
            cases hnow
            omega

theorem goes_stepsWithin {interval : ℕ} (hpause : r.pause = .lasting interval)
    (hpositive : 0 < interval) (script : Script) (limit : ℕ) (l : Loop) :
    let done := r.advance script (some limit) none
      (r.stepsWithin script (some limit) none) l
    r.Goes script limit l done.2 done.1 :=
  goes_advance hpause script (enough_stepsWithin hpause hpositive script limit l)

theorem goes_start {interval : ℕ} (hpause : r.pause = .lasting interval)
    (hpositive : 0 < interval) (script : Script) (limit : ℕ) (t : Tree) :
    let done := r.advance script (some limit) none
      (r.stepsWithin script (some limit) none) (r.start 0 0 t)
    r.Goes script limit (r.start 0 0 t) done.2 done.1 :=
  goes_stepsWithin hpause hpositive script limit (r.start 0 0 t)

/-! ## What a stretch of steps does -/

/-- What has happened on the way from one cycle to another. -/
structure Covers (r : Refresher) (script : Script) (t : Tree) (limit k n : ℕ)
    (l last : Loop) (es : List Entry) : Prop where
  cycle : r.InCycle script t limit n last
  le : k ≤ n
  sent_le : l.sent ≤ last.sent
  ends_lt : ∀ j, k ≤ j → j < n →
    ∃ time, r.ends? script j = some time ∧ time < limit
  begins_lt : ∀ j, l.sent ≤ j → j < last.sent →
    ∃ time, r.begins? script j = some time ∧ time < limit
  records_eq : timed Happening.cycleRecord? es =
    (List.range' k (n - k)).flatMap (r.recordsOf script t)
  requests_eq : timed Happening.request? es =
    (List.range' l.sent (last.sent - l.sent)).filterMap (r.requestOf? script)

theorem range'_append_sub {k m n : ℕ} (hkm : k ≤ m) (hmn : m ≤ n) :
    List.range' k (n - k) = List.range' k (m - k) ++ List.range' m (n - m) := by
  obtain ⟨a, rfl⟩ := Nat.exists_eq_add_of_le hkm
  obtain ⟨b, rfl⟩ := Nat.exists_eq_add_of_le hmn
  have hlength : k + a + b - k = a + b := by omega
  rw [Nat.add_sub_cancel_left, Nat.add_sub_cancel_left, hlength,
    List.range'_append_1]

theorem Covers.trans {m : ℕ} {es' : List Entry}
    (h : r.Covers script t limit k m l next es)
    (h' : r.Covers script t limit m n next last es') :
    r.Covers script t limit k n l last (es ++ es') where
  cycle := h'.cycle
  le := h.le.trans h'.le
  sent_le := h.sent_le.trans h'.sent_le
  ends_lt j hk hn := by
    rcases lt_or_ge j m with hlt | hle
    · exact h.ends_lt j hk hlt
    · exact h'.ends_lt j hle hn
  begins_lt j hk hn := by
    rcases lt_or_ge j next.sent with hlt | hle
    · exact h.begins_lt j hk hlt
    · exact h'.begins_lt j hle hn
  records_eq := by
    rw [timed_append, h.records_eq, h'.records_eq,
      range'_append_sub h.le h'.le, List.flatMap_append]
  requests_eq := by
    rw [timed_append, h.requests_eq, h'.requests_eq,
      range'_append_sub h.sent_le h'.sent_le, List.filterMap_append]

theorem covers_step {interval : ℕ} (hpause : r.pause = .lasting interval)
    (h : r.InCycle script t limit k l) (hdue : l.due = some now) (hlt : now < limit) :
    ∃ n, r.Covers script t limit k n l (r.step script now l).1
      (r.step script now l).2 := by
  obtain ⟨hs, hes, hstep⟩ := h.step hpause hdue hlt
  rw [hes]
  cases hstep with
  | asks url hsend hsince hnext hsent hsent' hrecords hrequests =>
      refine ⟨k, hnext, le_rfl, by omega, fun j hk hn => by omega, ?_, ?_, ?_⟩
      · intro j hl hn
        obtain rfl : j = k := by omega
        exact ⟨now, hsince, hlt⟩
      · rw [timed_entries, hrecords, Nat.sub_self]
        rfl
      · rw [timed_entries, hrequests, hsent, hsent', Nat.add_sub_cancel_left]
        simp [requestOf?, hsend, hsince]
  | ends since hsince hends hnext hsent hrecords hrequests =>
      refine ⟨k + 1, hnext, Nat.le_succ k, hsent.ge, ?_, fun j hl hn => by omega,
        ?_, ?_⟩
      · intro j hk hn
        obtain rfl : j = k := by omega
        exact ⟨now, hends, hlt⟩
      · rw [timed_entries, hrecords, Nat.add_sub_cancel_left]
        simp [recordsOf, hsince, hends]
      · rw [timed_entries, hrequests, hsent, Nat.sub_self]
        rfl
  | stays hnext hsent hrecords hrequests =>
      refine ⟨k, hnext, le_rfl, hsent.ge, fun j hk hn => by omega,
        fun j hl hn => by omega, ?_, ?_⟩
      · rw [timed_entries, hrecords, Nat.sub_self]
        rfl
      · rw [timed_entries, hrequests, hsent, Nat.sub_self]
        rfl

theorem Goes.covers {interval : ℕ} (hpause : r.pause = .lasting interval)
    (h : r.InCycle script t limit k l) (hgoes : r.Goes script limit l es last) :
    ∃ n, r.Covers script t limit k n l last es := by
  induction hgoes generalizing k with
  | stop hdue =>
      refine ⟨k, h, le_rfl, le_rfl, fun j hk hn => by omega,
        fun j hl hn => by omega, ?_, ?_⟩
      · rw [Nat.sub_self]
        rfl
      · rw [Nat.sub_self]
        rfl
  | step hdue hlt hgoes ih =>
      obtain ⟨m, hm⟩ := covers_step hpause h hdue hlt
      obtain ⟨n, hn⟩ := ih hm.cycle
      exact ⟨n, hm.trans hn⟩

/-- No cycle that has not ended ends before the next step is due. -/
theorem InCycle.le_ends {time : ℕ} (h : r.InCycle script t limit n last)
    (hdue : ∀ now, last.due = some now → limit ≤ now)
    (hk : n ≤ k) (hends : r.ends? script k = some time) : limit ≤ time := by
  obtain ⟨first, hfirst, hle⟩ := ends_mono hk hends
  suffices hlimit : limit ≤ first by omega
  cases h with
  | resting hsince hsent =>
      obtain ⟨since, hsince', hle'⟩ := begins_le_ends hfirst
      rw [hsince] at hsince'
      cases hsince'
      exact (hdue _ rfl).trans hle'
  | @waiting since url hsince hsend =>
      -- What is due next is the reply of this very cycle.
      obtain ⟨arrival, harrival, rfl⟩ := Option.map_eq_some_iff.mp hfirst
      obtain ⟨since', hsince', hreply⟩ := Option.bind_eq_some_iff.mp harrival
      obtain ⟨delay, hdelay, rfl⟩ := Option.map_eq_some_iff.mp hreply
      rw [hsince] at hsince'
      cases hsince'
      have hcomes := ((replyDelay?_eq_some_iff hsend).mp hdelay).1
      have hlate := hdue (since + delay) (by simp [Loop.due, hcomes])
      exact hlate.trans (Nat.le_add_right _ _)
  | writing hsince harrives harrival hsend htoken =>
      rw [ends?, harrives, writingTime_of_token htoken] at hfirst
      cases hfirst
      exact hdue _ rfl
  | ended houtcome hnone =>
      rw [hnone] at hfirst
      cases hfirst

/-- No request that has not gone out goes out before the next step is due. -/
theorem InCycle.le_begins {time : ℕ} {url : Url}
    (hsend : r.source.send true = some (.ok url))
    (h : r.InCycle script t limit n last)
    (hdue : ∀ now, last.due = some now → limit ≤ now)
    (hk : last.sent ≤ k) (hbegins : r.begins? script k = some time) :
    limit ≤ time := by
  have hlater : ∀ m, n ≤ m → k = m + 1 → limit ≤ time := by
    rintro m hm rfl
    rw [begins?_succ] at hbegins
    obtain ⟨before, hbefore, rfl⟩ := Option.map_eq_some_iff.mp hbegins
    exact (h.le_ends hdue hm hbefore).trans (Nat.le_add_right _ _)
  have hsent : n ≤ last.sent := by
    cases h with
    | resting hsince hsent => exact (hsent url hsend).ge
    | waiting => exact Nat.le_succ n
    | writing => exact Nat.le_succ n
    | ended => exact Nat.le_succ n
  rcases Nat.lt_or_ge n k with hlt | hle
  · exact hlater (k - 1) (by omega) (by omega)
  · -- The request of this cycle is still to come, so the loop rests before it.
    obtain rfl : k = n := by omega
    cases h with
    | resting hsince hsent =>
        rw [hsince] at hbegins
        cases hbegins
        exact hdue _ rfl
    | waiting =>
        dsimp only at hk
        omega
    | writing =>
        dsimp only at hk
        omega
    | ended =>
        dsimp only at hk
        omega

/-- From the beginning of a run to a limit: which cycles end, which requests go
out, and what is recorded. -/
theorem Goes.cycles {interval : ℕ} (hpause : r.pause = .lasting interval)
    (hgoes : r.Goes script limit (r.start 0 0 t) es last) :
    ∃ n, r.InCycle script t limit n last ∧
      (∀ k, k < n ↔ ∃ time, r.ends? script k = some time ∧ time < limit) ∧
      timed Happening.cycleRecord? es =
        (List.range n).flatMap (r.recordsOf script t) ∧
      ∀ url, r.source.send true = some (.ok url) →
        (∀ k, k < last.sent ↔
          ∃ time, r.begins? script k = some time ∧ time < limit) ∧
        timed Happening.request? es =
          (List.range last.sent).filterMap (r.requestOf? script) := by
  obtain ⟨n, hcovers⟩ := hgoes.covers hpause (inCycle_start hpause t)
  refine ⟨n, hcovers.cycle, fun k => ⟨hcovers.ends_lt k k.zero_le, ?_⟩, ?_, ?_⟩
  · rintro ⟨time, htime, hlt⟩
    by_contra hk
    have hle := hcovers.cycle.le_ends hgoes.due_last (Nat.le_of_not_lt hk) htime
    omega
  · rw [hcovers.records_eq, Nat.sub_zero, List.range_eq_range']
  · intro url hsend
    refine ⟨fun k => ⟨hcovers.begins_lt k k.zero_le, ?_⟩, ?_⟩
    · rintro ⟨time, htime, hlt⟩
      by_contra hk
      have hle := hcovers.cycle.le_begins hsend hgoes.due_last
        (Nat.le_of_not_lt hk) htime
      omega
    · rw [hcovers.requests_eq, List.range_eq_range']
      rfl

/-- The end of a run adds nothing but words about its loop. -/
theorem timed_conclude {α : Type} {f : Happening → Option α}
    (hstopped : f (.logged .refresherStopped) = none)
    (hdied : ∀ error, f (.logged (.refresherDied error)) = none)
    (r : Refresher) (now : ℕ) (l : Loop) (before : List Entry)
    (signal : Signal) :
    timed f (r.conclude now l before signal).entries = timed f before := by
  cases signal with
  | cancel => rfl
  | stop =>
      have hlast : ((obituary l.phase ++ [Event.refresherStopped]).map
          Happening.logged).filterMap f = [] := by
        unfold obituary
        split <;> simp [hstopped, hdied]
      simp only [conclude, timed_append, timed_entries, hlast, List.map_nil,
        List.append_nil]

theorem loop_conclude (r : Refresher) (now : ℕ) (l : Loop)
    (before : List Entry) (signal : Signal) :
    (r.conclude now l before signal).loop = l.halt now := by
  cases signal <;> rfl

theorem tree_halt (l : Loop) (now : ℕ) : (l.halt now).tree = l.tree := by
  unfold Loop.halt
  split <;> rfl

/-- A run takes the steps that are due until it is ended from outside, unless its
loop is over before. -/
theorem run_goes {interval : ℕ} (hpause : r.pause = .lasting interval)
    (hpositive : 0 < interval) (script : Script) (time : ℕ) (signal : Signal)
    (t : Tree) :
    ∃ es last now signal', r.Goes script (time + 1) (r.start 0 0 t) es last ∧
      r.run script ⟨some (time, signal), none⟩ t =
        r.conclude now last
          (r.entries 0 (r.start 0 0 t) [.logged .refresherReady] ++ es)
          signal' ∧
      ((∃ reason, last.phase = .ended now reason) ∧ signal' = .stop ∨
        (∀ died reason, last.phase ≠ .ended died reason) ∧ now = time ∧
          signal' = signal) := by
  have hgoes := goes_start hpause hpositive script (time + 1) t
  unfold run
  dsimp only [Option.map_some, Option.map_none]
  split
  · next signal' hplan =>
      -- Ended at once, the loop has not taken a step, and none was due.
      cases hplan
      have hfirst : (r.start 0 0 t).phase = .resting (0 + r.pauseLength) :=
        rest_of_lasting hpause 0
      have hstop : r.Goes script (0 + 1) (r.start 0 0 t) [] (r.start 0 0 t) := by
        refine .stop fun now hdue => ?_
        simp only [Loop.due, hfirst, pauseLength, hpause,
          Option.some.injEq] at hdue
        omega
      refine ⟨[], _, 0, signal, hstop, ?_, .inr ⟨?_, rfl, rfl⟩⟩
      · rw [List.append_nil]
      · simp [hfirst]
  · generalize r.advance script (some (time + 1)) none
      (r.stepsWithin script (some (time + 1)) none) (r.start 0 0 t) = done
      at hgoes ⊢
    obtain ⟨last, es⟩ := done
    unfold settle
    split
    · next died reason hended =>
        exact ⟨es, last, died, .stop, hgoes, rfl, .inl ⟨⟨reason, hended⟩, rfl⟩⟩
    · next hrequest => cases hrequest
    · next hphase hrequest =>
        exact ⟨es, last, time, signal, hgoes, rfl, .inr ⟨hphase, rfl, rfl⟩⟩

/-- Whether a loop asks for nothing any more and has nothing to tell. -/
def Over : Phase → Prop
  | .outlived .. | .ended .. => True
  | .resting _ | .waiting .. | .writing .. => False

theorem over_halt (l : Loop) (now : ℕ) : Over (l.halt now).phase := by
  obtain ⟨phase, tree, sent⟩ := l
  cases phase <;> trivial

theorem step_of_over (h : Over l.phase) (script : Script) (now : ℕ) :
    (r.step script now l).2 = [] ∧ Over (r.step script now l).1.phase ∧
      (r.step script now l).1.sent = l.sent ∧
      obituary (r.step script now l).1.phase = obituary l.phase := by
  obtain ⟨phase, tree, sent⟩ := l
  cases phase with
  | outlived time work => exact ⟨rfl, trivial, rfl, rfl⟩
  | ended time reason => exact ⟨rfl, trivial, rfl, rfl⟩
  | _ => exact h.elim

theorem advance_of_over (h : Over l.phase) (script : Script)
    (limit quit : Option ℕ) (fuel : ℕ) :
    (r.advance script limit quit fuel l).2 = [] ∧
      (r.advance script limit quit fuel l).1.sent = l.sent := by
  induction fuel generalizing l with
  | zero => exact ⟨rfl, rfl⟩
  | succ fuel ih =>
      unfold advance
      split
      · exact ⟨rfl, rfl⟩
      · next now hdue =>
          split
          · obtain ⟨hentries, hover, hsent, -⟩ :=
              step_of_over (r := r) h script now
            obtain ⟨hlater, hsent'⟩ := ih hover
            simp only [hentries, hlater, List.append_nil]
            exact ⟨trivial, hsent'.trans hsent⟩
          · exact ⟨rfl, rfl⟩

theorem Goes.of_over (h : r.Goes script limit l es last) (hover : Over l.phase) :
    es = [] ∧ Over last.phase ∧ obituary last.phase = obituary l.phase := by
  induction h with
  | stop hdue => exact ⟨rfl, hover, rfl⟩
  | @step l last now es hdue hlt hgoes ih =>
      obtain ⟨hentries, hnext, -, hwords⟩ := step_of_over (r := r) hover script now
      obtain ⟨rfl, hlast, hwords'⟩ := ih hnext
      rw [hentries]
      exact ⟨rfl, hlast, hwords'.trans hwords⟩

end Refresher

end CallRegistry.Token
