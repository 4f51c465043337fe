import CallRegistry.Proofs.Eras
import CallRegistry.Proofs.Liveness
import CallRegistry.Proofs.StorageFailure

/-!
# What the answer about readiness says, and what it leaves

The answer follows from two facts, whether a table is named and how a read from the
store ended.  The name of the token file plays no part in it: no application is
launched without it where it has to be set.  The read leaves a store in memory as it
was, and costs a table one reply.  No request of an application depends on those that
went to the table before, so everything comes later as if nothing had been read.
-/

namespace CallRegistry

open File (Tree)
open Http (Script)

namespace Settings

variable {s : Settings} {first : Http.Delivery} {t : Tree} {result : Startup}
  {services : Services}

/-- Nothing is missing, or the name of the table alone. -/
def LacksTableAtMost (s : Settings) : Prop :=
  s.missing = if s.storageTable = "" then [.storageTable] else []

theorem Provides.lacksTableAtMost (h : s.Provides first t result services) :
    s.LacksTableAtMost := by
  have hfile : ¬(s.deployment = .production ∧ !isGiven s.tokenFile) := by
    cases h with
    | memory hdeployment => simp [hdeployment]
    | endpoint hdeployment => simp [hdeployment]
    | production hdeployment hfile hne => simp [hfile, isGiven, hne]
  rw [LacksTableAtMost, missing, if_neg hfile, List.append_nil]

end Settings

/-! ## The answer -/

/-- The failure of an operation that has no result. -/
def StoreOutcome.failure? : StoreOutcome → Option StoreFailure
  | .ok _ => none
  | .error failure => some failure

theorem StoreOutcome.failure?_eq_some_iff {outcome : StoreOutcome}
    {failure : StoreFailure} :
    outcome.failure? = some failure ↔ outcome = .error failure := by
  cases outcome <;> simp [failure?]

namespace Health

variable {s : Settings} {probe : StoreOutcome}

theorem configurationCheck_eq (hlacks : s.LacksTableAtMost) :
    configurationCheck s =
      { name := "configuration"
        error :=
          if s.storageTable = "" then
            some "Missing required fields: STORAGE_TABLE"
          else none } := by
  unfold configurationCheck
  rw [hlacks]
  by_cases htable : s.storageTable = ""
  · simp only [htable, if_true]
    rfl
  · simp only [htable, if_false]
    rfl

/-- A check as it stands in the answer. -/
def checked (name : String) (error : Option String) : Datum :=
  .map [("name", .text name),
    ("status", .text (if error = none then "ok" else "error")),
    ("error", .ofText? error)]

/-- What an answer about readiness says, given how the read from the store ended. -/
structure Reports (s : Settings) (probe : StoreOutcome) (answer : WebAnswer) :
    Prop where
  status_cases :
    answer.status = 200 ∨ answer.status = 503 ∨ answer.status = 500
  ready_iff : answer.status = 200 ↔
    s.storageTable ≠ "" ∧ ∃ record, probe = .ok (.record record)
  notReady_iff : answer.status = 503 ↔
    ((∃ record, probe = .ok (.record record)) ∨
      ∃ failure, probe = .error failure ∧ failure.isStorage = true) ∧
    (s.storageTable = "" ∨
      ∃ failure, probe = .error failure ∧ failure.isStorage = true)
  broken_iff : answer.status = 500 ↔
    ∃ failure, probe = .error failure ∧ failure.isStorage = false
  checks_eq : answer.status = 200 ∨ answer.status = 503 →
    answer.body = some (.map
      [("status", .text
        (if answer.status = 200 then "ready" else "not_ready")),
        ("version", .text "0.1.0"),
        ("checks", .list
          [checked "configuration"
            (if s.storageTable = "" then
              some "Missing required fields: STORAGE_TABLE"
            else none),
            checked "storage" (probe.failure?.map StoreFailure.message)])])
  generic_eq : answer.status = 500 →
    answer.body = some (.map [("detail", .text "Internal server error.")])

theorem toDatum_eq (c : ReadinessCheck) : c.toDatum = checked c.name c.error := by
  cases herror : c.error <;>
    simp [ReadinessCheck.toDatum, checked, ReadinessCheck.status,
      ReadinessCheck.isOk, herror]

theorem status_readinessOf (configuration storage : ReadinessCheck) :
    (readinessOf [configuration, storage]).status =
      if configuration.error = none ∧ storage.error = none then 200
      else 503 := by
  cases hconfiguration : configuration.error <;>
    cases hstorage : storage.error <;>
      simp [readinessOf, ReadinessCheck.isOk, hconfiguration, hstorage]

theorem body_readinessOf (checks : List ReadinessCheck) :
    (readinessOf checks).body =
      some (.map
        [("status", .text
          (if (readinessOf checks).status = 200 then "ready"
            else "not_ready")),
          ("version", .text "0.1.0"),
          ("checks", .list (checks.map ReadinessCheck.toDatum))]) := by
  cases hready : checks.all ReadinessCheck.isOk <;>
    simp [readinessOf, hready, version]

theorem readiness_of_announced (hannounced : probe.Announced) (s : Settings)
    (method path : String) :
    let checks := [configurationCheck s, storageCheck probe.failure?]
    (readiness s method path probe).status = (readinessOf checks).status ∧
      (readiness s method path probe).body = (readinessOf checks).body := by
  rcases hannounced with ⟨answer, rfl⟩ | ⟨failure, rfl, hstorage⟩
  · exact ⟨rfl, rfl⟩
  · simp [readiness, hstorage, StoreOutcome.failure?]

theorem readiness_of_unannounced {failure : StoreFailure}
    (hfailure : failure.isStorage = false) (s : Settings)
    (method path : String) :
    readiness s method path (.error failure) =
      unhandled method path failure := by
  simp [readiness, hfailure]

theorem status_of_announced (hlacks : s.LacksTableAtMost)
    (hannounced : probe.Announced) (method path : String) :
    (readiness s method path probe).status =
      if s.storageTable ≠ "" ∧ probe.failure? = none then 200 else 503 := by
  rw [(readiness_of_announced hannounced s method path).1,
    configurationCheck_eq hlacks, status_readinessOf]
  by_cases htable : s.storageTable = "" <;> simp [htable, storageCheck]

theorem body_of_announced (hlacks : s.LacksTableAtMost)
    (hannounced : probe.Announced) (method path : String) :
    (readiness s method path probe).body = some (.map
      [("status", .text
        (if (readiness s method path probe).status = 200 then "ready"
          else "not_ready")),
        ("version", .text "0.1.0"),
        ("checks", .list
          [checked "configuration"
            (if s.storageTable = "" then
              some "Missing required fields: STORAGE_TABLE"
            else none),
            checked "storage" (probe.failure?.map StoreFailure.message)])]) := by
  obtain ⟨hstatus, hbody⟩ := readiness_of_announced hannounced s method path
  rw [hbody, body_readinessOf, hstatus, configurationCheck_eq hlacks]
  simp only [List.map_cons, List.map_nil, toDatum_eq, storageCheck]

theorem reports_of_announced (hlacks : s.LacksTableAtMost)
    (hprobe : (∃ record, probe = .ok (.record record)) ∨
      ∃ failure, probe = .error failure ∧ failure.isStorage = true)
    (method path : String) :
    Reports s probe (readiness s method path probe) := by
  have hannounced : probe.Announced := by
    rcases hprobe with ⟨record, hdone⟩ | hfailed
    · exact .inl ⟨_, hdone⟩
    · exact .inr hfailed
  have hstatus := status_of_announced hlacks hannounced method path
  have hbody := body_of_announced hlacks hannounced method path
  have hanswered : (readiness s method path probe).status ≠ 500 := by
    rw [hstatus]
    split <;> decide
  have hdone : (∃ record, probe = .ok (.record record)) ↔
      probe.failure? = none := by
    rcases hprobe with ⟨record, rfl⟩ | ⟨failure, rfl, -⟩ <;>
      simp [StoreOutcome.failure?]
  have hfailed :
      (∃ failure, probe = .error failure ∧ failure.isStorage = true) ↔
        probe.failure? ≠ none := by
    rcases hprobe with ⟨record, rfl⟩ | ⟨failure, rfl, hstorage⟩
    · simp [StoreOutcome.failure?]
    · simp [StoreOutcome.failure?, hstorage]
  have hknown : ¬∃ failure, probe = .error failure ∧
      failure.isStorage = false := by
    rcases hprobe with ⟨record, rfl⟩ | ⟨failure, rfl, hstorage⟩
    · simp
    · simp [hstorage]
  constructor
  case status_cases =>
    rw [hstatus]
    split <;> decide
  case ready_iff =>
    rw [hstatus, hdone]
    simp
  case notReady_iff =>
    rw [hstatus, hdone, hfailed]
    by_cases htable : s.storageTable = "" <;>
      by_cases hnone : probe.failure? = none <;> simp [htable, hnone]
  case broken_iff => exact iff_of_false hanswered hknown
  case checks_eq => exact fun _ => hbody
  case generic_eq => exact fun h => absurd h hanswered

theorem reports_of_unannounced {failure : StoreFailure}
    (hfailure : failure.isStorage = false) (s : Settings)
    (method path : String) :
    Reports s (.error failure) (readiness s method path (.error failure)) := by
  rw [readiness_of_unannounced hfailure]
  constructor <;> simp [unhandled, WebAnswer.detail, hfailure]

theorem reports_readiness (hlacks : s.LacksTableAtMost)
    (hprobe : (∃ record, probe = .ok (.record record)) ∨
      ∃ failure, probe = .error failure)
    (method path : String) :
    Reports s probe (readiness s method path probe) := by
  rcases hprobe with hdone | ⟨failure, rfl⟩
  · exact reports_of_announced hlacks (.inl hdone) method path
  · cases hstorage : failure.isStorage with
    | true =>
        exact reports_of_announced hlacks (.inr ⟨failure, rfl, hstorage⟩)
          method path
    | false => exact reports_of_unannounced hstorage s method path

end Health

namespace Application

variable {a b : Application} {s : Settings} {script : Script}
  {replies : List Reply} {t : Tree}

/-! ## The read -/

theorem readRecord_cases (response : Datum) :
    (∃ record, Pending.readRecord response = .ok (.record record)) ∨
      ∃ failure, Pending.readRecord response = .error failure := by
  unfold Pending.readRecord
  split
  · next fields =>
      split
      · next habsent => exact .inl ⟨none, rfl⟩
      · next hnull => exact .inl ⟨none, rfl⟩
      · next item hne hitem =>
          cases CallRecord.ofItem item with
          | ok record => exact .inl ⟨some record, rfl⟩
          | error fault => exact .inr ⟨.ofItem fault, rfl⟩
  · exact .inr ⟨_, rfl⟩

theorem play_reading (group : String) (replies : List Reply) :
    let played := (Pending.reading group).play replies
    played.requests = [.getItem group] ∧ played.unused = replies.drop 1 ∧
      ((∃ record, played.outcome = .ok (.record record)) ∨
        ∃ failure, played.outcome = .error failure) := by
  cases replies with
  | nil => exact ⟨rfl, rfl, .inr ⟨_, rfl⟩⟩
  | cons reply rest =>
      cases reply with
      | error failure =>
          cases failure <;> exact ⟨rfl, rfl, .inr ⟨_, rfl⟩⟩
      | ok response => exact ⟨rfl, rfl, readRecord_cases response⟩

theorem call_get_memory {records : InMemory} (hstore : a.store = .memory records)
    (ticket : ℕ) (group : String) :
    a.call ticket (.get group) =
      (a, .ok (.record (records.get? group)), []) := by
  obtain ⟨⟩ := a
  cases hstore
  rfl

/-- A read from a table is one request, and costs the reply to it. -/
theorem call_get_table {config : TableConfig} (hstore : a.store = .table config)
    (ticket : ℕ) (group : String) :
    let played := (Pending.reading group).play a.replies
    a.call ticket (.get group) =
      ({ a with
          replies := a.replies.drop 1
          tableRequests := a.tableRequests ++ [.getItem group] },
        played.outcome, played.events) := by
  obtain ⟨hrequests, hunused, -⟩ := play_reading group a.replies
  intro played
  unfold call
  simp only [hstore, StoreCall.begin, hrequests, hunused]
  rfl

theorem outcome_get (a : Application) (ticket : ℕ) (group : String) :
    (∃ record, (a.call ticket (.get group)).2.1 = .ok (.record record)) ∨
      ∃ failure, (a.call ticket (.get group)).2.1 = .error failure := by
  cases hstore : a.store with
  | memory records =>
      rw [call_get_memory hstore]
      exact .inl ⟨_, rfl⟩
  | table config =>
      rw [call_get_table hstore]
      exact (play_reading group a.replies).2.2

theorem answer_ready (a : Application) (origin query : String) :
    a.answer origin "GET" ⟨"/health/ready", query⟩ =
      a.checkReadiness "GET" "/health/ready" := by
  have hroute : Route.ofPath? "/health/ready" = some .readiness := by decide
  have hdestination : WebTarget.destination ⟨"/health/ready", query⟩ "GET" =
      .route .readiness := by
    simp [WebTarget.destination, hroute, answeredMethod]
  have hpath : WebTarget.reportedPath ⟨"/health/ready", query⟩ =
      "/health/ready" := by
    change WebTarget.reportedPath ⟨"/health/ready", ""⟩ = _
    decide
  rw [answer, hdestination]
  dsimp only
  rw [hpath]

/-! ## What comes later -/

/-- The application, had other requests gone to the table. -/
def withTableRequests (a : Application) (requests : List Request) :
    Application :=
  { a with tableRequests := requests }

theorem call_withTableRequests (a : Application) (requests : List Request)
    (ticket : ℕ) (c : StoreCall) :
    ∃ sent, (a.call ticket c).1.tableRequests = a.tableRequests ++ sent ∧
      (a.withTableRequests requests).call ticket c =
        ((a.call ticket c).1.withTableRequests (requests ++ sent),
          (a.call ticket c).2) := by
  cases hstore : a.store with
  | memory records =>
      refine ⟨[], ?_, ?_⟩
      · simp [call, hstore]
      · simp [call, withTableRequests, hstore]
  | table config =>
      refine ⟨(c.begin.play a.replies).requests, ?_, ?_⟩
      · simp [call, hstore]
      · simp [call, withTableRequests, hstore]

theorem answer_withTableRequests (a : Application) (requests : List Request)
    (origin method : String) (target : WebTarget) :
    ∃ sent, (a.answer origin method target).1.tableRequests =
        a.tableRequests ++ sent ∧
      (a.withTableRequests requests).answer origin method target =
        ((a.answer origin method target).1.withTableRequests (requests ++ sent),
          (a.answer origin method target).2) := by
  unfold answer
  split
  · exact ⟨[], by simp, by simp [withTableRequests]⟩
  · obtain ⟨sent, hsent, hcall⟩ :=
      a.call_withTableRequests requests 0 (.get Health.probeGroup)
    refine ⟨sent, hsent, ?_⟩
    unfold checkReadiness
    rw [hcall]
    rfl
  · exact ⟨[], by simp, by simp [withTableRequests]⟩
  · exact ⟨[], by simp, by simp [withTableRequests]⟩
  · exact ⟨[], by simp, by simp [withTableRequests]⟩

/-- What comes of an occasion does not depend on the requests that have gone to the
table. -/
theorem meet_withTableRequests (a : Application) (requests : List Request)
    (o : Occasion) :
    ∃ sent, (a.meet o).1.tableRequests = a.tableRequests ++ sent ∧
      (a.withTableRequests requests).meet o =
        ((a.meet o).1.withTableRequests (requests ++ sent), (a.meet o).2) := by
  cases o with
  | request origin method target =>
      obtain ⟨sent, hsent, hanswer⟩ :=
        a.answer_withTableRequests requests origin method target
      refine ⟨sent, hsent, ?_⟩
      simp only [meet, hanswer]
  | call ticket call =>
      obtain ⟨sent, hsent, hcall⟩ :=
        a.call_withTableRequests requests ticket call
      refine ⟨sent, hsent, ?_⟩
      simp only [meet, hcall]
  | time milliseconds =>
      refine ⟨[], (List.append_nil _).symm, ?_⟩
      rw [List.append_nil]
      rfl

theorem after_withTableRequests (a : Application) (requests : List Request)
    (os : List Occasion) :
    ∃ sent, (a.after os).tableRequests = a.tableRequests ++ sent ∧
      (a.withTableRequests requests).after os =
        (a.after os).withTableRequests (requests ++ sent) ∧
      (a.withTableRequests requests).reactions os = a.reactions os := by
  induction os generalizing a requests with
  | nil =>
      refine ⟨[], (List.append_nil _).symm, ?_, rfl⟩
      rw [List.append_nil]
      rfl
  | cons o os ih =>
      obtain ⟨here, hhere, hmeet⟩ := a.meet_withTableRequests requests o
      obtain ⟨later, hlater, hafter, hreactions⟩ :=
        ih (a.meet o).1 (requests ++ here)
      refine ⟨here ++ later, ?_, ?_, ?_⟩
      · rw [after_cons, hlater, hhere, List.append_assoc]
      · rw [after_cons, hmeet, hafter, after_cons, List.append_assoc]
      · rw [reactions, hmeet, hreactions, reactions]

end Application

namespace TableService

variable {config : TableConfig} {fails : CallFailure → Prop} {t t' : Table}
  {group : String} {reply : Reply} {rest : List (Request × Reply)}

/-- What a service answers to requests that reach it one after the other, and the
table it leaves. -/
inductive Answers (service : Table → Request → Reply → Table → Prop) :
    Table → List (Request × Reply) → Table → Prop where
  | none {t : Table} : Answers service t [] t
  | next {t next t' : Table} {q : Request} {reply : Reply}
      {rest : List (Request × Reply)} (hserve : service t q reply next)
      (hrest : Answers service next rest t') :
      Answers service t ((q, reply) :: rest) t'

/-- A read leaves the table alone, also where its reply is lost. -/
theorem Lossy.eq_of_getItem
    (h : Lossy fails config t (.getItem group) reply t') : t' = t := by
  rcases h.carriedOut_or_eq with ⟨reply', hreliable⟩ | hleft
  · exact (reliable_getItem_iff.mp hreliable).2
  · exact hleft

/-- What is answered after a read could have been answered without it. -/
theorem Answers.of_getItem
    (h : Answers (Lossy fails config) t ((.getItem group, reply) :: rest) t') :
    Answers (Lossy fails config) t rest t' := by
  cases h with
  | next hserve hrest =>
      rw [hserve.eq_of_getItem] at hrest
      exact hrest

end TableService

namespace Application

variable {a b : Application} {s : Settings} {script : Script}
  {replies : List Reply} {t : Tree} {maker : ClientMaker}

/-! ## The whole answer -/

theorem lacksTableAtMost_of_launched
    (hlaunched : (launch s script replies t maker).application = some a) :
    s.LacksTableAtMost := by
  obtain ⟨services, houtcome, -⟩ := launch_eq_some_iff.mp hlaunched
  exact (Settings.provides_start houtcome).lacksTableAtMost

theorem reports_answer (hlacks : b.settings.LacksTableAtMost)
    (origin query : String) :
    Health.Reports b.settings (b.call 0 (.get "readiness-probe")).2.1
      (b.answer origin "GET" ⟨"/health/ready", query⟩).2 := by
  have hreports := Health.reports_readiness hlacks
    (b.outcome_get 0 "readiness-probe") "GET" "/health/ready"
  rw [answer_ready]
  -- The answer adds to the log what the read has logged, and nothing else.
  exact
    { status_cases := hreports.status_cases
      ready_iff := hreports.ready_iff
      notReady_iff := hreports.notReady_iff
      broken_iff := hreports.broken_iff
      checks_eq := hreports.checks_eq
      generic_eq := hreports.generic_eq }

/-- What an application is like that was asked whether it is ready. -/
theorem answer_ready_cases (b : Application) (origin query : String) :
    let next := (b.answer origin "GET" ⟨"/health/ready", query⟩).1
    ((∃ records, b.store = .memory records) ∧ next = b) ∨
    ((∃ config, b.store = .table config) ∧
      next =
        { b with
          replies := b.replies.drop 1
          tableRequests :=
            b.tableRequests ++ [.getItem "readiness-probe"] }) := by
  intro next
  have hnext : next = (b.call 0 (.get "readiness-probe")).1 := by
    simp only [next, answer_ready]
    rfl
  cases hstore : b.store with
  | memory records =>
      refine .inl ⟨⟨records, rfl⟩, ?_⟩
      rw [hnext, call_get_memory hstore]
  | table config =>
      refine .inr ⟨⟨config, rfl⟩, ?_⟩
      rw [hnext, call_get_table hstore, ← hstore]

/-- The requests that go to the table on some occasions, each with the reply that it
gets. -/
def exchanges (a : Application) (os : List Occasion) : List (Request × Reply) :=
  ((a.after os).tableRequests.drop a.tableRequests.length).zip a.replies

/-- An application that has read from its table goes on like one that has not and has
the same replies to come. -/
theorem unread_of_read (b : Application) (q : Request) (left : List Reply)
    (later : List Occasion) :
    let unread := { b with replies := left }
    let next := unread.withTableRequests (b.tableRequests ++ [q])
    next.reactions later = unread.reactions later ∧
      ∃ sent, (next.after later).tableRequests = b.tableRequests ++ q :: sent ∧
        (unread.after later).tableRequests = b.tableRequests ++ sent := by
  intro unread next
  obtain ⟨sent, hsent, hafter, hreactions⟩ :=
    unread.after_withTableRequests (b.tableRequests ++ [q]) later
  refine ⟨hreactions, sent, ?_, hsent⟩
  have hall : (next.after later).tableRequests =
      b.tableRequests ++ [q] ++ sent := by
    rw [hafter]
    rfl
  rw [hall, List.append_assoc]
  rfl

theorem unread_of_ready (b : Application) (origin query : String)
    (later : List Occasion) :
    let ready : WebTarget := ⟨"/health/ready", query⟩
    let next := (b.answer origin "GET" ready).1
    let unread := { b with replies := next.replies }
    next.reactions later = unread.reactions later ∧
      (b.exchanges (.request origin "GET" ready :: later) =
          unread.exchanges later ∨
        ∃ reply, b.exchanges (.request origin "GET" ready :: later) =
          (.getItem "readiness-probe", reply) :: unread.exchanges later) := by
  intro ready next unread
  have hexchanges : b.exchanges (.request origin "GET" ready :: later) =
      ((next.after later).tableRequests.drop b.tableRequests.length).zip
        b.replies := rfl
  rcases b.answer_ready_cases origin query with ⟨-, hnext⟩ | ⟨-, hnext⟩
  · have hnext' : next = b := hnext
    have hunread : unread = b := by
      simp only [unread, hnext']
    rw [hexchanges, hunread, hnext']
    exact ⟨rfl, .inl rfl⟩
  · have hunread : unread = { b with replies := b.replies.drop 1 } := by
      simp only [unread, next, ready, hnext]
    have hread : next = Application.withTableRequests
        { b with replies := b.replies.drop 1 }
        (b.tableRequests ++ [.getItem "readiness-probe"]) := hnext
    obtain ⟨hreactions, sent, hasked, hunasked⟩ :=
      b.unread_of_read (.getItem "readiness-probe") (b.replies.drop 1) later
    rw [← hread, ← hunread] at hreactions
    rw [← hread] at hasked
    rw [← hunread] at hunasked
    refine ⟨hreactions, ?_⟩
    have hlater : unread.exchanges later = sent.zip (b.replies.drop 1) := by
      unfold exchanges
      rw [hunasked, hunread]
      simp
    rw [hexchanges, hasked, hlater, List.drop_left]
    cases b.replies with
    | nil => exact .inl (by simp)
    | cons reply rest => exact .inr ⟨reply, rfl⟩

end Application

open Application

/-- The answer about readiness at any moment of an application.  It is as
`Health.Reports` says, given how a read of the group that is looked up ends at that
moment.  A store in memory is not changed by it; from a table it takes one reply, to
one read.  Whatever comes later comes as if the answer had not been asked for: the
application gives back the same, and a service that answers all that goes to the
table then could have answered it without the read, and left the same table. -/
theorem readiness_exact_and_read_only (s : Settings) (script : Script)
    (replies : List Reply) (t : Tree) (maker : ClientMaker) {a : Application}
    (hlaunched : (launch s script replies t maker).application = some a)
    (os : List Occasion) (origin query : String) :
    let b := a.after os
    let ready : WebTarget := ⟨"/health/ready", query⟩
    let next := (b.answer origin "GET" ready).1
    let unread := { b with replies := next.replies }
    Health.Reports s (b.call 0 (.get "readiness-probe")).2.1
      (b.answer origin "GET" ready).2 ∧
    (((∃ records, b.store = .memory records) ∧ next = b) ∨
      ((∃ config, b.store = .table config) ∧
        next =
          { b with
            replies := b.replies.drop 1
            tableRequests :=
              b.tableRequests ++ [.getItem "readiness-probe"] })) ∧
    ∀ later,
      next.reactions later = unread.reactions later ∧
      ∀ (config : TableConfig) (fails : CallFailure → Prop) (before left : Table),
        TableService.Answers (TableService.Lossy fails config) before
          (b.exchanges (.request origin "GET" ready :: later)) left →
        TableService.Answers (TableService.Lossy fails config) before
          (unread.exchanges later) left := by
  intro b ready next unread
  have hsettings : b.settings = s := settings_after_launch hlaunched os
  have hlacks := lacksTableAtMost_of_launched hlaunched
  rw [← hsettings] at hlacks
  have hreports := reports_answer hlacks origin query
  rw [hsettings] at hreports
  refine ⟨hreports, b.answer_ready_cases origin query, fun later => ?_⟩
  obtain ⟨hreactions, hexchanges⟩ := b.unread_of_ready origin query later
  refine ⟨hreactions, fun config fails before left hanswers => ?_⟩
  rcases hexchanges with hsame | ⟨reply, hread⟩
  · rw [hsame] at hanswers
    exact hanswers
  · rw [hread] at hanswers
    exact hanswers.of_getItem

/-- An unreachable table without a name fails both checks. -/
theorem readiness_of_unreachable_table :
    let s : Settings :=
      { storageTable := "", storageEndpoint := some "http://localhost:8000" }
    let replies : List Reply :=
      [.error (.client (.readTimeout "http://localhost:8000")), .ok (.map [])]
    ∃ a, (launch s [] replies (Tree.empty [])).application = some a ∧
      let asked := a.answer "http://test" "GET" ⟨"/health/ready", ""⟩
      asked.2.status = 503 ∧
      asked.2.body = some (.map
        [("status", .text "not_ready"), ("version", .text "0.1.0"),
          ("checks", .list
            [.map [("name", .text "configuration"), ("status", .text "error"),
              ("error", .text "Missing required fields: STORAGE_TABLE")],
              .map [("name", .text "storage"), ("status", .text "error"),
                ("error", .text ("Failed to get_item from storage: " ++
                  "Read timeout on endpoint URL: " ++
                  "\"http://localhost:8000\""))]])]) ∧
      ∀ later, asked.1.reactions later =
        Application.reactions { a with replies := asked.1.replies } later := by
  intro s replies
  have hlaunch : (launch s [] replies (Tree.empty [])).application.map (fun a =>
      (a.call 0 (.get "readiness-probe")).2.1.failure?.map fun failure =>
        (failure.isStorage, failure.message)) =
      some (some (true, "Failed to get_item from storage: " ++
        "Read timeout on endpoint URL: " ++ "\"http://localhost:8000\"")) := by
    decide +kernel
  obtain ⟨a, hlaunched, hprobe⟩ := Option.map_eq_some_iff.mp hlaunch
  obtain ⟨failure, hfailure, hsaid⟩ := Option.map_eq_some_iff.mp hprobe
  rw [Prod.mk.injEq] at hsaid
  obtain ⟨hstorage, hmessage⟩ := hsaid
  have hexact := readiness_exact_and_read_only s [] replies (Tree.empty [])
    .willing hlaunched [] "http://test" ""
  rw [after_nil] at hexact
  obtain ⟨hreports, -, hlater⟩ := hexact
  have herror := StoreOutcome.failure?_eq_some_iff.mp hfailure
  have hstatus := hreports.notReady_iff.mpr
    ⟨.inr ⟨failure, herror, hstorage⟩, .inl rfl⟩
  have hbody := hreports.checks_eq (.inr hstatus)
  rw [hstatus, hfailure, Option.map_some, hmessage] at hbody
  exact ⟨a, hlaunched, hstatus, hbody, fun later => (hlater later).1⟩

end CallRegistry
