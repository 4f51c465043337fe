import CallRegistry.Proofs.Interleaving
import CallRegistry.Proofs.OneGroup
import CallRegistry.Store.Script

/-!
# The requests of an operation on one group

An operation is carried out against replies of any kind.  A read and a removal send
one request.  An addition sends a put, and a consistent read of the same group
behind it exactly if the put was refused because its condition did not hold.  A
removal returns if the service has answered it or has refused it for that reason.

Every other failure ends the operation.  One of the service or of the client is
announced with one error in the log, also where a read is refused in the words of a
condition.  Any other failure comes out as it is.  In neither case does the log
claim a success.
-/

namespace CallRegistry

open TableService

/-- A request as the service gets it. -/
def Request.call (config : TableConfig) (q : Request) : Call where
  method := q.method
  parameters := q.parameters config

/-- The reply to a request by its position.  A request for which no reply is left
fails. -/
def replyAt (replies : List Reply) (n : ℕ) : Reply :=
  replies.getD n (.error (.foreign noReplyLeft))

theorem replyAt_zero_drop (replies : List Reply) :
    replyAt (replies.drop 1) 0 = replyAt replies 1 := by
  cases replies <;> rfl

namespace Playback

/-- The calls as they reach the service. -/
def calls (config : TableConfig) (played : Playback) : List Call :=
  played.requests.map (Request.call config)

def errorEntries (played : Playback) : ℕ :=
  played.events.countP (·.level == .error)

/-- Something is said to be done. -/
def ClaimsSuccess (played : Playback) : Prop :=
  ∃ e ∈ played.events, e.level = .info

/-- The operation ends with a failure of a call.  One of the service or of the
client is a failure of the storage and is logged once, any other stays what it
is. -/
structure FailsOn (played : Playback) (verb : StorageVerb)
    (failure : CallFailure) : Prop where
  unclaimed : ¬ played.ClaimsSuccess
  announced : (∀ f, failure ≠ .foreign f) →
    played.outcome = .error (.storage verb failure.text) ∧
      played.errorEntries = 1
  passedOn : ∀ f, failure = .foreign f →
    played.outcome = .error (.foreign f) ∧ played.errorEntries = 0

variable {played later : Playback} {verb : StorageVerb}
  {event : String → Event} {failure : CallFailure}

theorem failsOn_of_fail (hlevel : ∀ text, (event text).level = .error)
    (hfail : Pending.fail verb event failure =
      (played.events, .finished played.outcome)) :
    played.FailsOn verb failure := by
  cases failure with
  | foreign f =>
      obtain ⟨hevents, houtcome⟩ := Prod.ext_iff.mp hfail
      dsimp only [Pending.fail] at hevents houtcome
      rw [Progress.finished.injEq] at houtcome
      constructor
      · simp [ClaimsSuccess, ← hevents]
      · intro hnot
        exact absurd rfl (hnot f)
      · rintro _ ⟨⟩
        exact ⟨houtcome.symm, by simp [errorEntries, ← hevents]⟩
  | rejected | client =>
      obtain ⟨hevents, houtcome⟩ := Prod.ext_iff.mp hfail
      dsimp only [Pending.fail] at hevents houtcome
      rw [Progress.finished.injEq] at houtcome
      constructor
      · simp [ClaimsSuccess, ← hevents, hlevel]
      · intro _
        exact ⟨houtcome.symm, by simp [errorEntries, ← hevents, hlevel]⟩
      · rintro _ ⟨⟩

/-- What was logged for information only does not count. -/
theorem FailsOn.behind {e : Event} (h : later.FailsOn verb failure)
    (he : e.level = .debug) (hevents : played.events = e :: later.events)
    (houtcome : played.outcome = later.outcome) :
    played.FailsOn verb failure := by
  have hclaims : played.ClaimsSuccess ↔ later.ClaimsSuccess := by
    simp [ClaimsSuccess, hevents, he]
  have herrors : played.errorEntries = later.errorEntries := by
    simp [errorEntries, hevents, he]
  constructor
  · rw [hclaims]
    exact h.unclaimed
  · rw [houtcome, herrors]
    exact h.announced
  · rw [houtcome, herrors]
    exact h.passedOn

end Playback

namespace Pending

variable {pending next : Pending} {replies : List Reply} {events : List Event}
  {outcome : StoreOutcome}

/-! ## Replies one by one -/

theorem resume_foreign (pending : Pending) (f : ForeignFailure) :
    pending.resume (.error (.foreign f)) =
      ([], .finished (.error (.foreign f))) := by
  cases pending <;> rfl

theorem play_of_finished
    (hresume : pending.resume (replyAt replies 0) = (events, .finished outcome)) :
    pending.play replies =
      { requests := [pending.request], events, outcome,
        unused := replies.drop 1 } := by
  cases replies with
  | nil =>
      rw [replyAt, List.getD_nil, resume_foreign] at hresume
      cases hresume
      rfl
  | cons reply rest =>
      rw [replyAt, List.getD_cons_zero] at hresume
      rw [play, hresume]
      rfl

theorem play_of_waiting
    (hresume : pending.resume (replyAt replies 0) = (events, .waiting next)) :
    pending.play replies =
      { next.play (replies.drop 1) with
        requests := pending.request :: (next.play (replies.drop 1)).requests
        events := events ++ (next.play (replies.drop 1)).events } := by
  cases replies with
  | nil =>
      rw [replyAt, List.getD_nil, resume_foreign] at hresume
      cases hresume
  | cons reply rest =>
      rw [replyAt, List.getD_cons_zero] at hresume
      rw [play, hresume]
      rfl

/-- Each request takes one reply. -/
theorem unused_play (pending : Pending) (replies : List Reply) :
    (pending.play replies).unused =
      replies.drop (pending.play replies).requests.length := by
  induction replies generalizing pending with
  | nil => rfl
  | cons reply rest ih =>
      cases hresume : pending.resume reply with
      | mk events progress =>
          cases progress with
          | finished outcome => rw [play_of_finished hresume]; rfl
          | waiting next =>
              rw [play_of_waiting hresume]
              exact ih next

/-- A reply that is passed on as a failure is the last one. -/
theorem play_of_fail {verb : StorageVerb} {failure : CallFailure}
    (event : String → Event) (hlevel : ∀ text, (event text).level = .error)
    (hresume : pending.resume (replyAt replies 0) = fail verb event failure) :
    (pending.play replies).requests = [pending.request] ∧
      (pending.play replies).FailsOn verb failure := by
  obtain ⟨outcome, houtcome⟩ := fail_finished verb event failure
  have hfail : fail verb event failure =
      ((fail verb event failure).1, .finished outcome) := Prod.ext rfl houtcome
  rw [play_of_finished (hresume.trans hfail)]
  exact ⟨rfl, Playback.failsOn_of_fail hlevel hfail⟩

theorem isConditionFailed_of_not_refused {failure : CallFailure}
    (hrefused : ¬ Refused (.error failure)) :
    failure.isConditionFailed = false := by
  cases hcode : failure.isConditionFailed with
  | false => rfl
  | true => exact absurd (refused_of_conditionFailed hcode) hrefused

/-! ## Operation by operation -/

theorem play_reading_of_ok {response : Datum} (group : String)
    (hreply : replyAt replies 0 = .ok response) :
    (reading group).play replies =
      { requests := [.getItem group], events := [],
        outcome := readRecord response, unused := replies.drop 1 } := by
  apply play_of_finished
  rw [hreply]
  rfl

theorem play_reading_of_error {failure : CallFailure} (group : String)
    (hreply : replyAt replies 0 = .error failure) :
    ((reading group).play replies).requests = [.getItem group] ∧
      ((reading group).play replies).FailsOn .get failure := by
  apply play_of_fail (.readFailed group) fun _ => rfl
  rw [hreply]
  rfl

theorem play_adding_of_ok {response : Datum} (record : CallRecord)
    (hreply : replyAt replies 0 = .ok response) :
    (adding record).play replies =
      { requests := [.putItem record]
        events := [.callAdded record.groupId record.callId record.backendRegion]
        outcome := .ok (.record (some record)), unused := replies.drop 1 } := by
  apply play_of_finished
  rw [hreply]
  rfl

theorem play_adding_of_error {failure : CallFailure} (record : CallRecord)
    (hreply : replyAt replies 0 = .error failure)
    (hrefused : ¬ Refused (replyAt replies 0)) :
    ((adding record).play replies).requests = [.putItem record] ∧
      ((adding record).play replies).FailsOn .put failure := by
  apply play_of_fail (.addFailed record.groupId) fun _ => rfl
  rw [hreply] at hrefused ⊢
  simp [resume, isConditionFailed_of_not_refused hrefused]

/-- A refused put is followed by a read of the group. -/
theorem play_adding_of_refused (record : CallRecord)
    (hrefused : Refused (replyAt replies 0)) :
    (adding record).play replies =
      { (reading record.groupId).play (replies.drop 1) with
        requests := .putItem record ::
          ((reading record.groupId).play (replies.drop 1)).requests
        events := .callPresent record.groupId record.callId ::
          ((reading record.groupId).play (replies.drop 1)).events } :=
  play_of_waiting (resume_adding_refused hrefused record)

theorem play_removing_of_ok {response : Datum} (group call : String)
    (hreply : replyAt replies 0 = .ok response) :
    (removing group call).play replies =
      { requests := [.deleteItem group call], events := [.callRemoved group call]
        outcome := .ok .removed, unused := replies.drop 1 } := by
  apply play_of_finished
  rw [hreply]
  rfl

theorem play_removing_of_refused (group call : String)
    (hrefused : Refused (replyAt replies 0)) :
    (removing group call).play replies =
      { requests := [.deleteItem group call], events := [.callGone group call]
        outcome := .ok .removed, unused := replies.drop 1 } :=
  play_of_finished (resume_removing_refused hrefused group call)

theorem play_removing_of_error {failure : CallFailure} (group call : String)
    (hreply : replyAt replies 0 = .error failure)
    (hrefused : ¬ Refused (replyAt replies 0)) :
    ((removing group call).play replies).requests = [.deleteItem group call] ∧
      ((removing group call).play replies).FailsOn .delete failure := by
  apply play_of_fail (.removeFailed group call) fun _ => rfl
  rw [hreply] at hrefused ⊢
  simp [resume, isConditionFailed_of_not_refused hrefused]

end Pending

/-! ## What reaches the service -/

def keyOf (group : String) : Datum :=
  .map [("groupConferenceId", .map [("S", .text group)])]

/-- A put on condition that the group has no item. -/
def putCall (config : TableConfig) (record : CallRecord) : Call where
  method := "put_item"
  parameters :=
    [("TableName", config.table), ("Item", record.toItem),
      ("ConditionExpression", .text "attribute_not_exists(groupConferenceId)")]

/-- A consistent read of the item of a group. -/
def readCall (config : TableConfig) (group : String) : Call where
  method := "get_item"
  parameters :=
    [("TableName", config.table), ("Key", keyOf group),
      ("ConsistentRead", .bool true)]

/-- A delete on condition that the item of the group is of the call. -/
def deleteCall (config : TableConfig) (group call : String) : Call where
  method := "delete_item"
  parameters :=
    [("TableName", config.table), ("Key", keyOf group),
      ("ConditionExpression", .text "jvbConferenceId = :value"),
      ("ExpressionAttributeValues",
        .map [(":value", .map [("S", .text call)])])]

namespace Request

variable (config : TableConfig)

theorem call_putItem (record : CallRecord) :
    (putItem record).call config = putCall config record := by
  simp [call, method, parameters, putCall, CallRecord.Field.attributeName]

theorem call_getItem (group : String) :
    (getItem group).call config = readCall config group := by
  simp [call, method, parameters, key, readCall, keyOf, Attribute.ofText,
    CallRecord.Field.attributeName]

theorem call_deleteItem (group id : String) :
    (deleteItem group id).call config = deleteCall config group id := by
  simp [call, method, parameters, key, conditionValue, deleteCall, keyOf,
    Attribute.ofText, CallRecord.Field.attributeName]

end Request

namespace Playback

/-! ## Operation by operation -/

/-- An addition as it should go. -/
structure Adds (config : TableConfig) (record : CallRecord)
    (replies : List Reply) (played : Playback) : Prop where
  put_alone : ¬ Refused (replyAt replies 0) →
    played.calls config = [putCall config record]
  put_and_read : Refused (replyAt replies 0) →
    played.calls config =
      [putCall config record, readCall config record.groupId]
  put_fails : ∀ failure, replyAt replies 0 = .error failure →
    ¬ Refused (replyAt replies 0) → played.FailsOn .put failure
  read_fails : Refused (replyAt replies 0) →
    ∀ failure, replyAt replies 1 = .error failure → played.FailsOn .get failure
  claims : played.ClaimsSuccess ↔ ∃ response, replyAt replies 0 = .ok response

/-- A removal as it should go. -/
structure Removes (config : TableConfig) (group call : String)
    (replies : List Reply) (played : Playback) : Prop where
  sent : played.calls config = [deleteCall config group call]
  returns : (∃ answer, played.outcome = .ok answer) ↔
    (∃ response, replyAt replies 0 = .ok response) ∨
      Refused (replyAt replies 0)
  fails : ∀ failure, replyAt replies 0 = .error failure →
    ¬ Refused (replyAt replies 0) → played.FailsOn .delete failure
  claims : played.ClaimsSuccess ↔ ∃ response, replyAt replies 0 = .ok response

/-- A read as it should go, whatever the code of its failure. -/
structure Reads (config : TableConfig) (group : String) (replies : List Reply)
    (played : Playback) : Prop where
  sent : played.calls config = [readCall config group]
  fails : ∀ failure, replyAt replies 0 = .error failure →
    played.FailsOn .get failure
  claims : ¬ played.ClaimsSuccess

variable (config : TableConfig) (replies : List Reply)

theorem FailsOn.not_ok {played : Playback} {verb : StorageVerb}
    {failure : CallFailure} (h : played.FailsOn verb failure)
    (answer : StoreAnswer) : played.outcome ≠ .ok answer := by
  cases failure with
  | foreign f => simp [(h.passedOn f rfl).1]
  | rejected | client => simp [(h.announced (by simp)).1]

theorem reads (group : String) :
    ((Pending.reading group).play replies).Reads config group replies where
  sent := by
    cases hreply : replyAt replies 0 with
    | ok response =>
        simp [Pending.play_reading_of_ok group hreply, calls,
          Request.call_getItem]
    | error failure =>
        simp [(Pending.play_reading_of_error group hreply).1, calls,
          Request.call_getItem]
  fails failure hreply := (Pending.play_reading_of_error group hreply).2
  claims := by
    cases hreply : replyAt replies 0 with
    | ok response =>
        simp [Pending.play_reading_of_ok group hreply, ClaimsSuccess]
    | error failure =>
        exact (Pending.play_reading_of_error group hreply).2.unclaimed

theorem adds (record : CallRecord) :
    ((Pending.adding record).play replies).Adds config record replies where
  put_alone hrefused := by
    cases hreply : replyAt replies 0 with
    | ok response =>
        simp [Pending.play_adding_of_ok record hreply, calls,
          Request.call_putItem]
    | error failure =>
        simp [(Pending.play_adding_of_error record hreply hrefused).1, calls,
          Request.call_putItem]
  put_and_read hrefused := by
    rw [calls, Pending.play_adding_of_refused record hrefused, List.map_cons,
      Request.call_putItem]
    exact congrArg _ (reads config (replies.drop 1) record.groupId).sent
  put_fails failure hreply hrefused :=
    (Pending.play_adding_of_error record hreply hrefused).2
  read_fails hrefused failure hfailure := by
    rw [← replyAt_zero_drop] at hfailure
    have hfails := (reads config _ record.groupId).fails failure hfailure
    rw [Pending.play_adding_of_refused record hrefused]
    exact hfails.behind rfl rfl rfl
  claims := by
    cases hreply : replyAt replies 0 with
    | ok response =>
        simp [Pending.play_adding_of_ok record hreply, ClaimsSuccess,
          Event.level]
    | error failure =>
        by_cases hrefused : Refused (replyAt replies 0)
        · have hclaims := (reads config (replies.drop 1) record.groupId).claims
          rw [Pending.play_adding_of_refused record hrefused]
          simpa [ClaimsSuccess, Event.level] using hclaims
        · have hfails :=
            (Pending.play_adding_of_error record hreply hrefused).2
          simpa using hfails.unclaimed

theorem removes (group call : String) :
    ((Pending.removing group call).play replies).Removes config group call
      replies := by
  cases hreply : replyAt replies 0 with
  | ok response =>
      rw [Pending.play_removing_of_ok group call hreply]
      constructor
      · simp [calls, Request.call_deleteItem]
      · simp [hreply]
      · simp [hreply]
      · simp [ClaimsSuccess, hreply, Event.level]
  | error failure =>
      by_cases hrefused : Refused (replyAt replies 0)
      · rw [Pending.play_removing_of_refused group call hrefused]
        constructor
        · simp [calls, Request.call_deleteItem]
        · simp [hrefused]
        · simp [hrefused]
        · simp [ClaimsSuccess, hreply, Event.level]
      · obtain ⟨hrequests, hfails⟩ :=
          Pending.play_removing_of_error group call hreply hrefused
        constructor
        · simp [calls, hrequests, Request.call_deleteItem]
        · simp [hreply, hfails.not_ok, hreply ▸ hrefused]
        · intro failure' hreply' _
          exact (Pending.play_removing_of_error group call hreply' hrefused).2
        · simpa [hreply] using hfails.unclaimed

end Playback

/-- Against any replies, each request takes one of them, and an addition, a removal
and a read send what they should and fail as they should. -/
theorem requests_of_operations (config : TableConfig) (replies : List Reply) :
    (∀ call : StoreCall, (call.begin.play replies).unused =
      replies.drop (call.begin.play replies).requests.length) ∧
    (∀ record : CallRecord,
      ((StoreCall.add record).begin.play replies).Adds config record replies) ∧
    (∀ group call : String,
      ((StoreCall.remove group call).begin.play replies).Removes config group
        call replies) ∧
    ∀ group : String,
      ((StoreCall.get group).begin.play replies).Reads config group replies :=
  ⟨fun call => call.begin.unused_play replies, Playback.adds config replies,
    Playback.removes config replies, Playback.reads config replies⟩

/-- The code of a failed condition is a failure like any other when it comes as the
reply to the read behind a put. -/
theorem requests_of_addition_refused_twice :
    let played := (StoreCall.add firstCall).begin.play
      [sampleRefusal, sampleRefusal]
    played.calls sampleTable =
      [putCall sampleTable firstCall, readCall sampleTable "group"] ∧
    (∃ reason, played.outcome = .error (.storage .get reason)) ∧
    played.errorEntries = 1 ∧ ¬ played.ClaimsSuccess := by
  obtain ⟨-, hadds, -, -⟩ :=
    requests_of_operations sampleTable [sampleRefusal, sampleRefusal]
  have hrefused : Refused (replyAt [sampleRefusal, sampleRefusal] 0) :=
    sampleRefusal_refused
  obtain ⟨rejection, hrejection, -⟩ := sampleRefusal_refused
  have hfails := (hadds firstCall).read_fails hrefused _ hrejection
  obtain ⟨houtcome, herrors⟩ := hfails.announced (by simp)
  exact ⟨(hadds firstCall).put_and_read hrefused, ⟨_, houtcome⟩, herrors,
    hfails.unclaimed⟩

end CallRegistry
