import CallRegistry.Proofs.Interleaving
import CallRegistry.Proofs.OneGroup
import CallRegistry.Proofs.StoredValues
import CallRegistry.Store.Script

/-!
# Failures of the storage

The service refuses a request, the client cannot carry it out, or a response
comes whose items the table can hold.  Whatever the operation and wherever this
happens, it ends with a result or with a failure that the store announces, as
long as the numbers in the items are in reach.  A region is given whole or not
at all.

The service keeps numbers of 38 digits down to `10 ^ -130`, whose last digits
are out of reach.  An item with such a number is not announced as corrupt.
-/

namespace CallRegistry

open TableService (firstCall)

theorem Except.mapM_eq_ok_iff {ε α β : Type} {f : α → Except ε β}
    {xs : List α} {ys : List β} :
    xs.mapM f = .ok ys ↔ List.Forall₂ (fun x y => f x = .ok y) xs ys := by
  induction xs generalizing ys with
  | nil =>
      rw [List.mapM_nil, List.forall₂_nil_left_iff]
      simp [pure, Except.pure, eq_comm]
  | cons x xs ih =>
      simp only [List.mapM_cons, Except.bind_eq_ok_iff, ih,
        List.forall₂_cons_left_iff]
      simp [pure, Except.pure, eq_comm]

theorem Except.exists_of_mapM_eq_error {ε α β : Type} {f : α → Except ε β}
    {xs : List α} {e : ε} (h : xs.mapM f = .error e) :
    ∃ x ∈ xs, f x = .error e := by
  induction xs with
  | nil => simp [pure, Except.pure] at h
  | cons x xs ih =>
      simp only [List.mapM_cons, Except.bind_eq_error_iff] at h
      rcases h with hx | ⟨_, -, hxs | ⟨_, -, hpure⟩⟩
      · exact ⟨x, by simp, hx⟩
      · obtain ⟨y, hy, he⟩ := ih hxs
        exact ⟨y, by simp [hy], he⟩
      · contradiction

theorem exists_of_forall₂ {α β : Type} {R : α → β → Prop} {xs : List α}
    {ys : List β} (h : List.Forall₂ R xs ys) {x : α} (hx : x ∈ xs) :
    ∃ y, R x y := by
  induction h with
  | nil => simp at hx
  | cons hxy _ ih =>
      rcases List.mem_cons.mp hx with rfl | hx
      · exact ⟨_, hxy⟩
      · exact ih hx

/-- A reply of a service that answers or fails as it is meant to, where the
numbers in the items are of a kind. -/
def Reply.Sound (Number : String → Prop) (q : Request) : Reply → Prop
  | .error (.foreign _) => False
  | .error _ => True
  | .ok response =>
    match q with
    | .getItem _ => ∃ fields, response = .map fields ∧
        ∀ item, fields.lookup "Item" = some item →
          CallRecord.StoredItem Number item
    | .query _ _ => ∃ fields, response = .map fields ∧
        ∀ page, fields.lookup "Items" = some page →
          ∃ items, page = .list items ∧
            ∀ item ∈ items, CallRecord.StoredItem Number item
    | .putItem _ | .deleteItem _ _ => True

/-- A result, or a failure that the store announces. -/
def StoreOutcome.Announced (outcome : StoreOutcome) : Prop :=
  (∃ answer, outcome = .ok answer) ∨
    ∃ failure, outcome = .error failure ∧ failure.isStorage = true

theorem StoreFailure.isStorage_ofItem {fault : ItemFault}
    (hfault : fault.sort.isExpected = true) :
    (StoreFailure.ofItem fault).isStorage = true := by
  simp [StoreFailure.ofItem, hfault, StoreFailure.isStorage]

/-- The items that a page offers, if it can be gone through. -/
def itemsOffered? (fields : Form) : Option (List Datum) :=
  match fields.lookup "Items" with
  | none => some []
  | some d => d.members?

/-- A reply that holds a page, all of whose items are records. -/
def Reply.Pages (reply : Reply) (page : List CallRecord) : Prop :=
  ∃ fields items, reply = .ok (.map fields) ∧
    itemsOffered? fields = some items ∧
    List.Forall₂ (fun item r => CallRecord.ofItem item = .ok r) items page

namespace Pending

variable {fields : Form} {region : String} {found : List CallRecord}
  {after : Option Datum} {reply : Reply} {Number : String → Prop}

theorem readPage_eq (fields : Form) :
    (∃ kind, itemsOffered? fields = none ∧
      readPage fields = .error (.noItems kind)) ∨
    ∃ items, itemsOffered? fields = some items ∧
      readPage fields = items.mapM fun item =>
        (CallRecord.ofItem item).mapError StoreFailure.ofItem := by
  unfold readPage itemsOffered?
  cases fields.lookup "Items" with
  | none => exact Or.inr ⟨[], rfl, rfl⟩
  | some d =>
      cases hmembers : d.members? with
      | none => exact Or.inl ⟨d.kindName, hmembers, by simp [hmembers]⟩
      | some items => exact Or.inr ⟨items, hmembers, by simp [hmembers]⟩

theorem readPage_eq_ok_iff {page : List CallRecord} :
    readPage fields = .ok page ↔ Reply.Pages (.ok (.map fields)) page := by
  have hread : ∀ items : List Datum,
      (items.mapM fun item =>
        (CallRecord.ofItem item).mapError StoreFailure.ofItem) = .ok page ↔
        List.Forall₂ (fun item r => CallRecord.ofItem item = .ok r) items
          page := by
    intro items
    simp only [Except.mapM_eq_ok_iff, Except.mapError_eq_ok_iff]
  unfold Reply.Pages
  rcases readPage_eq fields with ⟨kind, hnone, heq⟩ | ⟨items, hsome, heq⟩
  · rw [heq]
    simp [hnone]
  · rw [heq, hread]
    simp [hsome]

/-- A page of items that are kept is read, or one of them is corrupt. -/
theorem isStorage_of_readPage {items : List Datum} {failure : StoreFailure}
    (hoffered : itemsOffered? fields = some items)
    (hitems : ∀ item ∈ items, CallRecord.StoredItem NumberInReach item)
    (h : readPage fields = .error failure) : failure.isStorage = true := by
  rcases readPage_eq fields with ⟨kind, hnone, -⟩ | ⟨items', hsome, heq⟩
  · simp [hoffered] at hnone
  · obtain rfl : items = items' := by simpa [hoffered] using hsome
    rw [heq] at h
    obtain ⟨item, hitem, herror⟩ := Except.exists_of_mapM_eq_error h
    obtain ⟨fault, hfault, rfl⟩ := Except.mapError_eq_error_iff.mp herror
    exact StoreFailure.isStorage_ofItem
      ((hitems item hitem).isExpected (Attribute.leaves_none 32) hfault)

/-! ## One reply -/

theorem announced_of_fail {verb : StorageVerb} {event : String → Event}
    {failure : CallFailure} {outcome : StoreOutcome} {q : Request}
    (hsound : Reply.Sound Number q (.error failure))
    (hfail : (fail verb event failure).2 = .finished outcome) :
    outcome.Announced := by
  cases failure with
  | foreign => exact absurd hsound id
  | rejected | client =>
      rw [fail, Progress.finished.injEq] at hfail
      · exact Or.inr ⟨_, hfail.symm, rfl⟩
      · simp

theorem announced_of_readRecord {response : Datum} {group : String}
    (hsound : Reply.Sound NumberInReach (.getItem group) (.ok response)) :
    (readRecord response).Announced := by
  obtain ⟨fields, rfl, hstored⟩ := hsound
  simp only [readRecord]
  split
  next => exact Or.inl ⟨_, rfl⟩
  next => exact Or.inl ⟨_, rfl⟩
  next item hne hitem =>
    split
    next r hr => exact Or.inl ⟨_, rfl⟩
    next fault hfault =>
      exact Or.inr ⟨_, rfl, StoreFailure.isStorage_ofItem
        ((hstored item hitem).isExpected (Attribute.leaves_none 32) hfault)⟩

theorem announced_of_readScan {response : Datum} {outcome : StoreOutcome}
    (hsound : Reply.Sound NumberInReach (.query region after) (.ok response))
    (hscan : readScan region found response = .finished outcome) :
    outcome.Announced := by
  obtain ⟨fields, rfl, hstored⟩ := hsound
  simp only [readScan] at hscan
  split at hscan
  next failure hpage =>
    rw [Progress.finished.injEq] at hscan
    refine Or.inr ⟨failure, hscan.symm, ?_⟩
    cases hlookup : fields.lookup "Items" with
    | none => simp [readPage, hlookup] at hpage
    | some d =>
        obtain ⟨items, rfl, hitems⟩ := hstored d hlookup
        have hoffered : itemsOffered? fields = some items := by
          simp [itemsOffered?, hlookup, Datum.members?]
        exact isStorage_of_readPage hoffered hitems hpage
  next page hpage =>
    split at hscan
    next => contradiction
    next =>
      rw [Progress.finished.injEq] at hscan
      exact Or.inl ⟨_, hscan.symm⟩

/-- Whatever an operation waits for, a sound reply ends it as announced if it
ends it. -/
theorem announced_of_resume {pending : Pending} {outcome : StoreOutcome}
    (hsound : reply.Sound NumberInReach pending.request)
    (hresume : (pending.resume reply).2 = .finished outcome) :
    outcome.Announced := by
  cases pending with
  | reading group =>
      cases reply with
      | ok response =>
          rw [resume, Progress.finished.injEq] at hresume
          exact hresume ▸ announced_of_readRecord hsound
      | error failure => exact announced_of_fail hsound hresume
  | adding record =>
      cases reply with
      | ok response =>
          rw [resume, Progress.finished.injEq] at hresume
          exact Or.inl ⟨_, hresume.symm⟩
      | error failure =>
          rw [resume] at hresume
          split at hresume
          next => contradiction
          next => exact announced_of_fail hsound hresume
  | removing group call =>
      cases reply with
      | ok response =>
          rw [resume, Progress.finished.injEq] at hresume
          exact Or.inl ⟨_, hresume.symm⟩
      | error failure =>
          rw [resume] at hresume
          split at hresume
          next =>
            rw [Progress.finished.injEq] at hresume
            exact Or.inl ⟨_, hresume.symm⟩
          next => exact announced_of_fail hsound hresume
  | scanning region found after =>
      cases reply with
      | ok response => exact announced_of_readScan hsound hresume
      | error failure => exact announced_of_fail hsound hresume

/-! ## A whole operation -/

theorem play_finished {pending : Pending} {outcome : StoreOutcome}
    (hresume : (pending.resume reply).2 = .finished outcome)
    (rest : List Reply) :
    (pending.play (reply :: rest)).requests = [pending.request] ∧
      (pending.play (reply :: rest)).outcome = outcome := by
  have hboth : pending.resume reply =
      ((pending.resume reply).1, .finished outcome) := Prod.ext rfl hresume
  rw [play, hboth]
  exact ⟨rfl, rfl⟩

theorem play_waiting {pending next : Pending}
    (hresume : (pending.resume reply).2 = .waiting next) (rest : List Reply) :
    (pending.play (reply :: rest)).requests =
        pending.request :: (next.play rest).requests ∧
      (pending.play (reply :: rest)).outcome = (next.play rest).outcome := by
  have hboth : pending.resume reply =
      ((pending.resume reply).1, .waiting next) := Prod.ext rfl hresume
  rw [play, hboth]
  exact ⟨rfl, rfl⟩

/-- An operation all of whose requests are answered soundly ends as announced. -/
theorem announced_of_play {pending : Pending} {replies : List Reply}
    (hsound : ∀ e ∈ (pending.play replies).requests.zip replies,
      e.2.Sound NumberInReach e.1)
    (hanswered : (pending.play replies).requests.length ≤ replies.length) :
    (pending.play replies).outcome.Announced := by
  induction replies generalizing pending with
  | nil => simp [play] at hanswered
  | cons reply rest ih =>
      cases hresume : (pending.resume reply).2 with
      | finished outcome =>
          obtain ⟨hrequests, houtcome⟩ := play_finished hresume rest
          rw [hrequests] at hsound
          rw [houtcome]
          exact announced_of_resume (hsound (pending.request, reply) (by simp))
            hresume
      | waiting next =>
          obtain ⟨hrequests, houtcome⟩ := play_waiting hresume rest
          rw [hrequests] at hsound hanswered
          rw [houtcome]
          refine ih (fun e he => hsound e (by simp [he])) ?_
          simpa using hanswered

theorem length_requests_reading (group : String) (replies : List Reply) :
    ((reading group).play replies).requests.length = 1 := by
  cases replies with
  | nil => rfl
  | cons reply rest =>
      cases hresume : ((reading group).resume reply).2 with
      | finished outcome => rw [(play_finished hresume rest).1]; rfl
      | waiting next =>
          rcases resume_waiting hresume with
            ⟨_, hpending, -⟩ | ⟨_, _, _, _, _, hpending, -⟩ <;> contradiction

/-- An operation on one group sends two requests at most. -/
theorem length_requests_le {call : StoreCall} {group : String}
    (hcall : call.group? = some group) (replies : List Reply) :
    (call.begin.play replies).requests.length ≤ 2 := by
  cases replies with
  | nil => simp [play]
  | cons reply rest =>
      cases hresume : (call.begin.resume reply).2 with
      | finished outcome => simp [(play_finished hresume rest).1]
      | waiting next =>
          rw [(play_waiting hresume rest).1]
          rcases resume_waiting hresume with
            ⟨record, -, -, rfl⟩ | ⟨_, _, _, _, _, hpending, -⟩
          · simp [length_requests_reading]
          · cases call with
            | inRegion region => contradiction
            | _ => contradiction

/-- A reply to a scan is a page of records, or it ends the scan. -/
theorem resume_scanning (region : String) (found : List CallRecord)
    (after : Option Datum) (reply : Reply) :
    ((∃ failure, ((scanning region found after).resume reply).2 =
        .finished (.error failure)) ∧ ∀ page, ¬ reply.Pages page) ∨
    ∃ page, reply.Pages page ∧
      (((scanning region found after).resume reply).2 =
          .finished (.ok (.records (found ++ page))) ∨
        ∃ key, ((scanning region found after).resume reply).2 =
          .waiting (.scanning region (found ++ page) (some key))) := by
  cases reply with
  | error failure =>
      left
      constructor
      · cases failure <;> exact ⟨_, rfl⟩
      · rintro page ⟨fields, items, heq, -⟩
        contradiction
  | ok response =>
      cases response with
      | map fields =>
          cases hpage : readPage fields with
          | error failure =>
              left
              constructor
              · exact ⟨failure, by simp [resume, readScan, hpage]⟩
              · intro page hpages
                rw [← readPage_eq_ok_iff, hpage] at hpages
                contradiction
          | ok page =>
              right
              refine ⟨page, readPage_eq_ok_iff.mp hpage, ?_⟩
              cases hkey : nextKey? fields with
              | none => exact Or.inl (by simp [resume, readScan, hpage, hkey])
              | some key =>
                  exact Or.inr ⟨key, by simp [resume, readScan, hpage, hkey]⟩
      | _ =>
          left
          constructor
          · exact ⟨_, rfl⟩
          · rintro page ⟨fields, items, heq, -⟩
            simp at heq

/-- A scan that ends with records has gone through every page that it fetched. -/
theorem pages_of_play {replies : List Reply} {answer : StoreAnswer}
    (h : ((scanning region found after).play replies).outcome = .ok answer) :
    ∃ pages, List.Forall₂ Reply.Pages
        (replies.take
          ((scanning region found after).play replies).requests.length)
        pages ∧
      answer = .records (found ++ pages.flatten) := by
  induction replies generalizing found after with
  | nil => simp [play] at h
  | cons reply rest ih =>
      rcases resume_scanning region found after reply with
        ⟨⟨failure, hresume⟩, -⟩ | ⟨page, hpage, hresume | ⟨key, hresume⟩⟩
      · rw [(play_finished hresume rest).2] at h
        contradiction
      · obtain ⟨hrequests, houtcome⟩ := play_finished hresume rest
        rw [houtcome, Except.ok.injEq] at h
        rw [hrequests]
        exact ⟨[page], by simpa using hpage, by simp [h.symm]⟩
      · obtain ⟨hrequests, houtcome⟩ := play_waiting hresume rest
        rw [houtcome] at h
        obtain ⟨pages, hpages, rfl⟩ := ih h
        rw [hrequests]
        exact ⟨page :: pages, by simpa using ⟨hpage, hpages⟩, by simp⟩

end Pending

/-- However a service answers soundly, an operation ends with a result or with a
failure that the store announces.  On one group it sends two requests at most.
The records of a region are those of all the pages that were fetched, and where
one of these is lost or has an item that is no record, there are none. -/
theorem storage_failure_only (call : StoreCall) (replies : List Reply)
    (hsound : ∀ e ∈ (call.begin.play replies).requests.zip replies,
      e.2.Sound NumberInReach e.1) :
    let played := call.begin.play replies
    (∀ group, call.group? = some group → played.requests.length ≤ 2) ∧
    (played.requests.length ≤ replies.length →
      played.outcome.Announced ∧
      ∀ region, call = .inRegion region →
        let fetched := replies.take played.requests.length
        (∀ answer, played.outcome = .ok answer →
          ∃ pages, List.Forall₂ Reply.Pages fetched pages ∧
            answer = .records pages.flatten) ∧
        ((∃ reply ∈ fetched, ∀ page, ¬ reply.Pages page) →
          ∃ failure, played.outcome = .error failure ∧
            failure.isStorage = true)) := by
  refine ⟨fun group hcall => Pending.length_requests_le hcall replies, ?_⟩
  intro hanswered
  have hannounced := Pending.announced_of_play hsound hanswered
  refine ⟨hannounced, ?_⟩
  rintro region rfl
  have hwhole : ∀ answer,
      ((StoreCall.inRegion region).begin.play replies).outcome = .ok answer →
      ∃ pages, List.Forall₂ Reply.Pages
          (replies.take ((StoreCall.inRegion region).begin.play
            replies).requests.length) pages ∧
        answer = .records pages.flatten := by
    intro answer hanswer
    exact Pending.pages_of_play hanswer
  refine ⟨hwhole, ?_⟩
  rintro ⟨reply, hreply, hbroken⟩
  rcases hannounced with ⟨answer, hanswer⟩ | hfailed
  · obtain ⟨pages, hpages, -⟩ := hwhole answer hanswer
    obtain ⟨page, hpage⟩ := exists_of_forall₂ hpages hreply
    exact absurd hpage (hbroken page)
  · exact hfailed

/-- A record with an attribute of its own, a list of a number. -/
def historyItem : Datum :=
  .map (("history", .map [("L", .list [.map [("N", .text "-2.5e1")]])]) ::
    firstCall.attributes)

theorem historyItem_stored :
    CallRecord.StoredItem NumberInReach historyItem := by
  have hnumber : NumberInReach "-2.5e1" := by
    have hwrites := Decimal.Writes.intro .minus
      (.pointed [2] [5] (by simp))
      (.power (Or.inl rfl) .none [1] (by simp))
    exact ⟨_, _, _, hwrites, ⟨by decide, by decide, by decide⟩⟩
  refine ⟨_, rfl, ?_⟩
  intro e he
  rcases List.mem_cons.mp he with rfl | he
  · refine .list ?_
    intro x hx
    rw [List.mem_singleton.mp hx]
    exact .number hnumber
  · obtain ⟨f, -, hvalue⟩ := CallRecord.mem_attributes_iff.mp he
    exact hvalue ▸ .text _

def brokenScan : List Reply :=
  [.ok (.map [("Items", .list [historyItem]), ("LastEvaluatedKey", .bool true)]),
    .error (.client .sessionExpired)]

/-- The first page of a region has a record, and the second page is lost. -/
theorem storage_failure_of_broken_scan :
    let played := (StoreCall.inRegion "eu").begin.play brokenScan
    CallRecord.ofItem historyItem = .ok firstCall ∧
    played.requests.length = 2 ∧
    ∃ failure, played.outcome = .error failure ∧ failure.isStorage = true := by
  have hrequests : ((StoreCall.inRegion "eu").begin.play brokenScan).requests =
      [.query "eu" none, .query "eu" (some (.bool true))] := rfl
  have hsound : ∀ e ∈ ((StoreCall.inRegion "eu").begin.play
      brokenScan).requests.zip brokenScan,
      e.2.Sound NumberInReach e.1 := by
    rw [hrequests]
    intro e he
    simp only [brokenScan, List.zip_cons_cons, List.zip_nil_right,
      List.mem_cons, List.not_mem_nil, or_false] at he
    rcases he with rfl | rfl
    · refine ⟨_, rfl, ?_⟩
      intro page hpage
      obtain rfl : page = .list [historyItem] := by simpa using hpage.symm
      refine ⟨_, rfl, ?_⟩
      intro item hitem
      exact List.mem_singleton.mp hitem ▸ historyItem_stored
    · trivial
  have hlost : ∃ reply ∈ brokenScan.take 2, ∀ page, ¬ reply.Pages page := by
    refine ⟨.error (.client .sessionExpired), by simp [brokenScan], ?_⟩
    rintro page ⟨fields, items, heq, -⟩
    contradiction
  have hwhole := (storage_failure_only _ _ hsound).2 (Nat.le_refl 2)
  exact ⟨rfl, rfl, (hwhole.2 "eu" rfl).2 hlost⟩

/-! ## The smallest numbers -/

/-- A number of 38 digits just above the smallest that the service keeps. -/
def tinyNumber : String := "1.2345678901234567890123456789012345678E-130"

theorem tinyNumber_kept : KeptNumber tinyNumber := by
  have hwrites := Decimal.Writes.intro .none
    (.pointed [1] [2, 3, 4, 5, 6, 7, 8, 9, 0, 1, 2, 3, 4, 5, 6, 7, 8, 9, 0, 1,
      2, 3, 4, 5, 6, 7, 8, 9, 0, 1, 2, 3, 4, 5, 6, 7, 8] (by simp))
    (.power (Or.inr rfl) .minus [1, 3, 0] (by simp))
  refine ⟨_, _, _, hwrites, Or.inr ⟨⟨12345678901234567890123456789012345678, 0,
    by decide, by decide⟩, by decide, by decide⟩⟩

/-- An item whose creator is that number. -/
def tinyItem : Datum :=
  .map [("groupConferenceId", Attribute.ofText "g"),
    ("jvbConferenceId", Attribute.ofText "c"),
    ("jvbHost", Attribute.ofText "h"), ("region", Attribute.ofText "r"),
    ("creator", .map [("N", .text tinyNumber)])]

def tinyReply : Reply :=
  .ok (.map [("Item", tinyItem)])

theorem tinyItem_stored : CallRecord.StoredItem KeptNumber tinyItem := by
  refine ⟨_, rfl, ?_⟩
  intro e he
  simp only [List.mem_cons, List.not_mem_nil, or_false] at he
  rcases he with rfl | rfl | rfl | rfl | rfl
  · exact .text "g"
  · exact .text "c"
  · exact .text "h"
  · exact .text "r"
  · exact .number tinyNumber_kept

theorem outcome_tinyReply :
    ((StoreCall.get "g").begin.play [tinyReply]).outcome =
      .error (.unforeseen (.unreadable (.number
        (.lost [.underflow, .inexact, .rounded])))) := rfl

/-- An item that the service keeps, and whose fault is not announced. -/
theorem tiny_number_not_announced :
    let played := (StoreCall.get "g").begin.play [tinyReply]
    (∀ e ∈ played.requests.zip [tinyReply], e.2.Sound KeptNumber e.1) ∧
      ¬ played.outcome.Announced := by
  have hrequests : ((StoreCall.get "g").begin.play [tinyReply]).requests =
      [.getItem "g"] := rfl
  constructor
  · intro e he
    obtain rfl : e = (.getItem "g", tinyReply) := by
      simpa [hrequests] using he
    refine ⟨_, rfl, ?_⟩
    intro item hitem
    obtain rfl : item = tinyItem := by simpa using hitem.symm
    exact tinyItem_stored
  · rw [outcome_tinyReply]
    rintro (⟨answer, hanswer⟩ | ⟨failure, hfailure, hstorage⟩)
    · contradiction
    · cases hfailure
      contradiction

end CallRegistry
