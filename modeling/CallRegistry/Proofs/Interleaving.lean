import CallRegistry.Proofs.TableService

/-!
# Clients side by side

Any number of clients share a table.  Each has a program, the operations that it
carries out one after another.  An operation is issued, its requests are served
and their replies taken one by one, and it ends.  Serving a request is the only
step that touches the table: a request acts at one instant between its being sent
and the arrival of its reply.  The steps of different clients come in any order.
-/

namespace CallRegistry

/-- An operation by its place in the program of its client. -/
structure Operation (Client : Type) where
  client : Client
  index : Nat
  deriving DecidableEq

/-- Where a client stands: between operations, or with a request or a reply under
way. -/
inductive Stage where
  | idle
  | sent (call : StoreCall) (pending : Pending)
  | replied (call : StoreCall) (pending : Pending) (reply : Reply)

structure World (Client : Type) where
  table : Table
  stage : Client → Stage
  /-- How the operations of a client ended, in the order of its program. -/
  results : Client → List StoreOutcome

inductive Happening (Client : Type) where
  | issued (operation : Operation Client) (call : StoreCall)
  | served (operation : Operation Client) (call : StoreCall)
      (pending : Pending) (reply : Reply)
  | resumed (operation : Operation Client) (events : List Event)
  | ended (operation : Operation Client) (outcome : StoreOutcome)
      (events : List Event)

/-- A request was served whose reply ends its operation in this way. -/
def Happening.Decides {Client : Type} (x : Happening Client)
    (op : Operation Client) (outcome : StoreOutcome) : Prop :=
  ∃ call pending reply, x = .served op call pending reply ∧
    (pending.resume reply).2 = .finished outcome

/-- The operation under way and what it waits for. -/
def Stage.underWay? : Stage → Option (StoreCall × Pending)
  | idle => none
  | sent call pending => some (call, pending)
  | replied call pending _ => some (call, pending)

/-- What an operation may wait for in its course. -/
inductive StoreCall.Reaches : StoreCall → Pending → Prop
  | read (group : String) : Reaches (.get group) (.reading group)
  | put (record : CallRecord) : Reaches (.add record) (.adding record)
  | readBack (record : CallRecord) :
      Reaches (.add record) (.reading record.groupId)
  | delete (group call : String) :
      Reaches (.remove group call) (.removing group call)
  | scan (region : String) (found : List CallRecord) (after : Option Datum) :
      Reaches (.inRegion region) (.scanning region found after)

theorem StoreCall.reaches_begin (call : StoreCall) :
    call.Reaches call.begin := by
  cases call <;> constructor

theorem Pending.fail_finished (verb : StorageVerb) (event : String → Event)
    (failure : CallFailure) :
    ∃ outcome, (fail verb event failure).2 = .finished outcome := by
  cases failure <;> exact ⟨_, rfl⟩

/-- An operation goes on only from a refused put to a read, or from one page of a
region to the next. -/
theorem Pending.resume_waiting {pending next : Pending} {reply : Reply}
    (hresume : (pending.resume reply).2 = .waiting next) :
    (∃ record, pending = .adding record ∧ TableService.Refused reply ∧
      next = .reading record.groupId) ∨
    (∃ region found after found' after',
      pending = .scanning region found after ∧
      next = .scanning region found' after') := by
  cases pending with
  | reading group =>
      cases reply with
      | ok response => simp [resume] at hresume
      | error failure =>
          obtain ⟨outcome, houtcome⟩ :=
            fail_finished .get (.readFailed group) failure
          simp [resume, houtcome] at hresume
  | adding record =>
      cases reply with
      | ok response => simp [resume] at hresume
      | error failure =>
          obtain ⟨outcome, houtcome⟩ :=
            fail_finished .put (.addFailed record.groupId) failure
          simp only [resume] at hresume
          split at hresume
          next hcode =>
            left
            simp only [Progress.waiting.injEq] at hresume
            exact ⟨record, rfl,
              TableService.refused_of_conditionFailed hcode, hresume.symm⟩
          next => simp [houtcome] at hresume
  | removing group call =>
      cases reply with
      | ok response => simp [resume] at hresume
      | error failure =>
          obtain ⟨outcome, houtcome⟩ :=
            fail_finished .delete (.removeFailed group call) failure
          simp only [resume] at hresume
          split at hresume
          · simp at hresume
          · simp [houtcome] at hresume
  | scanning region found after =>
      right
      cases reply with
      | ok response =>
          cases response <;> simp only [resume, readScan] at hresume
          case map fields =>
            split at hresume
            · simp at hresume
            · split at hresume
              · simp only [Progress.waiting.injEq] at hresume
                exact ⟨region, found, after, _, _, rfl, hresume.symm⟩
              · simp at hresume
          all_goals simp at hresume
      | error failure =>
          obtain ⟨outcome, houtcome⟩ :=
            fail_finished .query (.queryFailed region) failure
          simp [resume, houtcome] at hresume

theorem StoreCall.Reaches.resume {call : StoreCall} {pending next : Pending}
    {reply : Reply} (hreaches : call.Reaches pending)
    (hresume : (pending.resume reply).2 = .waiting next) :
    call.Reaches next := by
  rcases Pending.resume_waiting hresume with
    ⟨record, rfl, -, rfl⟩ | ⟨region, found, after, found', after', rfl, rfl⟩
  · cases hreaches with
    | put => exact .readBack record
  · cases hreaches with
    | scan => exact .scan region found' after'

theorem StoreCall.Reaches.of_putItem {call : StoreCall} {pending : Pending}
    {record : CallRecord} (hreaches : call.Reaches pending)
    (hq : pending.request = .putItem record) :
    call = .add record ∧ pending = .adding record := by
  cases hreaches <;> simp_all [Pending.request]

theorem StoreCall.Reaches.of_deleteItem {call : StoreCall} {pending : Pending}
    {group id : String} (hreaches : call.Reaches pending)
    (hq : pending.request = .deleteItem group id) :
    call = .remove group id ∧ pending = .removing group id := by
  cases hreaches <;> simp_all [Pending.request]

namespace World

variable {Client : Type} [DecidableEq Client]

/-- A table before anything was issued. -/
def start (t : Table) : World Client where
  table := t
  stage := fun _ => .idle
  results := fun _ => []

/-- The operation that a client is at. -/
def current (w : World Client) (i : Client) : Operation Client :=
  ⟨i, (w.results i).length⟩

def place (w : World Client) (i : Client) (stage : Stage) : World Client :=
  { w with stage := Function.update w.stage i stage }

/-- One step, on a service that may give the given answers. -/
inductive Step (answers : Table → Request → Reply → Table → Prop)
    (program : Client → List StoreCall) :
    World Client → Happening Client → World Client → Prop
  | issue {w : World Client} {i : Client} {call : StoreCall}
      (hidle : w.stage i = .idle)
      (hcall : (program i)[(w.results i).length]? = some call) :
      Step answers program w (.issued (w.current i) call)
        (w.place i (.sent call call.begin))
  | serve {w : World Client} {i : Client} {call : StoreCall}
      {pending : Pending} {reply : Reply} {t' : Table}
      (hsent : w.stage i = .sent call pending)
      (hanswers : answers w.table pending.request reply t') :
      Step answers program w (.served (w.current i) call pending reply)
        { w.place i (.replied call pending reply) with table := t' }
  | resume {w : World Client} {i : Client} {call : StoreCall}
      {pending next : Pending} {reply : Reply} {events : List Event}
      (hreplied : w.stage i = .replied call pending reply)
      (hresume : pending.resume reply = (events, .waiting next)) :
      Step answers program w (.resumed (w.current i) events)
        (w.place i (.sent call next))
  | finish {w : World Client} {i : Client} {call : StoreCall}
      {pending : Pending} {reply : Reply} {events : List Event}
      {outcome : StoreOutcome}
      (hreplied : w.stage i = .replied call pending reply)
      (hresume : pending.resume reply = (events, .finished outcome)) :
      Step answers program w (.ended (w.current i) outcome events)
        { w.place i .idle with
          results := Function.update w.results i (w.results i ++ [outcome]) }

/-- Steps one after another, with what happened at each. -/
inductive Run (answers : Table → Request → Reply → Table → Prop)
    (program : Client → List StoreCall) :
    World Client → List (Happening Client) → World Client → Prop
  | nil (w : World Client) : Run answers program w [] w
  | snoc {w v u : World Client} {h : List (Happening Client)}
      {x : Happening Client} (hrun : Run answers program w h v)
      (hstep : Step answers program v x u) :
      Run answers program w (h ++ [x]) u

variable {answers : Table → Request → Reply → Table → Prop}
  {program : Client → List StoreCall}

theorem Run.rest {w v : World Client} {h : List (Happening Client)}
    (_ : Run answers program w h v) : Run answers program v [] v :=
  .nil v

theorem Run.step {w v : World Client} {x : Happening Client}
    (hrun : Run answers program w [x] v) : Step answers program w x v := by
  generalize hsteps : [x] = h at hrun
  cases hrun with
  | nil => contradiction
  | snoc hrun hstep =>
      rw [← List.nil_append [x]] at hsteps
      obtain ⟨hnone, hlast⟩ := List.append_inj' hsteps rfl
      cases hlast
      cases hrun with
      | nil => exact hstep
      | snoc => simp at hnone

theorem Run.append {w v u : World Client} {h h' : List (Happening Client)}
    (hrun : Run answers program w h v) (hmore : Run answers program v h' u) :
    Run answers program w (h ++ h') u := by
  induction hmore with
  | nil => simpa using hrun
  | snoc _ hstep ih =>
      rw [← List.append_assoc]
      exact ih.snoc hstep

/-- Every client is at an operation of its program, and waits for what that
operation may wait for. -/
def Consistent (program : Client → List StoreCall) (w : World Client) : Prop :=
  ∀ i call pending, (w.stage i).underWay? = some (call, pending) →
    call.Reaches pending ∧ (program i)[(w.results i).length]? = some call

omit [DecidableEq Client] in
theorem start_consistent (t : Table) :
    (start t : World Client).Consistent program := by
  intro i call pending hunder
  simp [start, Stage.underWay?] at hunder

theorem Step.consistent {w v : World Client} {x : Happening Client}
    (hstep : Step answers program w x v) (hw : w.Consistent program) :
    v.Consistent program := by
  intro j call pending hunder
  cases hstep with
  | @issue i call' hidle hcall =>
      by_cases heq : j = i
      · subst j
        simp [place, Stage.underWay?] at hunder
        obtain ⟨rfl, rfl⟩ := hunder
        exact ⟨call'.reaches_begin, hcall⟩
      · apply hw
        simpa [place, heq] using hunder
  | @serve i call' pending' reply t' hsent hanswers =>
      apply hw
      by_cases heq : j = i
      · subst j
        simpa [place, hsent, Stage.underWay?] using hunder
      · simpa [place, heq] using hunder
  | @resume i call' pending' next reply events hreplied hresume =>
      by_cases heq : j = i
      · subst j
        simp [place, Stage.underWay?] at hunder
        obtain ⟨rfl, rfl⟩ := hunder
        obtain ⟨hreaches, hcall⟩ :=
          hw i call' pending' (by simp [hreplied, Stage.underWay?])
        exact ⟨hreaches.resume (by rw [hresume]), hcall⟩
      · apply hw
        simpa [place, heq] using hunder
  | @finish i call' pending' reply events outcome hreplied hresume =>
      by_cases heq : j = i
      · subst j
        simp [place, Stage.underWay?] at hunder
      · have hold := hw j call pending (by simpa [place, heq] using hunder)
        simpa [place, heq] using hold

theorem Run.consistent {w v : World Client} {h : List (Happening Client)}
    (hrun : Run answers program w h v) (hw : w.Consistent program) :
    v.Consistent program := by
  induction hrun with
  | nil => exact hw
  | snoc _ hstep ih => exact hstep.consistent ih

/-! ## What is decided -/

/-- An operation has ended in this way, or will with the reply under way. -/
def Decided (w : World Client) (op : Operation Client)
    (outcome : StoreOutcome) : Prop :=
  (w.results op.client)[op.index]? = some outcome ∨
  (op = w.current op.client ∧ ∃ call pending reply,
    w.stage op.client = .replied call pending reply ∧
    (pending.resume reply).2 = .finished outcome)

omit [DecidableEq Client] in
theorem not_decided_of_sent {w : World Client} {i : Client}
    {call : StoreCall} {pending : Pending} {outcome : StoreOutcome}
    (hsent : w.stage i = .sent call pending) :
    ¬ w.Decided (w.current i) outcome := by
  rintro (hresult | ⟨-, call', pending', reply, hreplied, -⟩)
  · simp [current] at hresult
  · simp [current, hsent] at hreplied

/-- Only the service decides anything. -/
theorem Step.decided_iff {w v : World Client} {x : Happening Client}
    (hstep : Step answers program w x v) (op : Operation Client)
    (outcome : StoreOutcome) :
    v.Decided op outcome ↔ w.Decided op outcome ∨ x.Decides op outcome := by
  obtain ⟨j, k⟩ := op
  cases hstep with
  | @issue i call hidle hcall =>
      by_cases heq : j = i
      · subst j
        simp [Decided, place, current, Happening.Decides, hidle]
      · simp [Decided, place, current, Happening.Decides, heq]
  | @serve i call pending reply t' hsent hanswers =>
      by_cases heq : j = i
      · subst j
        simp [Decided, place, current, Happening.Decides, hsent, eq_comm]
      · simp [Decided, place, current, Happening.Decides, heq, Ne.symm heq]
  | @resume i call pending next reply events hreplied hresume =>
      by_cases heq : j = i
      · subst j
        simp [Decided, place, current, Happening.Decides, hreplied, hresume]
      · simp [Decided, place, current, Happening.Decides, heq]
  | @finish i call pending reply events outcome' hreplied hresume =>
      by_cases heq : j = i
      · subst j
        have happend :
            (w.results i ++ [outcome'])[k]? = some outcome ↔
              (w.results i)[k]? = some outcome ∨
                k = (w.results i).length ∧ outcome' = outcome := by
          grind
        simp [Decided, place, current, Happening.Decides, hreplied, hresume,
          happend]
      · simp [Decided, place, current, Happening.Decides, heq]

end World

end CallRegistry
