import CallRegistry.Proofs.Interleaving
import CallRegistry.Proofs.OneGroup

/-!
# The log and the table

Clients add, remove and read calls on one shared table, which was empty, and they
write what they have done to one log.  A request that is served settles what its
client will write: that it has added a call, if the request stored one, that it has
removed one, if the request erased it, and neither of them otherwise.  So the entries
caused always balance with the table.  Those written lag behind by the replies under
way, and agree with those caused when no operation is.
-/

namespace CallRegistry

open TableService

instance (t : Table) (group call : String) : Decidable (t.HoldsCall group call) :=
  inferInstanceAs (Decidable (_ = _))

/-- An entry for information of this wording, about a call of a group. -/
def Event.informs (message group call : String) (e : Event) : Bool :=
  e.level == .info && e.message == message &&
    e.details.lookup "group_id" == some (.text group) &&
    e.details.lookup "call_id" == some (.text call)

/-- How many more entries say that a call was added than that it was removed. -/
def balance (log : List Event) (group call : String) : ℤ :=
  (log.countP (·.informs "Added call record" group call) : ℤ) -
    log.countP (·.informs "Removed call record" group call)

/-- Whether the table holds a call, as a number. -/
def Table.tally (t : Table) (group call : String) : ℤ :=
  if t.HoldsCall group call then 1 else 0

theorem balance_append (log more : List Event) (group call : String) :
    balance (log ++ more) group call =
      balance log group call + balance more group call := by
  simp only [balance, List.countP_append, Nat.cast_add]
  ring

theorem balance_of_perm {log log' : List Event} (hperm : log.Perm log')
    (group call : String) :
    balance log group call = balance log' group call := by
  rw [balance, balance, hperm.countP_eq, hperm.countP_eq]

theorem balance_of_debug {e : Event} (he : e.level ≠ .info)
    (group call : String) : balance [e] group call = 0 := by
  simp [balance, Event.informs, he]

theorem balance_callAdded (record : CallRecord) (group call : String) :
    balance [.callAdded record.groupId record.callId record.backendRegion]
        group call =
      if record.groupId.val = group ∧ record.callId.val = call then 1 else 0 := by
  simp [balance, Event.informs, Event.level, Event.message, Event.details,
    List.lookup_cons]

theorem balance_callRemoved (group' call' group call : String) :
    balance [.callRemoved group' call'] group call =
      -if group' = group ∧ call' = call then 1 else 0 := by
  simp [balance, Event.informs, Event.level, Event.message, Event.details,
    List.lookup_cons]

/-! ## What is caused and what is written -/

variable {Client : Type}

/-- The entries that a client has yet to write: those that come with the reply under
way. -/
def Stage.due : Stage → List Event
  | .replied _ pending reply => (pending.resume reply).1
  | _ => []

namespace Happening

/-- The entries written at a step, each with the client that writes it. -/
def written : Happening Client → List (Client × Event)
  | .resumed operation events | .ended operation _ events =>
    events.map (Prod.mk operation.client)
  | _ => []

/-- The entries that a served request has its client write. -/
def caused : Happening Client → List (Client × Event)
  | .served operation _ pending reply =>
    (pending.resume reply).1.map (Prod.mk operation.client)
  | _ => []

end Happening

/-- The log of a run. -/
def writtenBy (h : List (Happening Client)) : List Event :=
  (h.flatMap Happening.written).map Prod.snd

/-- The entries that the requests served have caused, in the order of the requests. -/
def causedBy (h : List (Happening Client)) : List Event :=
  (h.flatMap Happening.caused).map Prod.snd

/-- Lists agree up to order if they agree for every client. -/
theorem perm_of_filter_eq [DecidableEq Client] {l l' : List (Client × Event)}
    (hfilter : ∀ i, l.filter (·.1 = i) = l'.filter (·.1 = i)) : l.Perm l' := by
  rw [List.perm_iff_count]
  rintro ⟨i, e⟩
  have hown : ∀ l : List (Client × Event),
      (l.filter (·.1 = i)).count (i, e) = l.count (i, e) := fun l =>
    List.count_filter (by simp)
  rw [← hown l, hfilter i, hown l']

theorem filter_map_mk [DecidableEq Client] (i j : Client) (events : List Event) :
    (events.map (Prod.mk i)).filter (·.1 = j) =
      if i = j then events.map (Prod.mk i) else [] := by
  by_cases heq : i = j <;> simp [List.filter_map, Function.comp_def, heq]

namespace World

variable [DecidableEq Client] {config : TableConfig}
  {answers : Table → Request → Reply → Table → Prop}
  {program : Client → List StoreCall} {w v : World Client}
  {x : Happening Client} {h : List (Happening Client)}

theorem Step.written (hstep : Step answers program w x v) (i : Client) :
    (w.stage i).due.map (Prod.mk i) ++ x.caused.filter (·.1 = i) =
      x.written.filter (·.1 = i) ++ (v.stage i).due.map (Prod.mk i) := by
  cases hstep with
  | @issue j call hidle hcall =>
      by_cases heq : i = j
      · subst i
        simp [Happening.caused, Happening.written, hidle, place, Stage.due]
      · simp [Happening.caused, Happening.written, place, heq]
  | @serve j call pending reply t' hsent hanswers =>
      simp only [Happening.caused, Happening.written, filter_map_mk]
      by_cases heq : i = j
      · subst i
        simp [hsent, place, current, Stage.due]
      · simp [place, current, heq, Ne.symm heq]
  | @resume j call pending next reply events hreplied hresume =>
      simp only [Happening.caused, Happening.written, filter_map_mk]
      by_cases heq : i = j
      · subst i
        simp [hreplied, hresume, place, current, Stage.due]
      · simp [place, current, heq, Ne.symm heq]
  | @finish j call pending reply events outcome hreplied hresume =>
      simp only [Happening.caused, Happening.written, filter_map_mk]
      by_cases heq : i = j
      · subst i
        simp [hreplied, hresume, place, current, Stage.due]
      · simp [place, current, heq, Ne.symm heq]

/-- Client by client, the entries caused are those written and then those due. -/
theorem Run.written (hrun : Run answers program w h v)
    (hw : ∀ i, w.stage i = .idle) (i : Client) :
    (h.flatMap Happening.caused).filter (·.1 = i) =
      (h.flatMap Happening.written).filter (·.1 = i) ++
        (v.stage i).due.map (Prod.mk i) := by
  induction hrun with
  | nil => simp [hw i, Stage.due]
  | snoc _ hstep ih =>
      rw [List.flatMap_append, List.flatMap_append, List.filter_append,
        List.filter_append, ih]
      simp [List.append_assoc, hstep.written i]

theorem Run.log_perm (hrun : Run answers program w h v)
    (hw : ∀ i, w.stage i = .idle) (hv : ∀ i, v.stage i = .idle) :
    (causedBy h).Perm (writtenBy h) := by
  apply List.Perm.map
  apply perm_of_filter_eq
  intro i
  rw [hrun.written hw i, hv i]
  simp [Stage.due]

end World

/-! ## What is caused and what the table holds -/

namespace Registry

variable {reg : Registry} {group other call : String} {record : CallRecord}

theorem tally_of_none (hnone : reg group = none) (call : String) :
    reg.table.tally group call = 0 := by
  have hitem : reg.table group = Option.map CallRecord.toItem none := by
    simp [table, hnone]
  simp [Table.tally, Table.holdsCall_iff_of_eq_map hitem]

theorem tally_of_some (hheld : reg group = some record) (call : String) :
    reg.table.tally group call = if record.callId.val = call then 1 else 0 := by
  have hitem : reg.table group = some record.toItem := by simp [table, hheld]
  simp [Table.tally, Table.holdsCall_iff_of_eq_toItem hitem]

theorem tally_update_of_ne (hne : group ≠ other) (held : Option CallRecord)
    (call : String) :
    (table (Function.update reg other held)).tally group call =
      reg.table.tally group call := by
  simp [Table.tally, table_update, Table.holdsCall_update_of_ne hne]

theorem tally_of_put (hfree : reg record.groupId = none) (group call : String) :
    (table (Function.update reg record.groupId (some record))).tally group call =
      reg.table.tally group call +
        balance [.callAdded record.groupId record.callId record.backendRegion]
          group call := by
  rw [balance_callAdded]
  by_cases heq : group = record.groupId
  · subst heq
    rw [tally_of_some (Function.update_self _ _ _), tally_of_none hfree]
    simp
  · rw [tally_update_of_ne heq]
    simp [Ne.symm heq]

theorem tally_of_delete (hheld : reg other = some record) (group call : String) :
    (table (Function.update reg other none)).tally group call =
      reg.table.tally group call +
        balance [.callRemoved other record.callId] group call := by
  rw [balance_callRemoved]
  by_cases heq : group = other
  · subst heq
    rw [tally_of_none (Function.update_self _ _ _), tally_of_some hheld]
    simp
  · rw [tally_update_of_ne heq]
    simp [Ne.symm heq]

end Registry

theorem Pending.balance_scanning (region : String) (found : List CallRecord)
    (after : Option Datum) (reply : Reply) (group call : String) :
    balance ((scanning region found after).resume reply).1 group call = 0 := by
  cases reply with
  | ok response => rfl
  | error failure =>
      cases failure with
      | rejected | client => exact balance_of_debug (by simp [Event.level]) _ _
      | foreign => rfl

/-- A request changes the table by what it causes to be written. -/
theorem StoreCall.Reaches.tally {config : TableConfig} {reg : Registry}
    {call : StoreCall} {pending : Pending} {reply : Reply} {t' : Table}
    (hreaches : call.Reaches pending)
    (h : Reliable config reg.table pending.request reply t') :
    ∃ reg' : Registry, t' = reg'.table ∧ ∀ group id,
      reg'.table.tally group id =
        reg.table.tally group id + balance (pending.resume reply).1 group id := by
  have hread : ∀ group, Reliable config reg.table (.getItem group) reply t' →
      ∃ reg' : Registry, t' = reg'.table ∧ ∀ other id,
        reg'.table.tally other id = reg.table.tally other id +
          balance ((Pending.reading group).resume reply).1 other id := by
    intro group hserved
    obtain ⟨⟨fields, rfl, -⟩, rfl⟩ := reliable_getItem_iff.mp hserved
    exact ⟨reg, rfl, by simp [Pending.resume, balance]⟩
  cases hreaches with
  | read group => exact hread group h
  | readBack record => exact hread record.groupId h
  | put record =>
      obtain ⟨_, hacts, rfl⟩ := (Registry.reliable_iff_acts rfl).mp h
      refine ⟨_, rfl, ?_⟩
      generalize hheld : reg record.groupId = held at hacts
      cases hacts with
      | stored response => exact Registry.tally_of_put hheld
      | present hrefused =>
          rw [← hheld, Function.update_eq_self,
            Pending.resume_adding_refused hrefused]
          intro _ _
          rw [balance_of_debug (by simp [Event.level]), add_zero]
  | delete group id =>
      obtain ⟨_, hacts, rfl⟩ := (Registry.reliable_iff_acts rfl).mp h
      refine ⟨_, rfl, ?_⟩
      generalize hheld : reg group = held at hacts
      cases hacts with
      | deleted response => exact Registry.tally_of_delete hheld
      | gone hgone hrefused =>
          rw [← hheld, Function.update_eq_self,
            Pending.resume_removing_refused hrefused]
          intro _ _
          rw [balance_of_debug (by simp [Event.level]), add_zero]
  | scan region found after =>
      rw [Pending.request, reliable_query_iff] at h
      exact ⟨reg, h, by simp [Pending.balance_scanning]⟩

namespace World

variable [DecidableEq Client] {config : TableConfig}
  {program : Client → List StoreCall} {w v : World Client}
  {x : Happening Client} {h : List (Happening Client)}

/-- The table is that of a registry, and the entries caused so far balance with it. -/
def Balanced (h : List (Happening Client)) (w : World Client) : Prop :=
  ∃ reg : Registry, w.table = reg.table ∧ ∀ group call,
    w.table.tally group call = balance (causedBy h) group call

theorem Step.balanced (hstep : Step (Reliable config) program w x v)
    (hw : w.Consistent program) (hbalanced : Balanced h w) :
    Balanced (h ++ [x]) v := by
  obtain ⟨reg, htable, htally⟩ := hbalanced
  have hcaused : causedBy (h ++ [x]) = causedBy h ++ x.caused.map Prod.snd := by
    simp [causedBy]
  rw [Balanced, hcaused]
  cases hstep with
  | issue | resume | finish =>
      exact ⟨reg, htable, by simpa [Happening.caused, place] using htally⟩
  | @serve i call pending reply t' hsent hanswers =>
      have hreaches := (hw i call pending (by rw [hsent]; rfl)).1
      rw [htable] at hanswers
      obtain ⟨reg', rfl, hserved⟩ := hreaches.tally hanswers
      refine ⟨reg', rfl, ?_⟩
      intro group id
      rw [balance_append, ← htally group id, htable]
      simpa [Happening.caused, Function.comp_def] using hserved group id

theorem Run.balanced
    (hrun : Run (Reliable config) program (start fun _ => none) h v) :
    Balanced h v := by
  induction hrun with
  | nil =>
      refine ⟨fun _ => none, rfl, ?_⟩
      intro group call
      exact @Registry.tally_of_none (fun _ => none) group rfl call
  | snoc hrun hstep ih =>
      exact hstep.balanced (hrun.consistent (start_consistent _)) ih

end World

/-- Whenever no operation is under way, the log has one entry more that a call was
added than that it was removed if the table holds the call, and as many if not. -/
theorem log_balances_with_table [DecidableEq Client] {config : TableConfig}
    {program : Client → List StoreCall} {h : List (Happening Client)}
    {w : World Client}
    (hrun : World.Run (Reliable config) program (World.start fun _ => none) h w)
    (hidle : ∀ i, w.stage i = .idle) (group call : String) :
    ((writtenBy h).countP (·.informs "Added call record" group call) : ℤ) -
        (writtenBy h).countP (·.informs "Removed call record" group call) =
      if w.table.HoldsCall group call then 1 else 0 := by
  have hlog : (causedBy h).Perm (writtenBy h) := hrun.log_perm (fun _ => rfl) hidle
  obtain ⟨_, -, htally⟩ := hrun.balanced
  calc balance (writtenBy h) group call
      = balance (causedBy h) group call := (balance_of_perm hlog _ _).symm
    _ = w.table.tally group call := (htally group call).symm

def balanceProgram : Fin 2 → List StoreCall
  | 0 => [.add firstCall, .add firstCall]
  | 1 => [.remove "group" "second", .remove "group" "first"]

theorem exists_run_of_balanceProgram :
    ∃ (h : List (Happening (Fin 2))) (w : World (Fin 2)),
      World.Run (Reliable sampleTable) balanceProgram
        (World.start fun _ => none) h w ∧
      (∀ i, w.stage i = .idle) ∧ w.table "group" = some firstCall.toItem ∧
      (writtenBy h).countP (·.informs "Added call record" "group" "first") = 2 := by
  have hrun : World.Run (Reliable sampleTable) balanceProgram
      (World.start fun _ => none) [] _ := .nil _
  have hrun := hrun.snoc (.issue (i := 0) rfl rfl)
  have hrun := hrun.snoc (.issue (i := 1) rfl rfl)
  have hrun := hrun.snoc (.serve (i := 0) rfl
    (reliable_putItem_iff.mpr (.inl ⟨by rfl, ⟨.null, rfl⟩, rfl⟩)))
  have hrun := hrun.snoc (.serve (i := 1) rfl
    (reliable_deleteItem_iff.mpr (.inr ⟨by
      rw [Table.holdsCall_iff_of_eq_toItem (r := firstCall) rfl]
      decide, sampleRefusal_refused, rfl⟩)))
  have hrun := hrun.snoc (.finish (i := 1) rfl rfl)
  have hrun := hrun.snoc (.finish (i := 0) rfl rfl)
  have hrun := hrun.snoc (.issue (i := 1) rfl rfl)
  have hrun := hrun.snoc (.serve (i := 1) rfl
    (reliable_deleteItem_iff.mpr (.inl ⟨by
      rw [Table.holdsCall_iff_of_eq_toItem (r := firstCall) rfl]
      decide, ⟨.null, rfl⟩, rfl⟩)))
  have hrun := hrun.snoc (.finish (i := 1) rfl rfl)
  have hrun := hrun.snoc (.issue (i := 0) rfl rfl)
  have hrun := hrun.snoc (.serve (i := 0) rfl
    (reliable_putItem_iff.mpr (.inl ⟨by rfl, ⟨.null, rfl⟩, rfl⟩)))
  have hrun := hrun.snoc (.finish (i := 0) rfl rfl)
  refine ⟨_, _, hrun, ?_, rfl, rfl⟩
  intro i
  fin_cases i <;> rfl

/-- A call is added, removed and added again, and a removal of another call finds
nothing to remove. -/
theorem log_balances_of_returning_call :
    ∃ (h : List (Happening (Fin 2))) (w : World (Fin 2)),
      World.Run (Reliable sampleTable) balanceProgram
        (World.start fun _ => none) h w ∧
      (∀ i, w.stage i = .idle) ∧ w.table.HoldsCall "group" "first" ∧
      (writtenBy h).countP (·.informs "Added call record" "group" "first") = 2 ∧
      (writtenBy h).countP (·.informs "Removed call record" "group" "first") = 1 := by
  obtain ⟨h, w, hrun, hidle, hitem, hadded⟩ := exists_run_of_balanceProgram
  have hholds : w.table.HoldsCall "group" "first" :=
    (Table.holdsCall_iff_of_eq_toItem hitem "first").mpr rfl
  have hbalance := log_balances_with_table hrun hidle "group" "first"
  rw [hadded, if_pos hholds] at hbalance
  refine ⟨h, w, hrun, hidle, hholds, hadded, ?_⟩
  omega

end CallRegistry
