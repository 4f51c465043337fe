import CallRegistry.Proofs.Registry

/-!
# An operation on one group

Three of the four operations are about one group, and all that they read or write
is the record of that group.  `StoreCall.answer` and `StoreCall.leaves` say what
such an operation comes to when nothing else gets at the record meanwhile.
Carrying it out once more changes nothing.

`Pending.Ends` speaks of every way in which a service may answer: an operation
ends, and it does so as wanted.  A service may be more than a table, so what is
assumed of it is only how a request acts on the record of its group.
-/

namespace CallRegistry

open TableService

/-- The group that an operation is about. -/
def StoreCall.group? : StoreCall → Option String
  | .get group => some group
  | .add record => some record.groupId
  | .remove group _ => some group
  | .inRegion _ => none

theorem StoreCall.of_group? {call : StoreCall} {group : String}
    (hcall : call.group? = some group) :
    call = .get group ∨
    (∃ record, call = .add record ∧ record.groupId.val = group) ∨
    (∃ id, call = .remove group id) := by
  cases call <;> simp_all [group?]

theorem StoreCall.of_group?_none {call : StoreCall}
    (hcall : call.group? = none) : ∃ region, call = .inRegion region := by
  cases call <;> simp_all [group?]

/-- What an operation gives if no other group has a record. -/
def StoreCall.answer : StoreCall → Option CallRecord → StoreAnswer
  | .get _, held => .record held
  | .add record, held => .record (some (held.getD record))
  | .remove _ _, _ => .removed
  | .inRegion region, held =>
    .records (held.toList.filter (·.backendRegion.val == region))

/-- What an operation leaves of the record of its group. -/
def StoreCall.leaves : StoreCall → Option CallRecord → Option CallRecord
  | .add record, held => some (held.getD record)
  | .remove _ call, held => held.filter (·.callId.val != call)
  | .get _, held | .inRegion _, held => held

@[simp] theorem StoreCall.leaves_leaves (call : StoreCall)
    (held : Option CallRecord) :
    call.leaves (call.leaves held) = call.leaves held := by
  cases call <;> cases held <;> simp [leaves, Option.filter_filter]

theorem StoreCall.answer_leaves (call : StoreCall) (held : Option CallRecord) :
    call.answer (call.leaves held) = call.answer held := by
  cases call with
  | get group => rfl
  | add record => cases held <;> rfl
  | remove group call => rfl
  | inRegion region => rfl

theorem StoreCall.leaves_remove_of_gone {group call : String}
    {held : Option CallRecord}
    (hgone : ∀ r, held = some r → r.callId.val ≠ call) :
    (remove group call).leaves held = held := by
  cases held with
  | none => rfl
  | some r => simp [leaves, Option.filter, hgone r rfl]

namespace Request

def group? : Request → Option String
  | getItem group => some group
  | putItem record => some record.groupId
  | deleteItem group _ => some group
  | query _ _ => none

theorem of_group? {q : Request} {group : String}
    (hq : q.group? = some group) :
    q = .getItem group ∨
    (∃ record, q = .putItem record ∧ record.groupId.val = group) ∨
    (∃ call, q = .deleteItem group call) := by
  cases q <;> simp_all [group?]

/-- A request, the record of its group, the reply, and the record afterwards. -/
inductive Acts : Request → Option CallRecord → Reply → Option CallRecord → Prop
  | found {group : String} {held : Option CallRecord} {fields : Form}
      (hitem : fields.lookup "Item" = held.map CallRecord.toItem) :
      Acts (.getItem group) held (.ok (.map fields)) held
  | stored {record : CallRecord} (response : Datum) :
      Acts (.putItem record) none (.ok response) (some record)
  | present {record held : CallRecord} {reply : Reply}
      (hrefused : Refused reply) :
      Acts (.putItem record) (some held) reply (some held)
  | deleted {group : String} {held : CallRecord} (response : Datum) :
      Acts (.deleteItem group held.callId) (some held) (.ok response) none
  | gone {group call : String} {held : Option CallRecord} {reply : Reply}
      (hgone : ∀ r, held = some r → r.callId.val ≠ call)
      (hrefused : Refused reply) :
      Acts (.deleteItem group call) held reply held

theorem exists_acts {q : Request} {group : String}
    (hq : q.group? = some group) (held : Option CallRecord) :
    ∃ reply held', q.Acts held reply held' := by
  rcases of_group? hq with rfl | ⟨record, rfl, -⟩ | ⟨call, rfl⟩
  · have hitem : ∃ fields : Form,
        fields.lookup "Item" = held.map CallRecord.toItem := by
      cases held with
      | none => exact ⟨[], rfl⟩
      | some r => exact ⟨[("Item", r.toItem)], rfl⟩
    obtain ⟨fields, hfields⟩ := hitem
    exact ⟨_, _, .found hfields⟩
  · cases held with
    | none => exact ⟨_, _, .stored .null⟩
    | some r => exact ⟨_, _, .present sampleRefusal_refused⟩
  · by_cases hlive : ∃ r, held = some r ∧ r.callId.val = call
    · obtain ⟨r, rfl, rfl⟩ := hlive
      exact ⟨_, _, .deleted .null⟩
    · refine ⟨_, _, .gone ?_ sampleRefusal_refused⟩
      intro r hheld hcall
      exact hlive ⟨r, hheld, hcall⟩

end Request

namespace Table

variable {t : Table} {group : String} {held : Option CallRecord}

theorem free_iff_of_eq_map (hitem : t group = held.map CallRecord.toItem) :
    t.Free group ↔ held = none := by
  cases held <;> simp [Free, hitem]

theorem holdsCall_iff_of_eq_map (hitem : t group = held.map CallRecord.toItem)
    (call : String) :
    t.HoldsCall group call ↔ ∃ r, held = some r ∧ r.callId.val = call := by
  cases held <;>
    simp [HoldsCall, hitem, Attribute.ofText_injective.eq_iff]

end Table

/-- On a table a request acts on the item of its group and on nothing else. -/
theorem TableService.reliable_iff_acts {config : TableConfig} {t t' : Table}
    {q : Request} {group : String} {held : Option CallRecord} {reply : Reply}
    (hq : q.group? = some group)
    (hitem : t group = held.map CallRecord.toItem) :
    Reliable config t q reply t' ↔
      ∃ held', q.Acts held reply held' ∧
        t' = Function.update t group (held'.map CallRecord.toItem) := by
  have hsame : Function.update t group (held.map CallRecord.toItem) = t := by
    rw [← hitem, Function.update_eq_self]
  rcases Request.of_group? hq with rfl | ⟨record, rfl, rfl⟩ | ⟨call, rfl⟩
  · rw [reliable_getItem_iff, hitem]
    constructor
    · rintro ⟨⟨fields, rfl, hfound⟩, rfl⟩
      exact ⟨held, .found hfound, hsame.symm⟩
    · rintro ⟨held', hacts, rfl⟩
      cases hacts with
      | found hfound => exact ⟨⟨_, rfl, hfound⟩, hsame⟩
  · rw [reliable_putItem_iff, Table.free_iff_of_eq_map hitem]
    constructor
    · rintro (⟨rfl, ⟨response, rfl⟩, rfl⟩ | ⟨hheld, hrefused, rfl⟩)
      · exact ⟨some record, .stored response, rfl⟩
      · obtain ⟨r, rfl⟩ := Option.ne_none_iff_exists'.mp hheld
        exact ⟨some r, .present hrefused, hsame.symm⟩
    · rintro ⟨held', hacts, rfl⟩
      cases hacts with
      | stored response => exact Or.inl ⟨rfl, ⟨_, rfl⟩, rfl⟩
      | present hrefused => exact Or.inr ⟨by simp, hrefused, hsame⟩
  · rw [reliable_deleteItem_iff, Table.holdsCall_iff_of_eq_map hitem]
    constructor
    · rintro (⟨⟨r, rfl, rfl⟩, ⟨response, rfl⟩, rfl⟩ | ⟨hgone, hrefused, rfl⟩)
      · exact ⟨none, .deleted response, rfl⟩
      · refine ⟨held, .gone ?_ hrefused, hsame.symm⟩
        intro r hheld hcall
        exact hgone ⟨r, hheld, hcall⟩
    · rintro ⟨held', hacts, rfl⟩
      cases hacts with
      | deleted response => exact Or.inl ⟨⟨_, rfl, rfl⟩, ⟨_, rfl⟩, rfl⟩
      | gone hgone hrefused =>
          right
          refine ⟨?_, hrefused, hsame⟩
          rintro ⟨r, hheld, hcall⟩
          exact hgone r hheld hcall

/-- On the table of a registry a request acts on the registry. -/
theorem Registry.reliable_iff_acts {config : TableConfig} {reg : Registry}
    {t' : Table} {q : Request} {group : String} {reply : Reply}
    (hq : q.group? = some group) :
    Reliable config reg.table q reply t' ↔
      ∃ held, q.Acts (reg group) reply held ∧
        t' = Registry.table (Function.update reg group held) := by
  rw [TableService.reliable_iff_acts hq rfl]
  simp only [Registry.table_update]

namespace Pending

/-! ## What the replies lead to -/

theorem resume_reading_found {fields : Form} {held : Option CallRecord}
    (hitem : fields.lookup "Item" = held.map CallRecord.toItem)
    (group : String) :
    (reading group).resume (.ok (.map fields)) =
      ([], .finished (.ok (.record held))) := by
  cases held with
  | none =>
      rw [Option.map_none] at hitem
      simp [resume, readRecord, hitem]
  | some r =>
      have hshape : r.toItem = .map
          (CallRecord.Field.all.map fun f =>
            (f.attributeName, Attribute.ofText (r.get f))) := rfl
      have hread := r.ofItem_toItem
      rw [Option.map_some, hshape] at hitem
      rw [hshape] at hread
      simp [resume, readRecord, hitem, hread]

theorem resume_adding_refused {reply : Reply} (hrefused : Refused reply)
    (record : CallRecord) :
    (adding record).resume reply =
      ([.callPresent record.groupId record.callId],
        .waiting (.reading record.groupId)) := by
  obtain ⟨rejection, rfl, hcode⟩ := hrefused
  simp [resume, CallFailure.isConditionFailed, hcode]

theorem resume_removing_refused {reply : Reply} (hrefused : Refused reply)
    (group call : String) :
    (removing group call).resume reply =
      ([.callGone group call], .finished (.ok .removed)) := by
  obtain ⟨rejection, rfl, hcode⟩ := hrefused
  simp [resume, CallFailure.isConditionFailed, hcode]

/-! ## Every way to answer -/

variable {σ : Type} {service : σ → Request → Reply → σ → Prop}
  {post post' : StoreOutcome → σ → Prop} {s : σ} {pending : Pending}

/-- However the service answers, the operation ends, and it does so as `post`
wants it. -/
inductive Ends (service : σ → Request → Reply → σ → Prop)
    (post : StoreOutcome → σ → Prop) : σ → Pending → Prop
  | intro {s : σ} {pending : Pending}
      (hanswered : ∃ reply s', service s pending.request reply s')
      (hfinished : ∀ reply s' outcome,
        service s pending.request reply s' →
        (pending.resume reply).2 = .finished outcome → post outcome s')
      (hwaiting : ∀ reply s' next,
        service s pending.request reply s' →
        (pending.resume reply).2 = .waiting next →
        Ends service post s' next) :
      Ends service post s pending

theorem Ends.mono (h : Ends service post s pending)
    (hpost : ∀ outcome s', post outcome s' → post' outcome s') :
    Ends service post' s pending := by
  induction h with
  | intro hanswered hfinished _ ih =>
      refine .intro hanswered ?_ ih
      intro reply s' outcome hserved hresume
      exact hpost _ _ (hfinished reply s' outcome hserved hresume)

/-- An operation whose request finishes it in one way. -/
theorem ends_of_finished {outcome : StoreOutcome} {Next : σ → Prop}
    (hanswered : ∃ reply s', service s pending.request reply s')
    (hresume : ∀ reply s', service s pending.request reply s' →
      (pending.resume reply).2 = .finished outcome ∧ Next s') :
    Ends service (fun outcome' s' => outcome' = outcome ∧ Next s')
      s pending := by
  refine .intro hanswered ?_ ?_
  · intro reply s' outcome' hserved hfinished
    obtain ⟨hend, hs'⟩ := hresume reply s' hserved
    rw [hend, Progress.finished.injEq] at hfinished
    exact ⟨hfinished.symm, hs'⟩
  · intro reply s' next hserved hwaiting
    rw [(hresume reply s' hserved).1] at hwaiting
    contradiction

/-- A service that acts on the record of a group, which `Holds` tells from its
state, as the requests ask. -/
structure Keeper (service : σ → Request → Reply → σ → Prop) (group : String)
    (Holds : Option CallRecord → σ → Prop) : Prop where
  answers : ∀ {held s q}, Holds held s → q.group? = some group →
    ∃ reply s', service s q reply s'
  acts : ∀ {held s q reply s'}, Holds held s → q.group? = some group →
    service s q reply s' → ∃ held', q.Acts held reply held' ∧ Holds held' s'

theorem reliable_keeper (config : TableConfig) (t : Table) (group : String) :
    Keeper (Reliable config) group fun held t' =>
      t' = Function.update t group (held.map CallRecord.toItem) where
  answers := by
    rintro held _ q rfl hq
    obtain ⟨reply, held', hacts⟩ := Request.exists_acts hq held
    have hreliable : Reliable config _ q reply _ :=
      (reliable_iff_acts hq (Function.update_self group _ t)).mpr
        ⟨held', hacts, rfl⟩
    exact ⟨reply, _, hreliable⟩
  acts := by
    rintro held _ q reply t' rfl hq hserved
    obtain ⟨held', hacts, rfl⟩ :=
      (reliable_iff_acts hq (Function.update_self group _ t)).mp hserved
    exact ⟨held', hacts, Function.update_idem _ _ _⟩

variable {group : String} {Holds : Option CallRecord → σ → Prop}
  {held : Option CallRecord} {call : StoreCall}

theorem Keeper.ends_reading (hkeeper : Keeper service group Holds)
    (hs : Holds held s) :
    Ends service
      (fun outcome s' => outcome = .ok (.record held) ∧ Holds held s')
      s (.reading group) := by
  have hresume : ∀ reply s', service s (.getItem group) reply s' →
      ((reading group).resume reply).2 = .finished (.ok (.record held)) ∧
        Holds held s' := by
    intro reply s' hserved
    obtain ⟨held', hacts, hs'⟩ := hkeeper.acts hs rfl hserved
    cases hacts with
    | found hitem => exact ⟨by rw [resume_reading_found hitem], hs'⟩
  exact ends_of_finished (hkeeper.answers hs rfl) hresume

theorem Keeper.ends_adding {record : CallRecord}
    (hkeeper : Keeper service record.groupId Holds) (hs : Holds held s) :
    Ends service
      (fun outcome s' => outcome = .ok ((StoreCall.add record).answer held) ∧
        Holds ((StoreCall.add record).leaves held) s')
      s (.adding record) := by
  refine .intro (hkeeper.answers hs rfl) ?_ ?_
  · intro reply s' outcome hserved hresume
    obtain ⟨held', hacts, hs'⟩ := hkeeper.acts hs rfl hserved
    cases hacts with
    | stored response =>
        rw [resume, Progress.finished.injEq] at hresume
        exact ⟨hresume.symm, hs'⟩
    | present hrefused =>
        rw [resume_adding_refused hrefused] at hresume
        contradiction
  · intro reply s' next hserved hresume
    obtain ⟨held', hacts, hs'⟩ := hkeeper.acts hs rfl hserved
    cases hacts with
    | stored response => contradiction
    | present hrefused =>
        rw [resume_adding_refused hrefused, Progress.waiting.injEq] at hresume
        subst next
        exact hkeeper.ends_reading hs'

theorem Keeper.ends_removing {id : String}
    (hkeeper : Keeper service group Holds) (hs : Holds held s) :
    Ends service
      (fun outcome s' => outcome = .ok .removed ∧
        Holds ((StoreCall.remove group id).leaves held) s')
      s (.removing group id) := by
  have hresume : ∀ reply s', service s (.deleteItem group id) reply s' →
      ((removing group id).resume reply).2 = .finished (.ok .removed) ∧
        Holds ((StoreCall.remove group id).leaves held) s' := by
    intro reply s' hserved
    obtain ⟨held', hacts, hs'⟩ := hkeeper.acts hs rfl hserved
    cases hacts with
    | @deleted _ r response =>
        have hleft :
            (StoreCall.remove group r.callId).leaves (some r) = none := by
          simp [StoreCall.leaves, Option.filter]
        rw [hleft]
        exact ⟨rfl, hs'⟩
    | gone hgone hrefused =>
        rw [resume_removing_refused hrefused,
          StoreCall.leaves_remove_of_gone hgone]
        exact ⟨rfl, hs'⟩
  exact ends_of_finished (hkeeper.answers hs rfl) hresume

/-- An operation on a group ends as it is meant to. -/
theorem Keeper.ends (hkeeper : Keeper service group Holds)
    (hcall : call.group? = some group) (hs : Holds held s) :
    Ends service
      (fun outcome s' =>
        outcome = .ok (call.answer held) ∧ Holds (call.leaves held) s')
      s call.begin := by
  rcases StoreCall.of_group? hcall with rfl | ⟨record, rfl, rfl⟩ | ⟨id, rfl⟩
  · exact hkeeper.ends_reading hs
  · exact hkeeper.ends_adding hs
  · exact hkeeper.ends_removing hs

end Pending

end CallRegistry
