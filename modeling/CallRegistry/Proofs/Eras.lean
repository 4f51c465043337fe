import CallRegistry.Proofs.Interleaving

/-!
# Eras of a table

A call that is stored for a group stays, field by field, until the item is deleted
in the name of that very call.  A call that was removed is back only if it was put
again after the removal took effect, even where the removal found nothing to
delete.

The service may fail at any request and lose the reply to one that it carried out.
All that is asked of its failures is that none of them claims falsely that a
condition did not hold.
-/

namespace CallRegistry

open TableService

/-- A failure that says nothing of a condition. -/
def Uninformative (failure : CallFailure) : Prop :=
  failure.isConditionFailed = false

/-- The delete step of a removal. -/
def Happening.IsRemoval {Client : Type} (x : Happening Client)
    (group call : String) : Prop :=
  ∃ op reply, x = .served op (.remove group call) (.removing group call) reply

namespace TableService

variable {config : TableConfig} {fails : CallFailure → Prop} {t t' : Table}
  {q : Request} {reply : Reply} {group call : String}

theorem Lossy.carriedOut_or_eq
    (h : Lossy fails config t q reply t') :
    (∃ reply', Reliable config t q reply' t') ∨ t' = t := by
  cases h with
  | answered hreliable => exact Or.inl ⟨_, hreliable⟩
  | lost => exact Or.inr rfl
  | carriedOut _ hreliable => exact Or.inl ⟨_, hreliable⟩

theorem Reliable.keeps {held : CallRecord}
    (h : Reliable config t q reply t')
    (hheld : t group = some held.toItem)
    (hq : q ≠ .deleteItem group held.callId) :
    t' group = some held.toItem := by
  rcases h.changes with
    rfl | ⟨record, -, hfree, rfl⟩ | ⟨other, call, -, rfl, hholds, -, rfl⟩
  · exact hheld
  · have hne : group ≠ record.groupId := by
      rintro rfl
      exact Table.not_free_of_eq_toItem hheld hfree
    simpa [hne] using hheld
  · have hne : group ≠ other := by
      rintro rfl
      rw [Table.holdsCall_iff_of_eq_toItem hheld] at hholds
      exact hq (by rw [hholds])
    simpa [hne] using hheld

theorem Reliable.put_of_holdsCall (h : Reliable config t q reply t')
    (hbefore : ¬ t.HoldsCall group call) (hafter : t'.HoldsCall group call) :
    ∃ record, q = .putItem record ∧ record.groupId.val = group ∧
      record.callId.val = call ∧ t' group = some record.toItem := by
  rcases h.changes with
    rfl | ⟨record, rfl, -, rfl⟩ | ⟨other, -, -, -, -, -, rfl⟩
  · exact absurd hafter hbefore
  · by_cases heq : group = record.groupId
    · subst heq
      have hitem : Function.update t record.groupId (some record.toItem)
          record.groupId = some record.toItem := by simp
      rw [Table.holdsCall_iff_of_eq_toItem hitem] at hafter
      exact ⟨record, rfl, rfl, hafter, hitem⟩
    · rw [Table.holdsCall_update_of_ne heq] at hafter
      exact absurd hafter hbefore
  · by_cases heq : group = other
    · subst heq
      simp [Table.HoldsCall] at hafter
    · rw [Table.holdsCall_update_of_ne heq] at hafter
      exact absurd hafter hbefore

/-- A removal that returns leaves nothing of its call. -/
theorem Lossy.not_holdsCall_of_removed
    (h : Lossy Uninformative config t (.deleteItem group call) reply t')
    (hremoved : ((Pending.removing group call).resume reply).2 =
      .finished (.ok .removed)) :
    ¬ t'.HoldsCall group call := by
  have hfailed : ∀ failure, Uninformative failure →
      ((Pending.removing group call).resume (.error failure)).2 ≠
        .finished (.ok .removed) := by
    intro failure hfailure
    unfold Uninformative at hfailure
    cases failure <;> simp [Pending.resume, hfailure, Pending.fail]
  cases h with
  | answered hreliable =>
      rcases reliable_deleteItem_iff.mp hreliable with
        ⟨-, -, rfl⟩ | ⟨hgone, -, rfl⟩
      · simp [Table.HoldsCall]
      · exact hgone
  | lost hfails => exact absurd hremoved (hfailed _ hfails)
  | carriedOut hfails => exact absurd hremoved (hfailed _ hfails)

end TableService

namespace World

variable {Client : Type} [DecidableEq Client] {config : TableConfig}
  {fails : CallFailure → Prop} {program : Client → List StoreCall}
  {w v : World Client} {x : Happening Client} {more : List (Happening Client)}
  {group call : String}

theorem Step.keeps (hstep : Step (Lossy fails config) program w x v)
    (hw : w.Consistent program) {held : CallRecord}
    (hheld : w.table group = some held.toItem)
    (hx : ¬ x.IsRemoval group held.callId) :
    v.table group = some held.toItem := by
  cases hstep with
  | issue => exact hheld
  | @serve i call pending reply t' hsent hanswers =>
      rcases hanswers.carriedOut_or_eq with ⟨reply', hreliable⟩ | rfl
      · apply hreliable.keeps hheld
        intro hq
        have hreaches := (hw i call pending (by rw [hsent]; rfl)).1
        obtain ⟨rfl, rfl⟩ := hreaches.of_deleteItem hq
        exact hx ⟨_, _, rfl⟩
      · exact hheld
  | resume => exact hheld
  | finish => exact hheld

theorem Run.keeps (hrun : Run (Lossy fails config) program w more v)
    (hw : w.Consistent program) {held : CallRecord}
    (hheld : w.table group = some held.toItem)
    (hmore : ∀ x ∈ more, ¬ x.IsRemoval group held.callId) :
    v.table group = some held.toItem := by
  induction hrun with
  | nil => exact hheld
  | snoc hrun hstep ih =>
      have hbefore := ih fun x hx => hmore x (List.mem_append_left _ hx)
      exact hstep.keeps (hrun.consistent hw) hbefore (hmore _ (by simp))

/-- A step that puts a record of the call, which the group was not in. -/
def Puts (w : World Client) (x : Happening Client) (v : World Client)
    (group call : String) : Prop :=
  ∃ op record reply, x = .served op (.add record) (.adding record) reply ∧
    record.groupId.val = group ∧ record.callId.val = call ∧
    ¬ w.table.HoldsCall group call ∧ v.table group = some record.toItem

/-- Somewhere in a run a record of the call is put. -/
def PutWithin (answers : Table → Request → Reply → Table → Prop)
    (program : Client → List StoreCall) (w : World Client)
    (more : List (Happening Client)) (v : World Client)
    (group call : String) : Prop :=
  ∃ first x last w₁ w₂, more = first ++ x :: last ∧
    Run answers program w first w₁ ∧ Step answers program w₁ x w₂ ∧
    Run answers program w₂ last v ∧ w₁.Puts x w₂ group call

theorem Step.put_of_holdsCall
    (hstep : Step (Lossy fails config) program w x v)
    (hw : w.Consistent program)
    (hbefore : ¬ w.table.HoldsCall group call)
    (hafter : v.table.HoldsCall group call) : w.Puts x v group call := by
  cases hstep with
  | issue => exact absurd hafter hbefore
  | @serve i call' pending reply t' hsent hanswers =>
      rcases hanswers.carriedOut_or_eq with ⟨reply', hreliable⟩ | rfl
      · obtain ⟨record, hq, hgroup, hcall, hitem⟩ :=
          hreliable.put_of_holdsCall hbefore hafter
        have hreaches := (hw i call' pending (by rw [hsent]; rfl)).1
        obtain ⟨rfl, rfl⟩ := hreaches.of_putItem hq
        exact ⟨_, record, reply, rfl, hgroup, hcall, hbefore, hitem⟩
      · exact absurd hafter hbefore
  | resume => exact absurd hafter hbefore
  | finish => exact absurd hafter hbefore

theorem Run.put_of_holdsCall
    (hrun : Run (Lossy fails config) program w more v)
    (hw : w.Consistent program)
    (hbefore : ¬ w.table.HoldsCall group call)
    (hafter : v.table.HoldsCall group call) :
    PutWithin (Lossy fails config) program w more v group call := by
  induction hrun with
  | nil => exact absurd hafter hbefore
  | @snoc u v h x hrun hstep ih =>
      by_cases hholds : u.table.HoldsCall group call
      · obtain ⟨first, y, last, w₁, w₂, rfl, hfirst, hy, hlast, hputs⟩ :=
          ih hholds
        exact ⟨first, y, last ++ [x], w₁, w₂, by simp, hfirst, hy,
          hlast.snoc hstep, hputs⟩
      · have hputs :=
          hstep.put_of_holdsCall (hrun.consistent hw) hholds hafter
        exact ⟨h, x, [], u, v, rfl, hrun, hstep, .nil v, hputs⟩

end World

/-! ## Era safety -/

/-- A put that succeeds stores its record.  A stored record stays until its item is
deleted in the name of its own call.  After the delete step of a removal that
returns, the call it named is back only if it was put since. -/
theorem era_safety {Client : Type} [DecidableEq Client]
    (config : TableConfig) (program : Client → List StoreCall) (t : Table)
    {h : List (Happening Client)} {u : World Client}
    (hrun : World.Run (Lossy Uninformative config) program (World.start t)
      h u) :
    (∀ op record response v,
      World.Step (Lossy Uninformative config) program u
        (.served op (.add record) (.adding record) (.ok response)) v →
      v.table record.groupId = some record.toItem) ∧
    (∀ group (held : CallRecord) more v,
      u.table group = some held.toItem →
      World.Run (Lossy Uninformative config) program u more v →
      (∀ x ∈ more, ¬ x.IsRemoval group held.callId) →
      v.table group = some held.toItem) ∧
    (∀ op group call reply v more w,
      World.Step (Lossy Uninformative config) program u
        (.served op (.remove group call) (.removing group call) reply) v →
      ((Pending.removing group call).resume reply).2 =
        .finished (.ok .removed) →
      World.Run (Lossy Uninformative config) program v more w →
      w.table.HoldsCall group call →
      World.PutWithin (Lossy Uninformative config) program v more w
        group call) := by
  have hconsistent : u.Consistent program :=
    hrun.consistent (World.start_consistent t)
  refine ⟨?_, ?_, ?_⟩
  · intro op record response v hstep
    cases hstep with
    | serve hsent hanswers =>
        cases hanswers with
        | answered hreliable =>
            rcases reliable_putItem_iff.mp hreliable with
              ⟨-, -, rfl⟩ | ⟨-, ⟨rejection, hreply, -⟩, -⟩
            · simp
            · contradiction
  · intro group held more v hheld hmore hkept
    exact hmore.keeps hconsistent hheld hkept
  · intro op group call reply v more w hstep hremoved hmore hholds
    have hgone : ¬ v.table.HoldsCall group call := by
      cases hstep with
      | serve hsent hanswers =>
          exact hanswers.not_holdsCall_of_removed hremoved
    exact hmore.put_of_holdsCall (hstep.consistent hconsistent) hgone hholds

def eraProgram : Fin 2 → List StoreCall
  | 0 => [.add firstCall, .add firstCall]
  | 1 => [.remove "group" "second", .remove "group" "first"]

/-- A removal of another call leaves the record of the group, and a call that was
removed is there again because it was added again. -/
theorem era_of_returning_call :
    ∃ (h stale more : List (Happening (Fin 2))) (u v v' w : World (Fin 2))
      (op : Operation (Fin 2)),
      World.Run (Lossy Uninformative sampleTable) eraProgram
        (World.start fun _ => none) h u ∧
      World.Run (Lossy Uninformative sampleTable) eraProgram u stale v ∧
      (∃ x ∈ stale, x.IsRemoval "group" "second") ∧
      v.table "group" = some firstCall.toItem ∧
      World.Step (Lossy Uninformative sampleTable) eraProgram v
        (.served op (.remove "group" "first") (.removing "group" "first")
          (.ok .null)) v' ∧
      World.PutWithin (Lossy Uninformative sampleTable) eraProgram v' more w
        "group" "first" := by
  have hrun : World.Run (Lossy Uninformative sampleTable) eraProgram
      (World.start fun _ => none) [] _ := .nil _
  have hrun := hrun.snoc (.issue (i := 0) rfl rfl)
  have hrun := hrun.snoc (.serve (i := 0) rfl
    (Lossy.answered (reliable_putItem_iff.mpr
      (.inl ⟨by rfl, ⟨.null, rfl⟩, rfl⟩))))
  have hrun := hrun.snoc (.finish (i := 0) rfl rfl)
  have hstale := hrun.rest.snoc (.issue (i := 1) rfl rfl)
  have hstale := hstale.snoc (.serve (i := 1) rfl
    (Lossy.answered (reliable_deleteItem_iff.mpr
      (.inr ⟨by
        rw [Table.holdsCall_iff_of_eq_toItem (r := firstCall) rfl]
        decide, sampleRefusal_refused, rfl⟩))))
  have hstale := hstale.snoc (.finish (i := 1) rfl rfl)
  have hstale := hstale.snoc (.issue (i := 1) rfl rfl)
  have hremoval := hstale.rest.snoc (.serve (i := 1) rfl
    (Lossy.answered (reliable_deleteItem_iff.mpr
      (.inl ⟨by
        rw [Table.holdsCall_iff_of_eq_toItem (r := firstCall) rfl]
        decide, ⟨.null, rfl⟩, rfl⟩))))
  have hmore := hremoval.rest.snoc (.issue (i := 0) rfl rfl)
  have hmore := hmore.snoc (.serve (i := 0) rfl
    (Lossy.answered (reliable_putItem_iff.mpr
      (.inl ⟨by rfl, ⟨.null, rfl⟩, rfl⟩))))
  have hkept := (era_safety _ _ _ hrun).2.1 "group" firstCall _ _ rfl hstale
    (by
      rintro x hx ⟨op, reply, rfl⟩
      simp [firstCall] at hx)
  have hput := (era_safety _ _ _ (hrun.append hstale)).2.2 _ "group" "first"
    _ _ _ _ hremoval.step rfl hmore
    ((Table.holdsCall_iff_of_eq_toItem (r := firstCall) rfl _).mpr rfl)
  refine ⟨_, _, _, _, _, _, _, _, hrun, hstale,
    ⟨_, ?_, ⟨1, 0⟩, sampleRefusal, rfl⟩, hkept, hremoval.step, hput⟩
  exact List.mem_append_left _ (List.mem_append_left _
    (List.mem_append_right _ (List.mem_singleton_self _)))

end CallRegistry
