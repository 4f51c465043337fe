import CallRegistry.Proofs.Interleaving
import CallRegistry.Proofs.OneGroup

/-!
# Trying again

An attempt fails when a reply is lost, and its caller cannot tell whether the
request was carried out.  The caller tries the same operation again until an
attempt gets through.  Meanwhile others may write to every other group.

Beside the table stands the table that the others alone would have made.  The two
differ by one write of the operation at most, however many attempts have failed:
an attempt finds the record as the first one found it or as the operation would
leave it, and leaves it in one of these two ways.
-/

namespace CallRegistry

open TableService

/-- A table, and beside it what it would be but for the operation. -/
structure Shared where
  table : Table
  others : Table

namespace Shared

/-- Others write to groups other than this one. -/
inductive Moves (group : String) : Shared → Shared → Prop
  | refl (s : Shared) : Moves group s s
  | write {s s' : Shared} {key : String} (hmoves : Moves group s s')
      (hkey : key ≠ group) (item : Option Datum) :
      Moves group s
        ⟨Function.update s'.table key item, Function.update s'.others key item⟩

/-- The table differs from that of the others by this record of the group. -/
def Holds (group : String) (held : Option CallRecord) (s : Shared) : Prop :=
  s.table = Function.update s.others group (held.map CallRecord.toItem)

variable {group : String} {held : Option CallRecord} {s s' : Shared}

theorem Moves.holds (h : Moves group s s') (hs : s.Holds group held) :
    s'.Holds group held := by
  induction h with
  | refl => exact hs
  | write _ hkey item ih =>
      unfold Holds at ih ⊢
      rw [ih, Function.update_comm hkey]

theorem Moves.others_group (h : Moves group s s') :
    s'.others group = s.others group := by
  induction h with
  | refl => rfl
  | write _ hkey item ih => exact (Function.update_of_ne hkey.symm ..).trans ih

end Shared

namespace TableService

/-- A service that others use too, though not for this group. -/
def Beside (group : String) (answers : Table → Request → Reply → Table → Prop)
    (s : Shared) (q : Request) (reply : Reply) (s' : Shared) : Prop :=
  ∃ s₁ t, s.Moves group s₁ ∧ answers s₁.table q reply t ∧
    Shared.Moves group ⟨t, s₁.others⟩ s'

theorem Lossy.acts {config : TableConfig} {fails : CallFailure → Prop}
    {t t' : Table} {q : Request} {group : String} {held : Option CallRecord}
    {reply : Reply} (hq : q.group? = some group)
    (h : Lossy fails config
      (Function.update t group (held.map CallRecord.toItem)) q reply t') :
    ∃ held', (held' = held ∨ ∃ reply', q.Acts held reply' held') ∧
      t' = Function.update t group (held'.map CallRecord.toItem) := by
  have hkeeper := Pending.reliable_keeper config t group
  cases h with
  | answered hreliable =>
      obtain ⟨held', hacts, ht'⟩ := hkeeper.acts rfl hq hreliable
      exact ⟨held', Or.inr ⟨_, hacts⟩, ht'⟩
  | lost => exact ⟨held, Or.inl rfl, rfl⟩
  | carriedOut _ hreliable =>
      obtain ⟨held', hacts, ht'⟩ := hkeeper.acts rfl hq hreliable
      exact ⟨held', Or.inr ⟨_, hacts⟩, ht'⟩

end TableService

namespace StoreCall

/-- The write of an operation, where its condition holds. -/
def Writes (t : Table) : StoreCall → Table → Prop
  | .add record, t' => t.Free record.groupId ∧
      t' = Function.update t record.groupId (some record.toItem)
  | .remove group call, t' => t.HoldsCall group call ∧
      t' = Function.update t group none
  | .get _, _ | .inRegion _, _ => False

theorem Reaches.group? {call : StoreCall} {pending : Pending} {group : String}
    (hreaches : call.Reaches pending) (hcall : call.group? = some group) :
    pending.request.group? = some group := by
  cases hreaches <;> exact hcall

/-- A request of an operation leaves the record alone or does to it what the
operation does. -/
theorem Reaches.acts {call : StoreCall} {pending : Pending} {reply : Reply}
    {held held' : Option CallRecord} (hreaches : call.Reaches pending)
    (hacts : pending.request.Acts held reply held') :
    held' = held ∨ held' = call.leaves held := by
  cases hreaches with
  | read | readBack =>
      cases hacts
      exact Or.inl rfl
  | put record =>
      cases hacts with
      | stored => exact Or.inr rfl
      | present => exact Or.inl rfl
  | delete group call =>
      cases hacts with
      | deleted => simp [leaves, Option.filter]
      | gone => exact Or.inl rfl
  | scan => cases hacts

end StoreCall

namespace Pending

/-- One way in which a service carries an operation out. -/
inductive Carried {σ : Type} (service : σ → Request → Reply → σ → Prop) :
    σ → Pending → StoreOutcome → σ → Prop
  | finish {s s' : σ} {pending : Pending} {reply : Reply}
      {outcome : StoreOutcome} (hserved : service s pending.request reply s')
      (hresume : (pending.resume reply).2 = .finished outcome) :
      Carried service s pending outcome s'
  | goOn {s s₁ s' : σ} {pending next : Pending} {reply : Reply}
      {outcome : StoreOutcome} (hserved : service s pending.request reply s₁)
      (hresume : (pending.resume reply).2 = .waiting next)
      (hrest : Carried service s₁ next outcome s') :
      Carried service s pending outcome s'

end Pending

/-- Attempts at an operation, all of which failed. -/
inductive Attempts {σ : Type} (service : σ → Request → Reply → σ → Prop)
    (call : StoreCall) : σ → σ → Prop
  | none (s : σ) : Attempts service call s s
  | fail {s s₁ s' : σ} {failure : StoreFailure}
      (hattempts : Attempts service call s s₁)
      (hfailed : Pending.Carried service s₁ call.begin (.error failure) s') :
      Attempts service call s s'

namespace Shared

variable {config : TableConfig} {fails : CallFailure → Prop}
  {call : StoreCall} {group : String} {held : Option CallRecord}
  {s s' : Shared}

/-- The record of the group is as it was or as the operation leaves it. -/
def Settles (call : StoreCall) (group : String) (held : Option CallRecord)
    (s : Shared) : Prop :=
  s.others group = held.map CallRecord.toItem ∧
    ∃ x, (x = held ∨ x = call.leaves held) ∧ s.Holds group x

theorem settles_of_eq {t : Table}
    (hheld : t group = held.map CallRecord.toItem) :
    Settles call group held ⟨t, t⟩ := by
  refine ⟨hheld, held, Or.inl rfl, ?_⟩
  rw [Holds, ← hheld, Function.update_eq_self]

theorem Settles.moves (hs : s.Settles call group held)
    (hmoves : Moves group s s') : s'.Settles call group held := by
  obtain ⟨hheld, x, hx, hholds⟩ := hs
  exact ⟨hmoves.others_group.trans hheld, x, hx, hmoves.holds hholds⟩

/-- One request. -/
theorem Settles.serve {pending : Pending} {reply : Reply}
    (hs : s.Settles call group held) (hreaches : call.Reaches pending)
    (hcall : call.group? = some group)
    (hserved : Beside group (Lossy fails config) s pending.request reply s') :
    s'.Settles call group held := by
  obtain ⟨s₁, t, hbefore, hanswer, hafter⟩ := hserved
  obtain ⟨hheld, x, hx, hholds⟩ := hs.moves hbefore
  rw [hholds] at hanswer
  obtain ⟨x', hacts, rfl⟩ := hanswer.acts (hreaches.group? hcall)
  have hx' : x' = x ∨ x' = call.leaves x := by
    rcases hacts with rfl | ⟨reply', hacts⟩
    · exact Or.inl rfl
    · exact hreaches.acts hacts
  have hnext : x' = held ∨ x' = call.leaves held := by
    rcases hx with rfl | rfl
    · exact hx'
    · rw [StoreCall.leaves_leaves, or_self] at hx'
      exact Or.inr hx'
  have hserved : Settles call group held
      ⟨Function.update s₁.others group (x'.map CallRecord.toItem), s₁.others⟩ :=
    ⟨hheld, x', hnext, rfl⟩
  exact hserved.moves hafter

theorem Settles.carried {pending : Pending} {outcome : StoreOutcome}
    (hs : s.Settles call group held) (hreaches : call.Reaches pending)
    (hcall : call.group? = some group)
    (hcarried : Pending.Carried (Beside group (Lossy fails config)) s pending
      outcome s') :
    s'.Settles call group held := by
  induction hcarried with
  | finish hserved => exact hs.serve hreaches hcall hserved
  | goOn hserved hresume _ ih =>
      exact ih (hs.serve hreaches hcall hserved) (hreaches.resume hresume)

theorem Settles.attempts (hs : s.Settles call group held)
    (hcall : call.group? = some group)
    (hattempts : Attempts (Beside group (Lossy fails config)) call s s') :
    s'.Settles call group held := by
  induction hattempts with
  | none => exact hs
  | fail _ hfailed ih => exact ih.carried call.reaches_begin hcall hfailed

/-- All that the operation has done is its own write. -/
theorem Settles.writes (hs : s.Settles call group held)
    (hcall : call.group? = some group) :
    s.table = s.others ∨ call.Writes s.others s.table := by
  obtain ⟨hheld, x, hx, hholds⟩ := hs
  have hsame : x = held → s.table = s.others := by
    rintro rfl
    rw [hholds, ← hheld, Function.update_eq_self]
  rcases hx with rfl | rfl
  · exact Or.inl (hsame rfl)
  · rcases StoreCall.of_group? hcall with rfl | ⟨record, rfl, rfl⟩ | ⟨id, rfl⟩
    · exact Or.inl (hsame rfl)
    · cases held with
      | none => exact Or.inr ⟨(Table.free_iff_of_eq_map hheld).mpr rfl, hholds⟩
      | some r => exact Or.inl (hsame rfl)
    · by_cases hlive : ∃ r, held = some r ∧ r.callId.val = id
      · right
        refine ⟨(Table.holdsCall_iff_of_eq_map hheld id).mpr hlive, ?_⟩
        obtain ⟨r, rfl, rfl⟩ := hlive
        simpa [Holds, StoreCall.leaves, Option.filter] using hholds
      · left
        apply hsame
        apply StoreCall.leaves_remove_of_gone
        intro r hr hid
        exact hlive ⟨r, hr, hid⟩

/-- While others write elsewhere a request acts on the record of its group. -/
theorem beside_keeper (config : TableConfig) (group : String)
    (item : Option Datum) :
    Pending.Keeper (Beside group (Reliable config)) group fun held s =>
      s.others group = item ∧ s.Holds group held where
  answers := by
    rintro held s q ⟨-, hs⟩ hq
    obtain ⟨reply, t, hreliable⟩ :=
      (Pending.reliable_keeper config s.others group).answers hs hq
    exact ⟨reply, ⟨t, s.others⟩, s, t, .refl s, hreliable, .refl _⟩
  acts := by
    rintro held s q reply s' ⟨hitem, hs⟩ hq
      ⟨s₁, t, hbefore, hreliable, hafter⟩
    obtain ⟨held', hacts, ht⟩ :=
      (Pending.reliable_keeper config s₁.others group).acts
        (hbefore.holds hs) hq hreliable
    refine ⟨held', hacts, ?_, hafter.holds ht⟩
    rw [hafter.others_group, hbefore.others_group, hitem]

end Shared

/-! ## Harmless retries -/

/-- Attempts at an operation have failed, and now one gets through: however it is
answered, an operation that never failed would have ended in the same way on the
table of the others, and left the same table.  A failed attempt does nothing but
the operation's own write, and that only where its condition holds. -/
theorem retries_harmless (config : TableConfig) {fails : CallFailure → Prop}
    {call : StoreCall} {group : String} (hcall : call.group? = some group)
    {t : Table} {held : Option CallRecord}
    (hheld : t group = held.map CallRecord.toItem) {s : Shared}
    (hattempts : Attempts (Beside group (Lossy fails config)) call ⟨t, t⟩ s) :
    Pending.Ends (Beside group (Reliable config))
      (fun outcome s' =>
        Pending.Ends (Reliable config)
          (fun outcome' t' => outcome' = outcome ∧ t' = s'.table)
          s'.others call.begin)
      s call.begin ∧
    ∀ failure s',
      Pending.Carried (Beside group (Lossy fails config)) ⟨s.table, s.table⟩
        call.begin (.error failure) s' →
      s'.table = s'.others ∨ call.Writes s'.others s'.table := by
  have hsettles := (Shared.settles_of_eq hheld).attempts hcall hattempts
  obtain ⟨hothers, x, hx, hholds⟩ := hsettles
  constructor
  · have hanswer : call.answer x = call.answer held := by
      rcases hx with rfl | rfl
      · rfl
      · exact call.answer_leaves held
    have hleaves : call.leaves x = call.leaves held := by
      rcases hx with rfl | rfl
      · rfl
      · exact call.leaves_leaves held
    have hlast :=
      (Shared.beside_keeper config group _).ends hcall ⟨hothers, hholds⟩
    refine hlast.mono ?_
    rintro outcome s' ⟨rfl, hothers', hholds'⟩
    rw [hanswer]
    rw [hleaves] at hholds'
    have hself : s'.others = Function.update s'.others group
        (held.map CallRecord.toItem) := by
      rw [← hothers', Function.update_eq_self]
    have hfaultless :=
      (Pending.reliable_keeper config s'.others group).ends hcall hself
    refine hfaultless.mono ?_
    rintro outcome' t' ⟨rfl, rfl⟩
    exact ⟨rfl, hholds'.symm⟩
  · intro failure s' hfailed
    have hitem : s.table group = x.map CallRecord.toItem := by
      rw [hholds, Function.update_self]
    have hsettles' := (Shared.settles_of_eq hitem).carried call.reaches_begin
      hcall hfailed
    exact hsettles'.writes hcall

def lostReply : CallFailure :=
  .client (.readTimeout "calls")

/-- The first put takes effect and its reply is lost.  The second is refused, and
then the read is lost.  Meanwhile another group gets a record. -/
theorem retries_of_lost_addition :
    ∃ s : Shared,
      Attempts (Beside "group" (Lossy (· = lostReply) sampleTable))
        (.add firstCall) ⟨fun _ => none, fun _ => none⟩ s ∧
      s.others "group" = none ∧ s.table "group" = some firstCall.toItem ∧
      s.others "other" = some secondCall.toItem ∧
      Pending.Ends (Beside "group" (Reliable sampleTable))
        (fun outcome s' =>
          Pending.Ends (Reliable sampleTable)
            (fun outcome' t' => outcome' = outcome ∧ t' = s'.table)
            s'.others (.adding firstCall))
        s (.adding firstCall) := by
  have hstored : Reliable sampleTable (fun _ => none) (.putItem firstCall)
      (.ok .null)
      (Function.update (fun _ => none) "group" (some firstCall.toItem)) := by
    refine reliable_putItem_iff.mpr (.inl ⟨?_, ⟨.null, rfl⟩, rfl⟩)
    rfl
  have hput : Lossy (· = lostReply) sampleTable (fun _ => none)
      (.putItem firstCall) (.error lostReply) _ :=
    .carriedOut (by rfl) hstored
  have hrefused : Lossy (· = lostReply) sampleTable
      (Function.update (fun _ => none) "group" (some firstCall.toItem))
      (.putItem firstCall) sampleRefusal
      (Function.update (fun _ => none) "group" (some firstCall.toItem)) :=
    .answered (reliable_putItem_iff.mpr
      (.inr ⟨Table.not_free_of_eq_toItem (r := firstCall) rfl,
        sampleRefusal_refused, rfl⟩))
  have hread : ∀ t : Table, Lossy (· = lostReply) sampleTable t
      (.getItem "group") (.error lostReply) t :=
    fun _ => .lost (by rfl)
  have hother : "other" ≠ "group" := by decide
  have hstart : Attempts
      (Beside "group" (Lossy (· = lostReply) sampleTable)) (.add firstCall)
      ⟨fun _ => none, fun _ => none⟩ _ := .none _
  have hfirst := hstart.fail
    (.finish ⟨_, _, .refl _, hput, .refl _⟩ rfl)
  have hsecond := hfirst.fail
    (.goOn ⟨_, _, .refl _, hrefused,
        .write (.refl _) hother (some secondCall.toItem)⟩ rfl
      (.finish ⟨_, _, .refl _, hread _, .refl _⟩ rfl))
  have hheld : (fun _ => none : Table) "group" =
      (none : Option CallRecord).map CallRecord.toItem := rfl
  exact ⟨_, hsecond, rfl, rfl, rfl,
    (retries_harmless sampleTable rfl hheld hsecond).1⟩

end CallRegistry
