import CallRegistry.Proofs.Interleaving
import CallRegistry.Proofs.OneGroup

/-!
# Operations on a table act at one instant

Clients look up, add and remove calls on one shared table, and their requests are
served in any order.  Each operation takes effect when the last of its requests is
served: an addition whose put succeeds at the put, one that has lost the race at
the read that follows, and any other operation at its only request.  Carried out
in the order of these instants on a registry, the operations give the same answers
and leave the same records.

An addition gives no record only if a removal that took effect between its put and
its read took away what it lost to.  As long as nobody removes the record that an
operation was given, all later ones for the group are given that record.
-/

namespace CallRegistry

open TableService

variable {Client : Type}

/-- An operation at the instant at which it takes effect. -/
structure Point (Client : Type) where
  instant : Nat
  operation : Operation Client
  call : StoreCall
  answer : StoreAnswer

/-- The answer with which an operation ends. -/
def Progress.answer? : Progress → Option StoreAnswer
  | .finished (.ok answer) => some answer
  | _ => none

/-- What takes effect at an instant, if this is what happens then. -/
def Happening.point? (x : Happening Client) (instant : Nat) :
    Option (Point Client) :=
  match x with
  | .served operation call pending reply =>
    (pending.resume reply).2.answer?.map fun answer =>
      { instant, operation, call, answer }
  | _ => none

/-- What takes effect in the course of a run, in order. -/
def points (h : List (Happening Client)) : List (Point Client) :=
  h.zipIdx.filterMap fun x => x.1.point? x.2

theorem Progress.answer?_eq_some_iff {progress : Progress}
    {answer : StoreAnswer} :
    progress.answer? = some answer ↔ progress = .finished (.ok answer) := by
  rcases progress with next | (failure | answer') <;> simp [answer?]

theorem Happening.point?_eq_some_iff {x : Happening Client} {instant : Nat}
    {p : Point Client} :
    x.point? instant = some p ↔
      p.instant = instant ∧ ∃ pending reply,
        x = .served p.operation p.call pending reply ∧
        (pending.resume reply).2 = .finished (.ok p.answer) := by
  obtain ⟨instant', op', call', answer'⟩ := p
  cases x with
  | served op call pending reply =>
      simp [point?, Progress.answer?_eq_some_iff]
      grind
  | issued => simp [point?]
  | resumed => simp [point?]
  | ended => simp [point?]

theorem mem_points_iff {h : List (Happening Client)} {p : Point Client} :
    p ∈ points h ↔ ∃ pending reply,
      h[p.instant]? = some (.served p.operation p.call pending reply) ∧
      (pending.resume reply).2 = .finished (.ok p.answer) := by
  simp only [points, List.mem_filterMap, Prod.exists,
    List.mem_zipIdx_iff_getElem?, Happening.point?_eq_some_iff]
  constructor
  · rintro ⟨x, i, hx, rfl, pending, reply, rfl, hfinished⟩
    exact ⟨pending, reply, hx, hfinished⟩
  · rintro ⟨pending, reply, hx, hfinished⟩
    exact ⟨_, _, hx, rfl, pending, reply, rfl, hfinished⟩

theorem points_append (h : List (Happening Client)) (x : Happening Client) :
    points (h ++ [x]) = points h ++ (x.point? h.length).toList := by
  cases hpoint : x.point? h.length <;>
    simp [points, List.zipIdx_append, List.filterMap_append, hpoint]

theorem points_increasing (h : List (Happening Client)) :
    (points h).Pairwise fun p q => p.instant < q.instant := by
  induction h using List.reverseRecOn with
  | nil => simp [points]
  | append_singleton h x ih =>
      rw [points_append, List.pairwise_append]
      refine ⟨ih, ?_, ?_⟩
      · cases x.point? h.length <;> simp
      · intro p hp q hq
        obtain ⟨pending, reply, hget, -⟩ := mem_points_iff.mp hp
        have hlast : q.instant = h.length :=
          (Happening.point?_eq_some_iff.mp (by simpa using hq)).1
        have hlt := (List.getElem?_eq_some_iff.mp hget).1
        omega

/-! ## A request that is served -/

/-- On a written table a request either ends its operation, which then acts on
the registry, or is a put that has lost the race. -/
theorem StoreCall.Reaches.serve {config : TableConfig} {reg : Registry}
    {call : StoreCall} {pending : Pending} {reply : Reply} {t' : Table}
    (hreaches : call.Reaches pending)
    (hregion : ∀ region, call ≠ .inRegion region)
    (h : Reliable config reg.table pending.request reply t') :
    (∃ answer reg', (pending.resume reply).2 = .finished (.ok answer) ∧
      t' = reg'.table ∧ reg.Performs call answer reg') ∨
    (∃ record next, pending = .adding record ∧
      reg record.groupId ≠ none ∧ Refused reply ∧
      (pending.resume reply).2 = .waiting next ∧ t' = reg.table) := by
  cases hreaches with
  | read group =>
      left
      obtain ⟨_, hacts, rfl⟩ := (Registry.reliable_iff_acts rfl).mp h
      cases hacts with
      | found hitem =>
          refine ⟨_, reg, by rw [Pending.resume_reading_found hitem], ?_,
            .get group⟩
          rw [Function.update_eq_self]
  | put record =>
      obtain ⟨_, hacts, rfl⟩ := (Registry.reliable_iff_acts rfl).mp h
      generalize hheld : reg record.groupId = held at hacts
      cases hacts with
      | stored response =>
          left
          exact ⟨_, _, rfl, rfl, .addFree hheld⟩
      | present hrefused =>
          right
          refine ⟨record, _, rfl, by simp [hheld], hrefused,
            by rw [Pending.resume_adding_refused hrefused], ?_⟩
          rw [← hheld, Function.update_eq_self]
  | readBack record =>
      left
      obtain ⟨_, hacts, rfl⟩ := (Registry.reliable_iff_acts rfl).mp h
      cases hacts with
      | found hitem =>
          refine ⟨_, reg, by rw [Pending.resume_reading_found hitem], ?_, ?_⟩
          · rw [Function.update_eq_self]
          · cases hheld : reg record.groupId with
            | none => exact .addLate hheld
            | some held => exact .addHeld hheld
  | delete group call =>
      left
      obtain ⟨_, hacts, rfl⟩ := (Registry.reliable_iff_acts rfl).mp h
      generalize hheld : reg group = held at hacts
      cases hacts with
      | deleted response => exact ⟨_, _, rfl, rfl, .removeLive hheld⟩
      | gone hgone hrefused =>
          refine ⟨_, reg, by rw [Pending.resume_removing_refused hrefused], ?_,
            .removeGone ?_⟩
          · rw [← hheld, Function.update_eq_self]
          · rwa [hheld]
  | scan region => exact absurd rfl (hregion region)

/-- A free group was held before only if its item has just been deleted. -/
theorem deleted_of_free {config : TableConfig} {t t' : Table} {q : Request}
    {reply : Reply} {group : String} (h : Reliable config t q reply t')
    (hheld : ¬ t.Free group) (hfree : t'.Free group) :
    ∃ call response, q = .deleteItem group call ∧ reply = .ok response := by
  rcases h.changes with
    rfl | ⟨record, -, -, rfl⟩ | ⟨other, call, response, rfl, -, rfl, rfl⟩
  · exact absurd hfree hheld
  · by_cases heq : group = record.groupId
    · subst heq
      simp [Table.Free] at hfree
    · rw [Table.free_update_of_ne heq] at hfree
      exact absurd hfree hheld
  · by_cases heq : group = other
    · subst heq
      exact ⟨call, response, rfl, rfl⟩
    · rw [Table.free_update_of_ne heq] at hfree
      exact absurd hfree hheld

/-! ## Lost races -/

/-- At this instant an addition finds its group taken. -/
def LosesAt (h : List (Happening Client)) (instant : Nat)
    (op : Operation Client) (record : CallRecord) : Prop :=
  ∃ reply, Refused reply ∧
    h[instant]? = some (.served op (.add record) (.adding record) reply)

/-- At this instant a removal takes away the record of a group. -/
def DeletesAt (h : List (Happening Client)) (instant : Nat)
    (group : String) : Prop :=
  ∃ op call response, h[instant]? =
    some (.served op (.remove group call) (.removing group call)
      (.ok response))

/-- An addition has lost the race for its group.  If the group is free again, its
record has been taken away since. -/
def LostRace (h : List (Happening Client)) (t : Table)
    (op : Operation Client) (record : CallRecord) : Prop :=
  ∃ lost, LosesAt h lost op record ∧
    (t.Free record.groupId →
      ∃ gone, lost < gone ∧ DeletesAt h gone record.groupId)

theorem getElem?_append_of_eq_some {h more : List (Happening Client)}
    {instant : Nat} {x : Happening Client} (hget : h[instant]? = some x) :
    (h ++ more)[instant]? = some x := by
  have hlt := (List.getElem?_eq_some_iff.mp hget).1
  rw [List.getElem?_append_left hlt]
  exact hget

theorem LosesAt.append {h : List (Happening Client)} {instant : Nat}
    {op : Operation Client} {record : CallRecord}
    (hloses : LosesAt h instant op record) (more : List (Happening Client)) :
    LosesAt (h ++ more) instant op record := by
  obtain ⟨reply, hrefused, hget⟩ := hloses
  exact ⟨reply, hrefused, getElem?_append_of_eq_some hget⟩

theorem DeletesAt.append {h : List (Happening Client)} {instant : Nat}
    {group : String} (hdeletes : DeletesAt h instant group)
    (more : List (Happening Client)) :
    DeletesAt (h ++ more) instant group := by
  obtain ⟨op, call, response, hget⟩ := hdeletes
  exact ⟨op, call, response, getElem?_append_of_eq_some hget⟩

theorem LostRace.append {h : List (Happening Client)} {t t' : Table}
    {op : Operation Client} {record : CallRecord}
    (hlost : LostRace h t op record) (more : List (Happening Client))
    (hfree : t'.Free record.groupId → t.Free record.groupId) :
    LostRace (h ++ more) t' op record := by
  obtain ⟨lost, hloses, hgone⟩ := hlost
  refine ⟨lost, hloses.append more, ?_⟩
  intro hfree'
  obtain ⟨gone, hlt, hdeletes⟩ := hgone (hfree hfree')
  exact ⟨gone, hlt, hdeletes.append more⟩

namespace World

variable [DecidableEq Client] {config : TableConfig}
  {program : Client → List StoreCall}

/-- A client whose addition has lost the race and has yet to read. -/
def HasLost (w : World Client) (i : Client) (record : CallRecord) : Prop :=
  w.stage i = .sent (.add record) (.reading record.groupId) ∨
  ∃ reply, Refused reply ∧
    w.stage i = .replied (.add record) (.adding record) reply

theorem Step.lostRace {w v : World Client} {x : Happening Client}
    {h : List (Happening Client)}
    (hstep : Step (Reliable config) program w x v)
    (hw : w.Consistent program)
    (hlost : ∀ i record, w.HasLost i record →
      LostRace h w.table (w.current i) record)
    (j : Client) (record : CallRecord) (hj : v.HasLost j record) :
    LostRace (h ++ [x]) v.table (v.current j) record := by
  cases hstep with
  | @issue i call hidle hcall =>
      by_cases heq : j = i
      · subst j
        cases call <;> simp [HasLost, place, StoreCall.begin] at hj
      · have hold : w.HasLost j record := by
          simpa [HasLost, place, heq] using hj
        exact (hlost j record hold).append _ id
  | @serve i call pending reply t' hsent hanswers =>
      by_cases heq : j = i
      · subst j
        simp [HasLost, place] at hj
        obtain ⟨hrefused, rfl, rfl⟩ := hj
        refine ⟨h.length, ⟨reply, hrefused, by simp; rfl⟩, ?_⟩
        intro hfree
        rcases reliable_putItem_iff.mp hanswers with
          ⟨-, ⟨response, rfl⟩, -⟩ | ⟨hheld, -, rfl⟩
        · obtain ⟨rejection, hreply, -⟩ := hrefused
          contradiction
        · exact absurd hfree hheld
      · have hold : w.HasLost j record := by
          simpa [HasLost, place, heq] using hj
        by_cases hfree : w.table.Free record.groupId
        · exact (hlost j record hold).append _ fun _ => hfree
        · obtain ⟨lost, hloses, -⟩ := hlost j record hold
          refine ⟨lost, hloses.append _, ?_⟩
          intro hfree'
          obtain ⟨c, response, hq, rfl⟩ :=
            deleted_of_free hanswers hfree hfree'
          obtain ⟨hreaches, -⟩ :=
            hw i call pending (by rw [hsent]; rfl)
          obtain ⟨rfl, rfl⟩ := hreaches.of_deleteItem hq
          have hlt : lost < h.length := by
            obtain ⟨_, -, hget⟩ := hloses
            exact (List.getElem?_eq_some_iff.mp hget).1
          exact ⟨h.length, hlt, w.current i, c, response, by simp⟩
  | @resume i call pending next reply events hreplied hresume =>
      by_cases heq : j = i
      · subst j
        simp [HasLost, place] at hj
        obtain ⟨rfl, rfl⟩ := hj
        obtain ⟨hreaches, -⟩ := hw i _ pending (by rw [hreplied]; rfl)
        rcases Pending.resume_waiting (by rw [hresume]) with
          ⟨record', rfl, hrefused, -⟩ | ⟨_, _, _, _, _, -, hnext⟩
        · cases hreaches with
          | put =>
              exact (hlost i record (.inr ⟨reply, hrefused, hreplied⟩)).append
                _ id
        · contradiction
      · have hold : w.HasLost j record := by
          simpa [HasLost, place, heq] using hj
        exact (hlost j record hold).append _ id
  | @finish i call pending reply events outcome hreplied hresume =>
      by_cases heq : j = i
      · subst j
        simp [HasLost, place] at hj
      · have hold : w.HasLost j record := by
          simpa [HasLost, place, heq] using hj
        have hlostRace := (hlost j record hold).append
          [.ended (w.current i) outcome events] id
        simpa [current, place, heq] using hlostRace

end World

/-! ## The ledger of a run -/

/-- An addition lost the race for its group, and a removal took away what it had
lost to before it took effect. -/
def Overtaken (h : List (Happening Client)) (p : Point Client)
    (record : CallRecord) : Prop :=
  ∃ lost gone, lost < gone ∧ gone < p.instant ∧
    LosesAt h lost p.operation record ∧ DeletesAt h gone record.groupId

theorem Overtaken.append {h : List (Happening Client)} {p : Point Client}
    {record : CallRecord} (hovertaken : Overtaken h p record)
    (more : List (Happening Client)) :
    Overtaken (h ++ more) p record := by
  obtain ⟨lost, gone, hlt, hlt', hloses, hdeletes⟩ := hovertaken
  exact ⟨lost, gone, hlt, hlt', hloses.append more, hdeletes.append more⟩

/-- What a run has brought about so far, against the registry it began with. -/
structure Ledger [DecidableEq Client] (program : Client → List StoreCall)
    (before : Registry) (h : List (Happening Client)) (w : World Client) :
    Prop where
  consistent : w.Consistent program
  lost : ∀ i record, w.HasLost i record →
    LostRace h w.table (w.current i) record
  replays : ∃ reg : Registry,
    before.Replays ((points h).map fun p => (p.call, p.answer)) reg ∧
      w.table = reg.table
  asked : ∀ p ∈ points h,
    (program p.operation.client)[p.operation.index]? = some p.call
  decided : ∀ p ∈ points h, w.Decided p.operation (.ok p.answer)
  once : ((points h).map (·.operation)).Nodup
  succeeds : ∀ op outcome, w.Decided op outcome →
    ∃ p ∈ points h, p.operation = op ∧ outcome = .ok p.answer
  late : ∀ p ∈ points h, ∀ record, p.call = .add record →
    p.answer = .record none → Overtaken h p record

namespace Ledger

variable [DecidableEq Client] {config : TableConfig}
  {program : Client → List StoreCall} {before : Registry}
  {h : List (Happening Client)} {w v : World Client} {x : Happening Client}

theorem start (program : Client → List StoreCall) (before : Registry) :
    Ledger program before ([] : List (Happening Client))
      (World.start before.table) where
  consistent := World.start_consistent _
  lost := by simp [World.HasLost, World.start]
  replays := ⟨before, by simpa [points] using .nil before, rfl⟩
  asked := by simp [points]
  decided := by simp [points]
  once := by simp [points]
  succeeds := by simp [World.Decided, World.start]
  late := by simp [points]

/-- A step at which nothing takes effect. -/
theorem afterQuiet (hledger : Ledger program before h w)
    (hstep : World.Step (Reliable config) program w x v)
    (hquiet : ∀ op outcome, ¬ x.Decides op outcome)
    (htable : v.table = w.table) :
    Ledger program before (h ++ [x]) v := by
  have hpoints : points (h ++ [x]) = points h := by
    cases hpoint : x.point? h.length with
    | none => rw [points_append, hpoint]; simp
    | some p =>
        obtain ⟨-, pending, reply, rfl, hfinished⟩ :=
          Happening.point?_eq_some_iff.mp hpoint
        exact absurd ⟨_, _, _, rfl, hfinished⟩ (hquiet p.operation _)
  have hdecided : ∀ op outcome,
      v.Decided op outcome ↔ w.Decided op outcome := by
    intro op outcome
    rw [hstep.decided_iff]
    simp [hquiet op outcome]
  refine {
    consistent := hstep.consistent hledger.consistent
    lost := hstep.lostRace hledger.consistent hledger.lost
    replays := ?_, asked := ?_, decided := ?_, once := ?_
    succeeds := ?_, late := ?_ }
  · rw [hpoints, htable]
    exact hledger.replays
  · rw [hpoints]
    exact hledger.asked
  · rw [hpoints]
    intro p hp
    exact (hdecided _ _).mpr (hledger.decided p hp)
  · rw [hpoints]
    exact hledger.once
  · rw [hpoints]
    intro op outcome hop
    exact hledger.succeeds op outcome ((hdecided _ _).mp hop)
  · rw [hpoints]
    intro p hp record hcall hanswer
    exact Overtaken.append (hledger.late p hp record hcall hanswer) _

theorem late_of_serve {i : Client} {record : CallRecord} {pending : Pending}
    {reply : Reply} {t' : Table}
    (hledger : Ledger program before h w)
    (hsent : w.stage i = .sent (.add record) pending)
    (hanswers : Reliable config w.table pending.request reply t')
    (hnone : (pending.resume reply).2 = .finished (.ok (.record none))) :
    Overtaken h
      ⟨h.length, w.current i, .add record, .record none⟩ record := by
  obtain ⟨hreaches, -⟩ := hledger.consistent i _ pending (by rw [hsent]; rfl)
  obtain ⟨reg, -, htable⟩ := hledger.replays
  rw [htable] at hanswers
  cases hreaches with
  | put =>
      obtain ⟨_, hacts, -⟩ := (Registry.reliable_iff_acts rfl).mp hanswers
      generalize reg record.groupId = held at hacts
      cases hacts with
      | stored response => simp [Pending.resume] at hnone
      | present hrefused =>
          rw [Pending.resume_adding_refused hrefused] at hnone
          contradiction
  | readBack =>
      have hfree : w.table.Free record.groupId := by
        obtain ⟨_, hacts, -⟩ := (Registry.reliable_iff_acts rfl).mp hanswers
        cases hacts with
        | found hitem =>
            rw [Pending.resume_reading_found hitem] at hnone
            rw [htable, Table.free_iff_of_eq_map rfl]
            simpa using hnone
      obtain ⟨lost, hloses, hgone⟩ := hledger.lost i record (.inl hsent)
      obtain ⟨gone, hlt, hdeletes⟩ := hgone hfree
      have hbound : gone < h.length := by
        obtain ⟨_, _, _, hget⟩ := hdeletes
        exact (List.getElem?_eq_some_iff.mp hget).1
      exact ⟨lost, gone, hlt, hbound, hloses, hdeletes⟩

theorem afterServe {i : Client} {call : StoreCall} {pending : Pending}
    {reply : Reply} {t' : Table} (hledger : Ledger program before h w)
    (hsent : w.stage i = .sent call pending)
    (hregion : ∀ region, call ≠ .inRegion region)
    (hanswers : Reliable config w.table pending.request reply t') :
    Ledger program before
      (h ++ [.served (w.current i) call pending reply])
      { w.place i (.replied call pending reply) with table := t' } := by
  have hstep : World.Step (Reliable config) program w
      (.served (w.current i) call pending reply)
      { w.place i (.replied call pending reply) with table := t' } :=
    .serve hsent hanswers
  obtain ⟨reg, hreplays, htable⟩ := hledger.replays
  obtain ⟨hreaches, hcall⟩ :=
    hledger.consistent i call pending (by rw [hsent]; rfl)
  have hserve := hanswers
  rw [htable] at hserve
  rcases hreaches.serve hregion hserve with
    ⟨answer, reg', hfinished, rfl, hperforms⟩ |
      ⟨record, next, rfl, hheld, hrefused, hwaiting, rfl⟩
  · let p : Point Client := ⟨h.length, w.current i, call, answer⟩
    have hpoints :
        points (h ++ [.served (w.current i) call pending reply]) =
          points h ++ [p] := by
      have hpoint :
          (Happening.served (w.current i) call pending reply).point?
            h.length = some p :=
        Happening.point?_eq_some_iff.mpr
          ⟨rfl, pending, reply, rfl, hfinished⟩
      rw [points_append, hpoint]
      rfl
    refine {
      consistent := hstep.consistent hledger.consistent
      lost := hstep.lostRace hledger.consistent hledger.lost
      replays := ?_, asked := ?_, decided := ?_, once := ?_
      succeeds := ?_, late := ?_ }
    · refine ⟨reg', ?_, rfl⟩
      rw [hpoints, List.map_append]
      exact Registry.replays_append_iff.mpr
        ⟨reg, hreplays, .cons hperforms (.nil reg')⟩
    · intro q hq
      rw [hpoints, List.mem_append, List.mem_singleton] at hq
      rcases hq with hq | rfl
      · exact hledger.asked q hq
      · exact hcall
    · intro q hq
      rw [hpoints, List.mem_append, List.mem_singleton] at hq
      rw [hstep.decided_iff]
      rcases hq with hq | rfl
      · exact Or.inl (hledger.decided q hq)
      · exact Or.inr ⟨call, pending, reply, rfl, hfinished⟩
    · rw [hpoints, List.map_append, List.nodup_append]
      refine ⟨hledger.once, by simp, ?_⟩
      rintro op hop _ hlast rfl
      obtain ⟨q, hq, rfl⟩ := List.mem_map.mp hop
      have hqop : q.operation = w.current i := by simpa using hlast
      have hdecided := hledger.decided q hq
      rw [hqop] at hdecided
      exact World.not_decided_of_sent hsent hdecided
    · intro op outcome hop
      rw [hpoints]
      rcases (hstep.decided_iff op outcome).mp hop with hop | hop
      · obtain ⟨q, hq, hqop, houtcome⟩ := hledger.succeeds op outcome hop
        exact ⟨q, List.mem_append_left _ hq, hqop, houtcome⟩
      · obtain ⟨call', pending', reply', heq, hend⟩ := hop
        cases heq
        rw [hfinished, Progress.finished.injEq] at hend
        exact ⟨p, by simp, rfl, hend.symm⟩
    · intro q hq record hadd hnone
      rw [hpoints, List.mem_append, List.mem_singleton] at hq
      rcases hq with hq | rfl
      · exact (hledger.late q hq record hadd hnone).append _
      · obtain rfl : call = .add record := hadd
        obtain rfl : answer = .record none := hnone
        exact (late_of_serve hledger hsent hanswers hfinished).append _
  · apply hledger.afterQuiet hstep
    · rintro op outcome ⟨call', pending', reply', heq, hend⟩
      cases heq
      rw [hwaiting] at hend
      contradiction
    · exact htable.symm

/-- The ledger of a run in which nobody asks for a region. -/
theorem of_run
    (hprogram : ∀ i, ∀ call ∈ program i, ∀ region, call ≠ .inRegion region)
    (hrun : World.Run (Reliable config) program
      (World.start before.table) h w) :
    Ledger program before h w := by
  induction hrun with
  | nil => exact start program before
  | @snoc w v h x hrun hstep ih =>
      have htaken := hstep
      cases hstep with
      | serve hsent hanswers =>
          have hasked := (ih.consistent _ _ _ (by rw [hsent]; rfl)).2
          exact ih.afterServe hsent
            (hprogram _ _ (List.mem_of_getElem? hasked)) hanswers
      | issue hidle hcall =>
          exact ih.afterQuiet htaken (by simp [Happening.Decides]) rfl
      | resume hreplied hresume =>
          exact ih.afterQuiet htaken (by simp [Happening.Decides]) rfl
      | finish hreplied hresume =>
          exact ih.afterQuiet htaken (by simp [Happening.Decides]) rfl

end Ledger

/-! ## Linearizability -/

/-- The operations of a run in the order in which they take effect. -/
structure Linearizes [DecidableEq Client] (program : Client → List StoreCall)
    (before : Registry) (h : List (Happening Client)) (w : World Client)
    (order : List (Point Client)) : Prop where
  increasing : order.Pairwise fun p q => p.instant < q.instant
  /-- An operation takes effect when one of its own requests is served. -/
  own : ∀ p ∈ order, ∃ pending reply,
    h[p.instant]? = some (.served p.operation p.call pending reply)
  asked : ∀ p ∈ order,
    (program p.operation.client)[p.operation.index]? = some p.call
  once : (order.map (·.operation)).Nodup
  /-- Every operation that has ended is there, with the answer that it gave. -/
  answered : ∀ i k, k < (w.results i).length → ∃ p ∈ order,
    p.operation = ⟨i, k⟩ ∧ (w.results i)[k]? = some (.ok p.answer)
  replays : ∃ reg : Registry,
    before.Replays (order.map fun p => (p.call, p.answer)) reg ∧
      w.table = reg.table
  late : ∀ p ∈ order, ∀ record, p.call = .add record →
    p.answer = .record none → Overtaken h p record
  /-- Until it is removed, all are given the record that one was given. -/
  agreed : ∀ p ∈ order, ∀ q ∈ order, p.instant < q.instant →
    ∀ group held, p.call.Seeks group → q.call.Seeks group →
      p.answer = .record (some held) →
      (∀ r ∈ order, p.instant < r.instant → r.instant < q.instant →
        r.call ≠ .remove group held.callId) →
      q.answer = .record (some held)

theorem split_of_instant_lt {order : List (Point Client)} {p q : Point Client}
    (hincreasing : order.Pairwise fun p q => p.instant < q.instant)
    (hp : p ∈ order) (hq : q ∈ order) (hlt : p.instant < q.instant) :
    ∃ first between last, order = first ++ p :: (between ++ q :: last) ∧
      ∀ r ∈ between, p.instant < r.instant ∧ r.instant < q.instant := by
  obtain ⟨first, rest, rfl⟩ := List.append_of_mem hp
  rw [List.pairwise_append, List.pairwise_cons] at hincreasing
  obtain ⟨-, ⟨hrest, hpairs⟩, hfirst⟩ := hincreasing
  have hlater : q ∈ rest := by
    rw [List.mem_append, List.mem_cons] at hq
    rcases hq with hq | rfl | hq
    · have := hfirst q hq p List.mem_cons_self
      omega
    · omega
    · exact hq
  obtain ⟨between, last, rfl⟩ := List.append_of_mem hlater
  rw [List.pairwise_append] at hpairs
  refine ⟨first, between, last, rfl, ?_⟩
  intro r hr
  exact ⟨hrest r (List.mem_append_left _ hr),
    hpairs.2.2 r hr q List.mem_cons_self⟩

theorem Ledger.agreed [DecidableEq Client] {program : Client → List StoreCall}
    {before : Registry} {h : List (Happening Client)} {w : World Client}
    (hledger : Ledger program before h w) {p q : Point Client}
    (hp : p ∈ points h) (hq : q ∈ points h) (hlt : p.instant < q.instant)
    {group : String} {held : CallRecord} (hpseeks : p.call.Seeks group)
    (hqseeks : q.call.Seeks group) (hfound : p.answer = .record (some held))
    (hkept : ∀ r ∈ points h, p.instant < r.instant → r.instant < q.instant →
      r.call ≠ .remove group held.callId) :
    q.answer = .record (some held) := by
  obtain ⟨first, between, last, horder, hbetween⟩ :=
    split_of_instant_lt (points_increasing h) hp hq hlt
  obtain ⟨reg, hreplays, -⟩ := hledger.replays
  rw [horder, List.map_append, List.map_cons, List.map_append, List.map_cons]
    at hreplays
  obtain ⟨reg₁, -, hrest⟩ := Registry.replays_append_iff.mp hreplays
  cases hrest with
  | @cons _ reg₂ _ _ _ _ hpacts hrest =>
      obtain ⟨reg₃, hmiddle, hrest⟩ := Registry.replays_append_iff.mp hrest
      cases hrest with
      | cons hqacts _ =>
          have hheld : reg₂ group = some held :=
            hpacts.held_of_found hpseeks hfound
          have hstill : reg₃ group = some held := by
            apply hmiddle.keeps hheld
            intro act hact
            obtain ⟨r, hr, rfl⟩ := List.mem_map.mp hact
            have hmem : r ∈ points h := by
              rw [horder]
              simp [hr]
            exact hkept r hmem (hbetween r hr).1 (hbetween r hr).2
          exact hqacts.found_of_held hqseeks hstill

/-- Whatever the order in which the requests of any number of clients are served,
each operation on the table takes effect at one of its own requests, as it would
on a registry that all of them share. -/
theorem store_linearizable [DecidableEq Client] (config : TableConfig)
    (program : Client → List StoreCall)
    (hprogram : ∀ i, ∀ call ∈ program i, ∀ region, call ≠ .inRegion region)
    (before : Registry) {h : List (Happening Client)} {w : World Client}
    (hrun : World.Run (Reliable config) program (World.start before.table)
      h w) :
    ∃ order, Linearizes program before h w order := by
  have hledger := Ledger.of_run hprogram hrun
  refine ⟨points h, {
    increasing := points_increasing h
    own := ?_
    asked := hledger.asked
    once := hledger.once
    answered := ?_
    replays := hledger.replays
    late := hledger.late
    agreed := ?_ }⟩
  · intro p hp
    obtain ⟨pending, reply, hget, -⟩ := mem_points_iff.mp hp
    exact ⟨pending, reply, hget⟩
  · intro i k hk
    have hresult : (w.results i)[k]? = some (w.results i)[k] :=
      List.getElem?_eq_getElem hk
    obtain ⟨p, hp, hop, houtcome⟩ :=
      hledger.succeeds ⟨i, k⟩ _ (.inl hresult)
    exact ⟨p, hp, hop, by rw [hresult, houtcome]⟩
  · intro p hp q hq hlt group held hpseeks hqseeks hfound hkept
    exact hledger.agreed hp hq hlt hpseeks hqseeks hfound hkept

def raceProgram : Fin 3 → List StoreCall
  | 0 => [.add firstCall]
  | 1 => [.add secondCall]
  | 2 => [.remove "group" "first"]

/-- Two frontends race for a group, and the winner's call is removed before the
loser reads: the loser is given no record. -/
theorem overtaken_addition_linearizable :
    ∃ (h : List (Happening (Fin 3))) (w : World (Fin 3)),
      World.Run (Reliable sampleTable) raceProgram
        (World.start (Registry.table fun _ => none)) h w ∧
      w.results 1 = [.ok (.record none)] ∧
      ∃ order, Linearizes raceProgram (fun _ => none) h w order := by
  have hrun : World.Run (Reliable sampleTable) raceProgram
      (World.start (Registry.table fun _ => none)) [] _ := .nil _
  have hrun := hrun.snoc (.issue (i := 0) rfl rfl)
  have hrun := hrun.snoc (.serve (i := 0) rfl
    (reliable_putItem_iff.mpr (.inl ⟨by rfl, ⟨.null, rfl⟩, rfl⟩)))
  have hrun := hrun.snoc (.issue (i := 1) rfl rfl)
  have hrun := hrun.snoc (.serve (i := 1) rfl
    (reliable_putItem_iff.mpr
      (.inr ⟨Table.not_free_of_eq_toItem (r := firstCall) rfl,
        sampleRefusal_refused, rfl⟩)))
  have hrun := hrun.snoc (.resume (i := 1) rfl rfl)
  have hrun := hrun.snoc (.issue (i := 2) rfl rfl)
  have hrun := hrun.snoc (.serve (i := 2) rfl
    (reliable_deleteItem_iff.mpr
      (.inl ⟨(Table.holdsCall_iff_of_eq_toItem (r := firstCall) rfl _).mpr rfl,
        ⟨.null, rfl⟩, rfl⟩)))
  have hrun := hrun.snoc (.serve (i := 1) rfl
    (reliable_getItem_iff.mpr ⟨⟨[], rfl, rfl⟩, rfl⟩))
  have hrun := hrun.snoc (.finish (i := 0) rfl rfl)
  have hrun := hrun.snoc (.finish (i := 1) rfl rfl)
  have hrun := hrun.snoc (.finish (i := 2) rfl rfl)
  have hprogram : ∀ i, ∀ call ∈ raceProgram i, ∀ region,
      call ≠ .inRegion region := by
    intro i
    fin_cases i <;> simp [raceProgram]
  exact ⟨_, _, hrun, rfl,
    store_linearizable sampleTable raceProgram hprogram _ hrun⟩

end CallRegistry
