import CallRegistry.Proofs.Pages
import CallRegistry.Store.InMemory

/-!
# The store in memory and the store over a table

Both stores are given the same operations, one after another, and start empty.
The store over a table talks to a service that loses no reply and cuts the items
of a region into pages as it likes.  The two agree at every operation, and the
table holds the items of the records in memory after each.

A region's records may come in another order, since memory keeps the order in
which the groups were added and the service has an order of its own.
-/

namespace CallRegistry

open TableService

namespace InMemory

variable (m : InMemory) (ticket : Nat)

theorem get?_eq_some_iff {group : String} {r : CallRecord} :
    m.get? group = some r ↔
      ∃ kept ∈ m.kept, kept.record = r ∧ kept.group = group := by
  constructor
  · intro hget
    obtain ⟨kept, hfind, hrecord⟩ := Option.map_eq_some_iff.mp hget
    have hgroup := List.find?_some hfind
    exact ⟨kept, List.mem_of_find?_eq_some hfind, hrecord,
      by simpa using hgroup⟩
  · rintro ⟨kept, hkept, rfl, rfl⟩
    have hfound : (m.find? kept.group).isSome := by
      rw [find?, List.find?_isSome]
      exact ⟨kept, hkept, by simp⟩
    obtain ⟨other, hother⟩ := Option.isSome_iff_exists.mp hfound
    have hgroup : other.group = kept.group := by
      simpa using List.find?_some hother
    have hsame := List.inj_on_of_nodup_map m.distinct
      (List.mem_of_find?_eq_some hother) hkept hgroup
    rw [get?, hother, hsame, Option.map_some]

theorem groupId_of_get? {group : String} {r : CallRecord}
    (hget : m.get? group = some r) : r.groupId.val = group := by
  obtain ⟨kept, -, rfl, hgroup⟩ := m.get?_eq_some_iff.mp hget
  exact hgroup

theorem get?_insert (s : Submission) (hfree : m.find? s.group = none) :
    (m.insert s hfree).get? =
      Function.update m.get? s.group (some s.record) := by
  funext group
  by_cases heq : group = s.group
  · subst group
    simp only [find?] at hfree
    simp [get?, find?, insert, List.find?_append, hfree]
  · simp [get?, find?, insert, heq, Ne.symm heq]

theorem get?_drop (group : String) :
    (m.drop group).get? = Function.update m.get? group none := by
  funext other
  by_cases heq : other = group
  · subst other
    simp [get?, find?, drop]
  · rw [Function.update_of_ne heq]
    ext r
    rw [get?_eq_some_iff, get?_eq_some_iff]
    refine exists_congr fun kept => ?_
    simp only [drop, List.mem_filter, bne_iff_ne]
    constructor
    · rintro ⟨⟨hkept, -⟩, hrecord, hgroup⟩
      exact ⟨hkept, hrecord, hgroup⟩
    · rintro ⟨hkept, hrecord, rfl⟩
      exact ⟨⟨hkept, heq⟩, hrecord, rfl⟩

theorem get?_add (s : Submission) :
    (m.add s).1.get? =
      Function.update m.get? s.group
        (some ((m.get? s.group).getD s.record)) := by
  unfold add
  split
  next held hfind =>
    have hget : m.get? s.group = some held.record := by simp [get?, hfind]
    rw [hget, Option.getD_some, ← hget, Function.update_eq_self]
  next hfind =>
    have hget : m.get? s.group = none := by simp [get?, hfind]
    rw [get?_insert, hget, Option.getD_none]

theorem record_add (s : Submission) :
    (m.add s).2.record = (m.get? s.group).getD s.record := by
  unfold add
  split
  next held hfind => simp [get?, hfind]
  next hfind => simp [get?, hfind]

theorem get?_remove (group call : String) :
    (m.remove group call).get? =
      Function.update m.get? group
        ((m.get? group).filter (·.callId.val != call)) := by
  unfold remove
  split
  next r hget =>
    split
    next hcall =>
      have hnone : (some r).filter (·.callId.val != call) = none := by
        simp [Option.filter, hcall]
      rw [hget, hnone, get?_drop]
    next hcall =>
      have hsome : (some r).filter (·.callId.val != call) = some r := by
        simp [Option.filter, hcall]
      rw [hget, hsome, ← hget, Function.update_eq_self]
  next hget => rw [hget, Option.filter_none, ← hget, Function.update_eq_self]

/-- An operation on a group has its effect on the records in memory. -/
theorem get?_perform {call : StoreCall} {group : String}
    (hcall : call.group? = some group) :
    (m.perform ticket call).1.get? =
      Function.update m.get? group (call.leaves (m.get? group)) := by
  rcases StoreCall.of_group? hcall with rfl | ⟨record, rfl, rfl⟩ | ⟨id, rfl⟩
  · exact (Function.update_eq_self _ _).symm
  · exact m.get?_add _
  · exact m.get?_remove group id

theorem answer_perform {call : StoreCall} {group : String}
    (hcall : call.group? = some group) :
    (m.perform ticket call).2.1 = call.answer (m.get? group) := by
  rcases StoreCall.of_group? hcall with rfl | ⟨record, rfl, rfl⟩ | ⟨id, rfl⟩
  · rfl
  · have hrecord := m.record_add ⟨record, ticket⟩
    simp only [perform, hrecord]
    rfl
  · rfl

theorem mem_inRegion_iff {region : String} {r : CallRecord} :
    r ∈ m.inRegion region ↔
      m.get? r.groupId = some r ∧ r.backendRegion.val = region := by
  rw [inRegion, List.mem_filter, List.mem_map, get?_eq_some_iff, beq_iff_eq]
  refine and_congr_left fun _ => exists_congr fun kept => ?_
  constructor
  · rintro ⟨hkept, rfl⟩
    exact ⟨hkept, rfl, rfl⟩
  · rintro ⟨hkept, hrecord, -⟩
    exact ⟨hkept, hrecord⟩

theorem nodup_inRegion (region : String) : (m.inRegion region).Nodup := by
  have hgroups := m.distinct
  have hmap : m.kept.map Submission.group =
      (m.kept.map (·.record)).map (·.groupId.val) := by
    rw [List.map_map]
    rfl
  rw [hmap] at hgroups
  exact hgroups.of_map.filter _

/-- A list of the region's groups leads to the region's records. -/
theorem perm_inRegion {region : String} {keys : List String}
    (hnodup : keys.Nodup)
    (hkeys : ∀ key, key ∈ keys ↔
      ∃ r, m.get? key = some r ∧ r.backendRegion.val = region) :
    (keys.filterMap m.get?).Nodup ∧
      (keys.filterMap m.get?).Perm (m.inRegion region) := by
  have hfound : (keys.filterMap m.get?).Nodup := by
    refine hnodup.filterMap ?_
    intro key other r hkey hother
    rw [← m.groupId_of_get? hkey, m.groupId_of_get? hother]
  refine ⟨hfound, ?_⟩
  rw [List.perm_ext_iff_of_nodup hfound (m.nodup_inRegion region)]
  intro r
  rw [List.mem_filterMap, mem_inRegion_iff]
  constructor
  · rintro ⟨key, hkey, hget⟩
    obtain ⟨r', hr', hregion⟩ := (hkeys key).mp hkey
    obtain rfl : r' = r := Option.some.inj (hr'.symm.trans hget)
    rw [m.groupId_of_get? hget]
    exact ⟨hget, hregion⟩
  · rintro ⟨hget, hregion⟩
    exact ⟨r.groupId, (hkeys _).mpr ⟨r, hget, hregion⟩, hget⟩

theorem exists_regionKeys (region : String) :
    ∃ keys : List String, keys.Nodup ∧
      ∀ key, key ∈ keys ↔
        ∃ r, m.get? key = some r ∧ r.backendRegion.val = region := by
  have hgroup : ∀ r ∈ m.inRegion region, ∀ r' ∈ m.inRegion region,
      r.groupId.val = r'.groupId.val → r = r' := by
    intro r hr r' hr' heq
    have hget := (m.mem_inRegion_iff.mp hr).1
    rw [heq, (m.mem_inRegion_iff.mp hr').1] at hget
    exact (Option.some.inj hget).symm
  refine ⟨(m.inRegion region).map (·.groupId.val),
    (m.nodup_inRegion region).map_on hgroup, ?_⟩
  intro key
  rw [List.mem_map]
  constructor
  · rintro ⟨r, hr, rfl⟩
    exact ⟨r, m.mem_inRegion_iff.mp hr⟩
  · rintro ⟨r, hget, hregion⟩
    obtain rfl := m.groupId_of_get? hget
    exact ⟨r, m.mem_inRegion_iff.mpr ⟨hget, hregion⟩, rfl⟩

end InMemory

/-- The same answer, up to the order of a region's records. -/
def StoreAnswer.Agrees (answer : StoreAnswer) : StoreAnswer → Prop
  | .records kept => ∃ found, answer = .records found ∧ found.Nodup ∧
      found.Perm kept
  | kept => answer = kept

/-- The stores agree at each of some operations.  However the service answers, an
operation ends with the answer that the store in memory gives, and the table is
then that of the records in memory. -/
def Agree (config : TableConfig) :
    List (StoreCall × Nat) → InMemory → Catalog → Prop
  | [], _, _ => True
  | (call, ticket) :: calls, m, c =>
    let (next, kept, _) := m.perform ticket call
    Pending.Ends (Paged config)
      (fun outcome c' =>
        (∃ answer, outcome = .ok answer ∧ answer.Agrees kept) ∧
        c'.table = Registry.table next.get? ∧
        Agree config calls next c')
      c call.begin

theorem StoreCall.agrees_answer {call : StoreCall} {group : String}
    (hcall : call.group? = some group) (held : Option CallRecord) :
    (call.answer held).Agrees (call.answer held) := by
  rcases of_group? hcall with rfl | ⟨record, rfl, -⟩ | ⟨id, rfl⟩ <;> rfl

/-- One operation, on a table of the records in memory. -/
theorem ends_perform (config : TableConfig) (m : InMemory) (ticket : Nat)
    (call : StoreCall) {c : Catalog} (hc : c.table = Registry.table m.get?) :
    Pending.Ends (Paged config)
      (fun outcome c' =>
        (∃ answer, outcome = .ok answer ∧
          answer.Agrees (m.perform ticket call).2.1) ∧
        c'.table = Registry.table (m.perform ticket call).1.get?)
      c call.begin := by
  cases hcall : call.group? with
  | some group =>
      have hholds : c.table = Function.update (Registry.table m.get?) group
          ((m.get? group).map CallRecord.toItem) := by
        rw [hc]
        exact (Function.update_eq_self _ _).symm
      refine ((Pending.paged_keeper config _ group).ends hcall hholds).mono ?_
      rintro outcome c' ⟨rfl, hc'⟩
      rw [m.answer_perform ticket hcall, m.get?_perform ticket hcall,
        Registry.table_update]
      exact ⟨⟨_, rfl, StoreCall.agrees_answer hcall _⟩, hc'⟩
  | none =>
      obtain ⟨region, rfl⟩ := StoreCall.of_group?_none hcall
      obtain ⟨keys, hnodup, hkeys⟩ := m.exists_regionKeys region
      have hlists := Pending.lists_table_iff.mpr ⟨keys, hnodup, hkeys, rfl⟩
      rw [← hc] at hlists
      refine (Pending.ends_inRegion hc ⟨_, hlists⟩).mono ?_
      rintro outcome c' ⟨⟨keys, hnodup, hkeys, rfl⟩, hc'⟩
      obtain ⟨hfound, hperm⟩ := m.perm_inRegion hnodup hkeys
      exact ⟨⟨_, rfl, _, rfl, hfound, hperm⟩, hc'.trans hc⟩

theorem agree_of_table (config : TableConfig)
    (calls : List (StoreCall × Nat)) {m : InMemory} {c : Catalog}
    (hc : c.table = Registry.table m.get?) : Agree config calls m c := by
  induction calls generalizing m c with
  | nil => trivial
  | cons call calls ih =>
      obtain ⟨call, ticket⟩ := call
      refine (ends_perform config m ticket call hc).mono ?_
      rintro outcome c' ⟨hanswer, hc'⟩
      exact ⟨hanswer, hc', ih hc'⟩

/-- Started empty, the store in memory and the store over a table agree at every
operation of every sequence. -/
theorem memory_agreement (config : TableConfig)
    (calls : List (StoreCall × Nat)) (upcoming : Datum → List (List Datum)) :
    Agree config calls .empty ⟨fun _ => none, upcoming⟩ :=
  agree_of_table config calls rfl

end CallRegistry
