import CallRegistry.Proofs.ItemReading
import CallRegistry.Proofs.MemoryAgreement

/-!
# The store in memory and its history

The calls that have acted on the store in memory determine what it holds.  A call
founds an era of a group when it is the first addition for the group since the
last removal that named the call stored then, or since the start.  The era lasts
until the next such removal, and while it lasts the group has the record that was
added first.

Positions count the calls of a history.  The store before the call at position `n`
is the one that the first `n` calls lead to, so a statement about every position is
one about the store after every call.
-/

namespace CallRegistry

/-- Calls in the order in which they act, each under its ticket. -/
abbrev History := List (StoreCall × Nat)

namespace InMemory

/-- The store that calls lead to when it starts empty. -/
def after (h : History) : InMemory :=
  h.foldl (fun m call => (m.perform call.2 call.1).1) empty

def records (m : InMemory) : List CallRecord :=
  m.kept.map (·.record)

theorem get?_eq_some_iff_mem {m : InMemory} {group : String} {r : CallRecord} :
    m.get? group = some r ↔ r ∈ m.records ∧ r.groupId.val = group := by
  rw [get?_eq_some_iff, records, List.mem_map]
  constructor
  · rintro ⟨kept, hkept, rfl, hgroup⟩
    exact ⟨⟨kept, hkept, rfl⟩, hgroup⟩
  · rintro ⟨⟨kept, hkept, rfl⟩, hgroup⟩
    exact ⟨kept, hkept, rfl, hgroup⟩

theorem nodup_groups (m : InMemory) :
    (m.records.map (·.groupId.val)).Nodup := by
  have hdistinct := m.distinct
  have hgroups : m.records.map (·.groupId.val) =
      m.kept.map Submission.group := by
    rw [records, List.map_map]
    rfl
  rw [hgroups]
  exact hdistinct

theorem records_insert (m : InMemory) (s : Submission)
    (hfree : m.find? s.group = none) :
    (m.insert s hfree).records = m.records ++ [s.record] := by
  simp [records, insert]

theorem records_drop (m : InMemory) (group : String) :
    (m.drop group).records =
      m.records.filter fun r => r.groupId.val != group := by
  rw [records, records, List.filter_map]
  rfl

theorem find?_eq_none_iff {m : InMemory} {group : String} :
    m.find? group = none ↔ m.get? group = none := by
  simp [get?]

theorem records_add_of_free {m : InMemory} {s : Submission}
    (hfree : m.get? s.group = none) :
    (m.add s).1.records = m.records ++ [s.record] := by
  have hnone : m.find? s.group = none := find?_eq_none_iff.mpr hfree
  unfold add
  split
  · next held hheld =>
      rw [hnone] at hheld
      cases hheld
  · next hfind => exact m.records_insert s hfind

theorem add_of_held {m : InMemory} {s : Submission}
    (hheld : m.get? s.group ≠ none) : (m.add s).1 = m := by
  unfold add
  split
  · rfl
  · next hfree => exact absurd (find?_eq_none_iff.mp hfree) hheld

theorem remove_of_live {m : InMemory} {group : String} {held : CallRecord}
    (hheld : m.get? group = some held) :
    m.remove group held.callId = m.drop group := by
  simp [remove, hheld]

theorem remove_of_stale {m : InMemory} {group call : String}
    (hstale : ∀ held, m.get? group = some held → held.callId.val ≠ call) :
    m.remove group call = m := by
  unfold remove
  split
  · next held hheld => rw [if_neg (hstale held hheld)]
  · rfl

end InMemory

/-- A read, a query of a region, or a removal that names no call stored: what
leaves a store alone. -/
def StoreCall.Spares (m : InMemory) : StoreCall → Prop
  | .get _ | .inRegion _ => True
  | .remove group call =>
    ∀ held, m.get? group = some held → held.callId.val ≠ call
  | .add _ => False

namespace History

/-- The store before the call at a position. -/
def storeAt (h : History) (n : ℕ) : InMemory :=
  InMemory.after (h.take n)

def AddsAt (h : History) (k : ℕ) (r : CallRecord) : Prop :=
  ∃ ticket, h[k]? = some (.add r, ticket)

/-- The call at a position removes from the group and names the call that is stored
for it then. -/
def RemovesAt (h : History) (k : ℕ) (group : String) : Prop :=
  ∃ held ticket, h[k]? = some (.remove group held.callId, ticket) ∧
    (h.storeAt k).get? group = some held

/-- The call at a position is the first addition for its group after the last such
removal, or after the start. -/
def FoundsAt (h : History) (k : ℕ) (r : CallRecord) : Prop :=
  h.AddsAt k r ∧ ∀ i < k, ∀ other, h.AddsAt i other →
    other.groupId = r.groupId →
    ∃ j, i < j ∧ j < k ∧ h.RemovesAt j r.groupId

/-- The era founded at a position lasts until another one. -/
def LastsTill (h : History) (n k : ℕ) (r : CallRecord) : Prop :=
  k < n ∧ h.FoundsAt k r ∧
    ∀ j, k < j → j < n → ¬ h.RemovesAt j r.groupId

variable {h : History} {n k : ℕ} {r : CallRecord} {group : String}

/-! ## One call -/

theorem storeAt_succ {call : StoreCall} {ticket : ℕ}
    (hcall : h[n]? = some (call, ticket)) :
    h.storeAt (n + 1) = ((h.storeAt n).perform ticket call).1 := by
  unfold storeAt InMemory.after
  rw [List.take_add_one, hcall, Option.toList_some, List.foldl_append]
  rfl

theorem storeAt_succ_of_none (hnone : h[n]? = none) :
    h.storeAt (n + 1) = h.storeAt n := by
  unfold storeAt
  rw [List.take_add_one, hnone, Option.toList_none, List.append_nil]

theorem AddsAt.eq {other : CallRecord} (hr : h.AddsAt k r)
    (hother : h.AddsAt k other) : other = r := by
  obtain ⟨ticket, hcall⟩ := hr
  obtain ⟨ticket', hcall'⟩ := hother
  rw [hcall] at hcall'
  cases hcall'
  rfl

theorem AddsAt.not_removesAt (hr : h.AddsAt k r) : ¬ h.RemovesAt k group := by
  rintro ⟨held, ticket', hcall', -⟩
  obtain ⟨ticket, hcall⟩ := hr
  rw [hcall] at hcall'
  cases hcall'

theorem storeAt_of_spares {call : StoreCall} {ticket : ℕ}
    (hcall : h[n]? = some (call, ticket)) (hspares : call.Spares (h.storeAt n)) :
    h.storeAt (n + 1) = h.storeAt n := by
  rw [storeAt_succ hcall]
  cases call with
  | get group => rfl
  | add record => exact absurd hspares id
  | remove group call => exact InMemory.remove_of_stale hspares
  | inRegion region => rfl

/-- A call that neither adds to a group nor ends its era leaves the group alone. -/
theorem get?_storeAt_succ (hadds : ∀ r, h.AddsAt n r → r.groupId.val ≠ group)
    (hremoves : ¬ h.RemovesAt n group) :
    (h.storeAt (n + 1)).get? group = (h.storeAt n).get? group := by
  cases hcall : h[n]? with
  | none => rw [storeAt_succ_of_none hcall]
  | some entry =>
      obtain ⟨call, ticket⟩ := entry
      cases call with
      | get other => rw [storeAt_of_spares hcall trivial]
      | inRegion region => rw [storeAt_of_spares hcall trivial]
      | add record =>
          have hother : record.groupId.val ≠ group :=
            hadds record ⟨ticket, hcall⟩
          rw [storeAt_succ hcall, InMemory.get?_perform _ _ rfl,
            Function.update_of_ne hother.symm]
      | remove other call =>
          rw [storeAt_succ hcall, InMemory.get?_perform _ _ rfl]
          by_cases hsame : group = other
          · subst other
            rw [Function.update_self]
            apply StoreCall.leaves_remove_of_gone
            intro held hheld hnamed
            subst hnamed
            exact hremoves ⟨held, ticket, hcall, hheld⟩
          · rw [Function.update_of_ne hsame]

theorem get?_of_addsAt (hadd : h.AddsAt n r) :
    (h.storeAt (n + 1)).get? r.groupId ≠ none := by
  obtain ⟨ticket, hcall⟩ := hadd
  have hgroup : (StoreCall.add r).group? = some r.groupId.val := rfl
  rw [storeAt_succ hcall, InMemory.get?_perform _ _ hgroup,
    Function.update_self]
  simp [StoreCall.leaves]

theorem get?_of_removesAt (hremove : h.RemovesAt n group) :
    (h.storeAt (n + 1)).get? group = none := by
  obtain ⟨held, ticket, hcall, hheld⟩ := hremove
  rw [storeAt_succ hcall]
  change ((h.storeAt n).remove group held.callId).get? group = none
  rw [InMemory.remove_of_live hheld, InMemory.get?_drop, Function.update_self]

/-- A group is free when every addition for it was followed by a removal that named
the call stored then. -/
theorem get?_storeAt_eq_none_iff :
    (h.storeAt n).get? group = none ↔
      ∀ i < n, ∀ r, h.AddsAt i r → r.groupId.val = group →
        ∃ j, i < j ∧ j < n ∧ h.RemovesAt j group := by
  induction n with
  | zero =>
      have hempty : (h.storeAt 0).get? group = none := rfl
      simp [hempty]
  | succ n ih =>
      by_cases hremoves : h.RemovesAt n group
      · refine iff_of_true (get?_of_removesAt hremoves) ?_
        intro i hi r hadd hgroup
        have hne : i ≠ n := by
          rintro rfl
          exact hadd.not_removesAt hremoves
        exact ⟨n, by omega, by omega, hremoves⟩
      · by_cases hadds : ∃ r, h.AddsAt n r ∧ r.groupId.val = group
        · obtain ⟨r, hadd, rfl⟩ := hadds
          refine iff_of_false (get?_of_addsAt hadd) ?_
          intro hall
          obtain ⟨j, hlow, hhigh, -⟩ := hall n (by omega) r hadd rfl
          omega
        · have hothers : ∀ r, h.AddsAt n r → r.groupId.val ≠ group := by
            intro r hadd hgroup
            exact hadds ⟨r, hadd, hgroup⟩
          rw [get?_storeAt_succ hothers hremoves, ih]
          constructor
          · intro hall i hi r hadd hgroup
            have hne : i ≠ n := by
              rintro rfl
              exact hothers r hadd hgroup
            obtain ⟨j, hlow, hhigh, hj⟩ := hall i (by omega) r hadd hgroup
            exact ⟨j, hlow, by omega, hj⟩
          · intro hall i hi r hadd hgroup
            obtain ⟨j, hlow, hhigh, hj⟩ := hall i (by omega) r hadd hgroup
            have hne : j ≠ n := by
              rintro rfl
              exact hremoves hj
            exact ⟨j, hlow, by omega, hj⟩

theorem foundsAt_iff :
    h.FoundsAt n r ↔
      h.AddsAt n r ∧ (h.storeAt n).get? r.groupId = none := by
  rw [get?_storeAt_eq_none_iff]
  simp only [FoundsAt, Subtype.ext_iff]

/-- What a call does: it founds an era, it ends one, or the store stays as it is. -/
theorem records_storeAt_succ (h : History) (n : ℕ) :
    (∃ r, h.FoundsAt n r ∧
      (h.storeAt (n + 1)).records = (h.storeAt n).records ++ [r]) ∨
    (∃ group, h.RemovesAt n group ∧ (h.storeAt (n + 1)).records =
      (h.storeAt n).records.filter fun r => r.groupId.val != group) ∨
    ((∀ r, ¬ h.FoundsAt n r) ∧ (∀ group, ¬ h.RemovesAt n group) ∧
      h.storeAt (n + 1) = h.storeAt n) := by
  by_cases hadds : ∃ r, h.AddsAt n r
  · obtain ⟨r, ticket, hcall⟩ := hadds
    have hadd : h.AddsAt n r := ⟨ticket, hcall⟩
    by_cases hfree : (h.storeAt n).get? r.groupId = none
    · left
      refine ⟨r, foundsAt_iff.mpr ⟨⟨ticket, hcall⟩, hfree⟩, ?_⟩
      rw [storeAt_succ hcall]
      exact InMemory.records_add_of_free (s := ⟨r, ticket⟩) hfree
    · right
      right
      refine ⟨?_, fun group => hadd.not_removesAt, ?_⟩
      · intro other hfounds
        obtain rfl : other = r := AddsAt.eq hadd hfounds.1
        exact hfree (foundsAt_iff.mp hfounds).2
      · rw [storeAt_succ hcall]
        exact InMemory.add_of_held (s := ⟨r, ticket⟩) hfree
  · have hfounds : ∀ r, ¬ h.FoundsAt n r :=
      fun r hfounds => hadds ⟨r, hfounds.1⟩
    by_cases hremoves : ∃ group, h.RemovesAt n group
    · right
      left
      obtain ⟨group, hremove⟩ := hremoves
      refine ⟨group, hremove, ?_⟩
      obtain ⟨held, ticket, hcall, hheld⟩ := hremove
      rw [storeAt_succ hcall]
      change ((h.storeAt n).remove group held.callId).records = _
      rw [InMemory.remove_of_live hheld, InMemory.records_drop]
    · right
      right
      refine ⟨hfounds, fun group hremove => hremoves ⟨group, hremove⟩, ?_⟩
      cases hcall : h[n]? with
      | none => exact storeAt_succ_of_none hcall
      | some entry =>
          obtain ⟨call, ticket⟩ := entry
          apply storeAt_of_spares hcall
          cases call with
          | get group => trivial
          | inRegion region => trivial
          | add r => exact hadds ⟨r, ticket, hcall⟩
          | remove group call =>
              intro held hheld hnamed
              subst hnamed
              exact hremoves ⟨group, held, ticket, hcall, hheld⟩

theorem lastsTill_succ_iff :
    h.LastsTill (n + 1) k r ↔
      (h.LastsTill n k r ∧ ¬ h.RemovesAt n r.groupId) ∨
        (k = n ∧ h.FoundsAt n r) := by
  constructor
  · rintro ⟨hk, hfounds, hlasts⟩
    by_cases heq : k = n
    · subst k
      exact Or.inr ⟨rfl, hfounds⟩
    · left
      have hlt : k < n := by omega
      refine ⟨⟨hlt, hfounds, ?_⟩, hlasts n hlt (by omega)⟩
      intro j hkj hjn
      exact hlasts j hkj (by omega)
  · rintro (⟨⟨hk, hfounds, hlasts⟩, hremoves⟩ | ⟨rfl, hfounds⟩)
    · refine ⟨by omega, hfounds, ?_⟩
      intro j hkj hjn
      by_cases heq : j = n
      · subst j
        exact hremoves
      · exact hlasts j hkj (by omega)
    · refine ⟨by omega, hfounds, ?_⟩
      intro j hkj hjn
      omega

/-! ## The eras that last -/

/-- The eras that last, in the order of their foundation, are what the store
holds. -/
structure Chronicle (h : History) (n : ℕ) (eras : List (ℕ × CallRecord)) :
    Prop where
  ordered : eras.Pairwise fun a b => a.1 < b.1
  mem_iff : ∀ k r, (k, r) ∈ eras ↔ h.LastsTill n k r
  records : (h.storeAt n).records = eras.map Prod.snd

theorem chronicle_zero (h : History) : h.Chronicle 0 [] where
  ordered := .nil
  mem_iff := by
    intro k r
    simp [LastsTill]
  records := rfl

variable {eras : List (ℕ × CallRecord)}

theorem Chronicle.founded (hchronicle : h.Chronicle n eras)
    (hfounds : h.FoundsAt n r)
    (hrecords : (h.storeAt (n + 1)).records = (h.storeAt n).records ++ [r]) :
    h.Chronicle (n + 1) (eras ++ [(n, r)]) where
  ordered := by
    rw [List.pairwise_append]
    refine ⟨hchronicle.ordered, List.pairwise_singleton _ _, ?_⟩
    intro era hera last hlast
    obtain rfl : last = (n, r) := List.mem_singleton.mp hlast
    exact ((hchronicle.mem_iff era.1 era.2).mp hera).1
  mem_iff := by
    intro k other
    have hremoves : ¬ h.RemovesAt n other.groupId := hfounds.1.not_removesAt
    rw [lastsTill_succ_iff, List.mem_append, List.mem_singleton,
      Prod.mk.injEq, hchronicle.mem_iff, and_iff_left hremoves]
    refine or_congr_right (and_congr_right fun _ => ?_)
    constructor
    · rintro rfl
      exact hfounds
    · intro hother
      exact AddsAt.eq hfounds.1 hother.1
  records := by
    rw [hrecords, hchronicle.records, List.map_append]
    rfl

theorem Chronicle.removed (hchronicle : h.Chronicle n eras)
    (hremoves : h.RemovesAt n group)
    (hrecords : (h.storeAt (n + 1)).records =
      (h.storeAt n).records.filter fun r => r.groupId.val != group) :
    h.Chronicle (n + 1) (eras.filter fun era => era.2.groupId.val != group) where
  ordered := hchronicle.ordered.filter _
  mem_iff := by
    intro k r
    have hfounds : ¬ h.FoundsAt n r :=
      fun hfounds => hfounds.1.not_removesAt hremoves
    have hgroup : h.RemovesAt n r.groupId ↔ r.groupId.val = group := by
      constructor
      · rintro ⟨held, ticket, hcall, -⟩
        obtain ⟨held', ticket', hcall', -⟩ := hremoves
        rw [hcall, Option.some.injEq, Prod.mk.injEq, StoreCall.remove.injEq]
          at hcall'
        exact hcall'.1.1
      · rintro rfl
        exact hremoves
    rw [lastsTill_succ_iff, List.mem_filter, hchronicle.mem_iff, bne_iff_ne,
      hgroup]
    simp [hfounds]
  records := by
    rw [hrecords, hchronicle.records, List.filter_map]
    rfl

theorem Chronicle.spared (hchronicle : h.Chronicle n eras)
    (hfounds : ∀ r, ¬ h.FoundsAt n r)
    (hremoves : ∀ group, ¬ h.RemovesAt n group)
    (hsame : h.storeAt (n + 1) = h.storeAt n) : h.Chronicle (n + 1) eras where
  ordered := hchronicle.ordered
  mem_iff := by
    intro k r
    rw [lastsTill_succ_iff, hchronicle.mem_iff]
    simp [hfounds, hremoves]
  records := by rw [hsame, hchronicle.records]

theorem exists_chronicle (h : History) (n : ℕ) : ∃ eras, h.Chronicle n eras := by
  induction n with
  | zero => exact ⟨[], h.chronicle_zero⟩
  | succ n ih =>
      obtain ⟨eras, hchronicle⟩ := ih
      rcases h.records_storeAt_succ n with
        ⟨r, hfounds, hrecords⟩ | ⟨group, hremoves, hrecords⟩ |
        ⟨hfounds, hremoves, hsame⟩
      · exact ⟨_, hchronicle.founded hfounds hrecords⟩
      · exact ⟨_, hchronicle.removed hremoves hrecords⟩
      · exact ⟨_, hchronicle.spared hfounds hremoves hsame⟩

theorem get?_storeAt_iff :
    (h.storeAt n).get? group = some r ↔
      r.groupId.val = group ∧ ∃ k, h.LastsTill n k r := by
  obtain ⟨eras, hchronicle⟩ := h.exists_chronicle n
  have hmem : r ∈ (h.storeAt n).records ↔ ∃ k, h.LastsTill n k r := by
    rw [hchronicle.records, List.mem_map]
    constructor
    · rintro ⟨era, hera, rfl⟩
      exact ⟨era.1, (hchronicle.mem_iff _ _).mp hera⟩
    · rintro ⟨k, hlasts⟩
      exact ⟨(k, r), (hchronicle.mem_iff k r).mpr hlasts, rfl⟩
  rw [InMemory.get?_eq_some_iff_mem, hmem, and_comm]

/-- While an era lasts, every addition for its group gives the record that was
added first, and so does the first one. -/
theorem answer_add {other : CallRecord} {ticket : ℕ} (hfounds : h.FoundsAt k r)
    (hle : k ≤ n) (hcall : h[n]? = some (.add other, ticket))
    (hgroup : other.groupId = r.groupId)
    (hlasts : ∀ j, k < j → j < n → ¬ h.RemovesAt j r.groupId) :
    ((h.storeAt n).perform ticket (.add other)).2.1 = .record (some r) := by
  have hadd : (StoreCall.add other).group? = some other.groupId.val := rfl
  rw [InMemory.answer_perform _ _ hadd, StoreCall.answer]
  by_cases heq : k = n
  · subst k
    obtain rfl : other = r := AddsAt.eq hfounds.1 ⟨ticket, hcall⟩
    rw [(foundsAt_iff.mp hfounds).2, Option.getD_none]
  · have hera : h.LastsTill n k r := ⟨by omega, hfounds, hlasts⟩
    have hheld : (h.storeAt n).get? r.groupId = some r :=
      get?_storeAt_iff.mpr ⟨rfl, k, hera⟩
    rw [hgroup, hheld, Option.getD_some]

end History

open History in
/-- At every moment the store in memory holds one record at most for a group, that
of the era that lasts, in the order in which the eras were founded.  Additions give
the record of the era, a region's records come in the order of the store, and
nothing but a new era or the removal of the live call changes the store. -/
theorem memory_history (h : History) (n : ℕ) :
    ((h.storeAt n).records.map (·.groupId.val)).Nodup ∧
    (∀ group r, (h.storeAt n).get? group = some r ↔
      r.groupId.val = group ∧ ∃ k, h.LastsTill n k r) ∧
    (∀ k r other ticket, h.FoundsAt k r → k ≤ n →
      h[n]? = some (.add other, ticket) → other.groupId = r.groupId →
      (∀ j, k < j → j < n → ¬ h.RemovesAt j r.groupId) →
      ((h.storeAt n).perform ticket (.add other)).2.1 = .record (some r)) ∧
    (∃ eras : List (ℕ × CallRecord),
      eras.Pairwise (fun a b => a.1 < b.1) ∧
      (∀ k r, (k, r) ∈ eras ↔ h.LastsTill n k r) ∧
      (h.storeAt n).records = eras.map Prod.snd ∧
      ∀ region ticket, ∃ found,
        ((h.storeAt n).perform ticket (.inRegion region)).2.1 =
          .records found ∧
        found.Nodup ∧
        found = (eras.filter (·.2.backendRegion.val == region)).map
          Prod.snd) ∧
    (∀ r, h.FoundsAt n r →
      (h.storeAt (n + 1)).records = (h.storeAt n).records ++ [r]) ∧
    (∀ call ticket, h[n]? = some (call, ticket) →
      call.Spares (h.storeAt n) → h.storeAt (n + 1) = h.storeAt n) := by
  refine ⟨(h.storeAt n).nodup_groups, fun _ _ => get?_storeAt_iff,
    fun _ _ _ _ => answer_add, ?_, ?_, fun _ _ => storeAt_of_spares⟩
  · obtain ⟨eras, hchronicle⟩ := h.exists_chronicle n
    refine ⟨eras, hchronicle.ordered, hchronicle.mem_iff,
      hchronicle.records, ?_⟩
    intro region ticket
    refine ⟨_, rfl, (h.storeAt n).nodup_inRegion region, ?_⟩
    have hrecords := hchronicle.records
    change (h.storeAt n).records.filter _ = _
    rw [hrecords, List.filter_map]
    rfl
  · intro r hfounds
    rcases h.records_storeAt_succ n with
      ⟨other, hother, hrecords⟩ | ⟨group, hremoves, -⟩ | ⟨hnone, -, -⟩
    · obtain rfl : other = r := AddsAt.eq hfounds.1 hother.1
      exact hrecords
    · exact absurd hremoves hfounds.1.not_removesAt
    · exact absurd hfounds (hnone r)

/-- The call of a group moves to another host while its neighbour goes on: it is
removed, and added again under another call.  A late removal names the call that
is gone. -/
def movedCall : History :=
  [(.add CallRecord.sampleRecord, 0),
    (.add { CallRecord.sampleRecord with groupId := ⟨"k", by decide⟩ }, 1),
    (.remove "g" "c", 2),
    (.add { CallRecord.sampleRecord with callId := ⟨"d", by decide⟩ }, 3),
    (.remove "g" "c", 4)]

/-- The group whose call was moved comes last, and the late removal changes
nothing. -/
theorem moved_call_comes_last :
    (movedCall.storeAt 4).records =
      [{ CallRecord.sampleRecord with groupId := ⟨"k", by decide⟩ },
        { CallRecord.sampleRecord with callId := ⟨"d", by decide⟩ }] ∧
    movedCall.storeAt 5 = movedCall.storeAt 4 := by
  have hremoves : movedCall.RemovesAt 2 "g" :=
    ⟨CallRecord.sampleRecord, 2, rfl, rfl⟩
  have hfounds : movedCall.FoundsAt 3
      { CallRecord.sampleRecord with callId := ⟨"d", by decide⟩ } := by
    refine ⟨⟨3, rfl⟩, ?_⟩
    intro i hi other hadd hgroup
    have hne : i ≠ 2 := by
      rintro rfl
      exact hadd.not_removesAt hremoves
    exact ⟨2, by omega, by omega, hremoves⟩
  have hspares : (StoreCall.remove "g" "c").Spares (movedCall.storeAt 4) := by
    intro held hheld hnamed
    have hlive : (movedCall.storeAt 4).get? "g" =
        some { CallRecord.sampleRecord with callId := ⟨"d", by decide⟩ } := rfl
    rw [hlive] at hheld
    cases hheld
    contradiction
  obtain ⟨-, -, -, -, hlast, -⟩ := memory_history movedCall 3
  obtain ⟨-, -, -, -, -, hsame⟩ := memory_history movedCall 4
  exact ⟨hlast _ hfounds, hsame _ 4 rfl hspares⟩

end CallRegistry
