import CallRegistry.CallId
import CallRegistry.Proofs.ItemReading
import CallRegistry.Proofs.MemoryHistory
import CallRegistry.Proofs.OneGroup

/-!
# Call identifiers tell calls apart

The digits of an identifier read back as its bits, so different bits give different
identifiers.  A record can be made for any texts that are not empty, and carries
the identifier it was made under.  Two calls of one group that were made from
different bits are therefore never taken for each other: removing one of them
leaves a store alone that holds the other.
-/

namespace CallRegistry

namespace Text

theorem hexValue?_hexDigit {n : Nat} (hn : n < 16) :
    hexValue? (hexDigit n) = some n := by
  have hall : ∀ i : Fin 16, hexValue? (hexDigit i) = some i.val := by decide
  exact hall ⟨n, hn⟩

theorem hexDigit_mem {n : Nat} (hn : n < 16) :
    hexDigit n ∈ "0123456789abcdef".toList := by
  have hall : ∀ i : Fin 16, hexDigit i ∈ "0123456789abcdef".toList := by decide
  exact hall ⟨n, hn⟩

theorem length_hexDigits (width n : Nat) : (hexDigits width n).length = width := by
  induction width generalizing n with
  | zero => rfl
  | succ width ih => simp [hexDigits, ih]

theorem mem_of_mem_hexDigits {width n : Nat} {c : Char}
    (hc : c ∈ hexDigits width n) : c ∈ "0123456789abcdef".toList := by
  induction width generalizing n with
  | zero => simp [hexDigits] at hc
  | succ width ih =>
      rw [hexDigits, List.mem_append, List.mem_singleton] at hc
      rcases hc with hc | rfl
      · exact ih hc
      · exact hexDigit_mem (Nat.mod_lt n (by decide))

/-- The digits read back as what they can hold of the number. -/
theorem ofHexDigits?_hexDigits (width n : Nat) :
    ofHexDigits? (hexDigits width n) = some (n % 16 ^ width) := by
  induction width generalizing n with
  | zero => simp [hexDigits, ofHexDigits?, Nat.mod_one]
  | succ width ih =>
      have hlast := hexValue?_hexDigit (Nat.mod_lt n (show 0 < 16 by decide))
      have hfirst := ih (n / 16)
      unfold ofHexDigits? at hfirst ⊢
      rw [hexDigits, List.foldlM_append, hfirst]
      simp only [Option.bind_eq_bind, Option.bind_some, List.foldlM_cons,
        List.foldlM_nil, hlast, Option.map_some, Option.pure_def]
      rw [pow_succ', Nat.mod_mul, add_comm]

end Text

namespace CallId

theorem ofHexDigits?_ofBits (bits : BitVec 128) :
    Text.ofHexDigits? (ofBits bits).toList = some bits.toNat := by
  have hlt : bits.toNat < 16 ^ 32 := bits.isLt
  rw [ofBits, String.toList_ofList, Text.ofHexDigits?_hexDigits,
    Nat.mod_eq_of_lt hlt]

theorem ofBits_injective : Function.Injective ofBits := by
  intro bits bits' heq
  apply BitVec.eq_of_toNat_eq
  rw [← Option.some_inj, ← ofHexDigits?_ofBits, ← ofHexDigits?_ofBits, heq]

theorem length_ofBits (bits : BitVec 128) : (ofBits bits).length = 32 := by
  rw [ofBits, String.length_ofList, Text.length_hexDigits]

theorem ofBits_ne_empty (bits : BitVec 128) : ofBits bits ≠ "" := by
  intro hempty
  have hlength := length_ofBits bits
  rw [hempty] at hlength
  contradiction

end CallId

namespace CallRecord

/-- The fields that a new call is given, by name. -/
def newCallForm (texts : Field → String) : Form :=
  (Field.all.filter (· ≠ .callId)).map fun f => (f.name, .text (texts f))

variable {texts : Field → String} {form : Form} {callId : String}
  {r : CallRecord} {f : Field}

theorem mem_newCallForm_iff {name : String} {value : Datum} :
    (name, value) ∈ newCallForm texts ↔
      ∃ f : Field, f ≠ .callId ∧ name = f.name ∧ value = .text (texts f) := by
  have hall : ∀ f : Field, f ∈ Field.all := by
    intro f
    cases f <;> decide
  simp only [newCallForm, List.mem_map, List.mem_filter, hall, true_and,
    decide_eq_true_eq, Prod.mk.injEq, @eq_comm _ name, @eq_comm _ value]

theorem name_injective : Function.Injective Field.name := by
  intro f g h
  cases f <;> cases g <;> first | rfl | simp [Field.name] at h

theorem lookup_of_perm_newCallForm (hform : form.Perm (newCallForm texts))
    (hf : f ≠ .callId) : form.lookup f.name = some (.text (texts f)) := by
  apply lookup_eq_some_of_unique
  · rw [hform.mem_iff, mem_newCallForm_iff]
    exact ⟨f, hf, rfl, rfl⟩
  · intro other hother
    rw [hform.mem_iff, mem_newCallForm_iff] at hother
    obtain ⟨g, -, hname, rfl⟩ := hother
    rw [name_injective hname]

theorem fits_of_perm_newCallForm (hform : form.Perm (newCallForm texts)) :
    let names := (Field.all.filter (· ≠ .callId)).map Field.name
    form.fits names names = true := by
  intro names
  have hsame : form.fits names names = (newCallForm texts).fits names names := by
    simp only [Form.fits, hform.all_eq, hform.any_eq]
  rw [hsame]
  rfl

/-- A new call has a record, whatever its texts are as long as they are not
empty. -/
theorem exists_ofNewCall (htexts : ∀ f, f ≠ .callId → texts f ≠ "")
    (hcall : callId ≠ "") (hform : form.Perm (newCallForm texts)) :
    ∃ r, ofNewCall callId form = .ok r ∧ r.get .callId = callId ∧
      ∀ f, f ≠ .callId → r.get f = texts f := by
  have hnonempty : ∀ f, Function.update texts .callId callId f ≠ "" := by
    intro f
    by_cases hf : f = .callId
    · rwa [hf, Function.update_self]
    · rw [Function.update_of_ne hf]
      exact htexts f hf
  obtain ⟨r, hr⟩ := exists_get_eq hnonempty
  have hrest : ∀ f, f ≠ .callId → r.get f = texts f := by
    intro f hf
    rw [hr, Function.update_of_ne hf]
  refine ⟨r, ?_, by rw [hr, Function.update_self], hrest⟩
  simp only [ofNewCall, fits_of_perm_newCallForm hform, if_true]
  rw [ofFields_get r, Except.mapError]
  intro f
  split
  next hf => rw [hf, hr, Function.update_self]
  next hf =>
    rw [Form.value, lookup_of_perm_newCallForm hform hf, hrest f hf]
    rfl

theorem callId_of_ofNewCall (hr : ofNewCall callId form = .ok r) :
    r.callId.val = callId := by
  simp only [ofNewCall] at hr
  split at hr
  next =>
    rw [Except.mapError_eq_ok_iff, ofFields_eq_ok_iff] at hr
    exact (Option.some_inj.mp (hr .callId)).symm
  next => contradiction

end CallRecord

/-! ## Removing one of two calls -/

open TableService

theorem InMemory.perform_remove_of_other {m : InMemory} {group call : String}
    {held : CallRecord} (hheld : m.get? group = some held)
    (hcall : held.callId.val ≠ call) (ticket : Nat) :
    (m.perform ticket (.remove group call)).1 = m := by
  apply InMemory.remove_of_stale
  intro other hother
  rw [hheld, Option.some_inj] at hother
  rwa [← hother]

theorem Pending.ends_remove_of_other {t : Table} {group call : String}
    {held : CallRecord} (config : TableConfig)
    (hheld : t group = some held.toItem) (hcall : held.callId.val ≠ call) :
    Ends (Reliable config) (fun outcome t' => outcome = .ok .removed ∧ t' = t)
      t (StoreCall.remove group call).begin := by
  have hsame :
      t = Function.update t group ((some held).map CallRecord.toItem) := by
    rw [Option.map_some, ← hheld, Function.update_eq_self]
  have hleaves : (StoreCall.remove group call).leaves (some held) = some held :=
    StoreCall.leaves_remove_of_gone (by rintro _ ⟨⟩; exact hcall)
  apply ((reliable_keeper config t group).ends rfl hsame).mono
  rintro outcome t' ⟨rfl, ht'⟩
  rw [hleaves, ← hsame] at ht'
  exact ⟨rfl, ht'⟩

/-- An identifier is written in 32 digits that read back as its bits.  New calls
have records, and those of one group that were made from different bits are told
apart by the identifier: removing one leaves a store as it is that holds the other,
in memory and over a table. -/
theorem call_ids_tell_calls_apart :
    (∀ bits : BitVec 128, (CallId.ofBits bits).length = 32 ∧
      (∀ c ∈ (CallId.ofBits bits).toList, c ∈ "0123456789abcdef".toList) ∧
      Text.ofHexDigits? (CallId.ofBits bits).toList = some bits.toNat) ∧
    Function.Injective CallId.ofBits ∧
    (∀ (bits : BitVec 128) (texts : CallRecord.Field → String) (form : Form),
      (∀ f, f ≠ .callId → texts f ≠ "") →
      form.Perm (CallRecord.newCallForm texts) →
      ∃ r, CallRecord.ofNewCall (CallId.ofBits bits) form = .ok r ∧
        r.get .callId = CallId.ofBits bits ∧
        ∀ f, f ≠ .callId → r.get f = texts f) ∧
    ∀ (bits bits' : BitVec 128) (form form' : Form) (gone live : CallRecord),
      bits ≠ bits' →
      CallRecord.ofNewCall (CallId.ofBits bits) form = .ok gone →
      CallRecord.ofNewCall (CallId.ofBits bits') form' = .ok live →
      gone.groupId = live.groupId →
      (∀ (m : InMemory) (ticket : Nat), m.get? live.groupId = some live →
        (m.perform ticket (.remove gone.groupId gone.callId)).1 = m) ∧
      ∀ (config : TableConfig) (t : Table),
        t live.groupId = some live.toItem →
        Pending.Ends (Reliable config)
          (fun outcome t' => outcome = .ok .removed ∧ t' = t) t
          (StoreCall.remove gone.groupId gone.callId).begin := by
  refine ⟨?_, CallId.ofBits_injective, ?_, ?_⟩
  · intro bits
    refine ⟨CallId.length_ofBits bits, ?_, CallId.ofHexDigits?_ofBits bits⟩
    intro c hc
    rw [CallId.ofBits, String.toList_ofList] at hc
    exact Text.mem_of_mem_hexDigits hc
  · intro bits texts form htexts hform
    exact CallRecord.exists_ofNewCall htexts (CallId.ofBits_ne_empty bits) hform
  · intro bits bits' form form' gone live hbits hgone hlive hgroup
    have hcall : live.callId.val ≠ gone.callId := by
      rw [CallRecord.callId_of_ofNewCall hgone,
        CallRecord.callId_of_ofNewCall hlive]
      exact fun heq => hbits (CallId.ofBits_injective heq).symm
    rw [hgroup]
    constructor
    · intro m ticket hheld
      exact InMemory.perform_remove_of_other hheld hcall ticket
    · intro config t hheld
      exact Pending.ends_remove_of_other config hheld hcall

/-- The bits of two identifiers with leading zeros that differ in the last digit
alone. -/
theorem call_ids_of_last_digit :
    let texts (_ : CallRecord.Field) := "g"
    let form := (CallRecord.newCallForm texts).reverse
    CallId.ofBits 10#128 = "0000000000000000000000000000000a" ∧
      ∃ gone live : CallRecord, gone.callId.val ≠ live.callId ∧
        (((InMemory.empty.add ⟨live, 0⟩).1).perform 1
            (.remove gone.groupId gone.callId)).1 =
          (InMemory.empty.add ⟨live, 0⟩).1 ∧
        CallRecord.ofNewCall (CallId.ofBits 10#128) form = .ok gone ∧
        CallRecord.ofNewCall (CallId.ofBits 11#128) form = .ok live := by
  intro texts form
  obtain ⟨-, hinjective, hnew, hremove⟩ := call_ids_tell_calls_apart
  have htexts : ∀ f, f ≠ .callId → texts f ≠ "" := by
    intro f _
    decide
  have hbits : 10#128 ≠ 11#128 := by decide
  obtain ⟨gone, hgone, hid, hgone_texts⟩ :=
    hnew 10#128 texts form htexts (List.reverse_perm _)
  obtain ⟨live, hlive, hid', hlive_texts⟩ :=
    hnew 11#128 texts form htexts (List.reverse_perm _)
  have hgroup : gone.groupId = live.groupId := by
    have hsame := (hgone_texts .groupId (by decide)).trans
      (hlive_texts .groupId (by decide)).symm
    exact Subtype.ext hsame
  refine ⟨by decide, gone, live, ?_, ?_, hgone, hlive⟩
  · intro heq
    exact hbits (hinjective (hid.symm.trans (heq.trans hid')))
  · apply (hremove _ _ _ _ _ _ hbits hgone hlive hgroup).1
    rw [InMemory.get?_add]
    simp [InMemory.get?, InMemory.find?, InMemory.empty, Submission.group]

end CallRegistry
