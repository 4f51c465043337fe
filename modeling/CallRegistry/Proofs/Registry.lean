import CallRegistry.Proofs.TableService

/-!
# The registry that a table stands for

A registry gives each group its live call.  `Registry.Performs` is an operation
acting on it at one instant, and `Registry.Replays` a sequence of them.  The only
freedom is that an addition may find its group free and still give no record; it
then changes nothing.

A registry is written to a table record by record.
-/

namespace CallRegistry

/-- The live call of each group. -/
abbrev Registry := String → Option CallRecord

/-- Whether an operation looks for the record of a group. -/
def StoreCall.Seeks (call : StoreCall) (group : String) : Prop :=
  call = .get group ∨
    ∃ record : CallRecord, call = .add record ∧ record.groupId.val = group

namespace Registry

/-- The table that a registry is written to. -/
def table (reg : Registry) : Table :=
  fun group => (reg group).map CallRecord.toItem

/-- An operation at one instant: its answer and the registry it leaves. -/
inductive Performs (reg : Registry) : StoreCall → StoreAnswer → Registry → Prop
  | get (group : String) :
      Performs reg (.get group) (.record (reg group)) reg
  | addFree {record : CallRecord} (hfree : reg record.groupId = none) :
      Performs reg (.add record) (.record (some record))
        (Function.update reg record.groupId (some record))
  | addHeld {record held : CallRecord}
      (hheld : reg record.groupId = some held) :
      Performs reg (.add record) (.record (some held)) reg
  /-- The group is free again: what the addition lost to is gone. -/
  | addLate {record : CallRecord} (hfree : reg record.groupId = none) :
      Performs reg (.add record) (.record none) reg
  | removeLive {group : String} {held : CallRecord}
      (hheld : reg group = some held) :
      Performs reg (.remove group held.callId) .removed
        (Function.update reg group none)
  | removeGone {group call : String}
      (hgone : ∀ held, reg group = some held → held.callId.val ≠ call) :
      Performs reg (.remove group call) .removed reg

/-- Operations one after another, each with its answer. -/
inductive Replays : Registry → List (StoreCall × StoreAnswer) → Registry → Prop
  | nil (reg : Registry) : Replays reg [] reg
  | cons {reg reg₁ reg₂ : Registry} {acts : List (StoreCall × StoreAnswer)}
      {call : StoreCall} {answer : StoreAnswer}
      (hfirst : Performs reg call answer reg₁)
      (hrest : Replays reg₁ acts reg₂) :
      Replays reg ((call, answer) :: acts) reg₂

theorem replays_append_iff {reg reg₂ : Registry}
    {acts more : List (StoreCall × StoreAnswer)} :
    Replays reg (acts ++ more) reg₂ ↔
      ∃ reg₁, Replays reg acts reg₁ ∧ Replays reg₁ more reg₂ := by
  constructor
  · intro h
    induction acts generalizing reg with
    | nil => exact ⟨reg, .nil reg, h⟩
    | cons act acts ih =>
        cases h with
        | cons hfirst hrest =>
            obtain ⟨reg₁, hacts, hmore⟩ := ih hrest
            exact ⟨reg₁, .cons hfirst hacts, hmore⟩
  · rintro ⟨reg₁, hacts, hmore⟩
    induction hacts with
    | nil => exact hmore
    | cons hfirst _ ih => exact .cons hfirst (ih hmore)

/-- A record stays until it is removed under its own call. -/
theorem Performs.keeps {reg reg' : Registry} {call : StoreCall}
    {answer : StoreAnswer} (h : Performs reg call answer reg')
    {group : String} {held : CallRecord} (hheld : reg group = some held)
    (hcall : call ≠ .remove group held.callId) :
    reg' group = some held := by
  cases h with
  | get => exact hheld
  | @addFree record hfree =>
      have hne : group ≠ record.groupId := by
        rintro rfl
        simp [hheld] at hfree
      simpa [hne] using hheld
  | addHeld => exact hheld
  | addLate => exact hheld
  | @removeLive other live hlive =>
      have hne : group ≠ other := by
        rintro rfl
        rw [hheld, Option.some.injEq] at hlive
        exact hcall (by rw [hlive])
      simpa [hne] using hheld
  | removeGone => exact hheld

theorem Replays.keeps {reg reg' : Registry}
    {acts : List (StoreCall × StoreAnswer)} (h : Replays reg acts reg')
    {group : String} {held : CallRecord} (hheld : reg group = some held)
    (hacts : ∀ act ∈ acts, act.1 ≠ .remove group held.callId) :
    reg' group = some held := by
  induction h with
  | nil => exact hheld
  | cons hfirst _ ih =>
      have hnext := hfirst.keeps hheld (hacts _ List.mem_cons_self)
      exact ih hnext fun act hact => hacts act (List.mem_cons_of_mem _ hact)

theorem Performs.held_of_found {reg reg' : Registry} {call : StoreCall}
    {answer : StoreAnswer} (h : Performs reg call answer reg')
    {group : String} {held : CallRecord} (hseeks : call.Seeks group)
    (hfound : answer = .record (some held)) : reg' group = some held := by
  cases h <;> grind [StoreCall.Seeks]

theorem Performs.found_of_held {reg reg' : Registry} {call : StoreCall}
    {answer : StoreAnswer} (h : Performs reg call answer reg')
    {group : String} {held : CallRecord} (hseeks : call.Seeks group)
    (hheld : reg group = some held) : answer = .record (some held) := by
  cases h <;> grind [StoreCall.Seeks]

/-! ## Written tables -/

theorem table_update (reg : Registry) (group : String)
    (record : Option CallRecord) :
    table (Function.update reg group record) =
      Function.update reg.table group (record.map CallRecord.toItem) := by
  funext other
  by_cases heq : other = group
  · subst other
    simp [table]
  · simp [table, heq]

end Registry

end CallRegistry
