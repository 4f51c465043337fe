import CallRegistry.Store.Operation

/-!
# The store kept in memory

A store for local work that holds its records in a list, in the order in which
the groups were added, at most one record a group.  Every operation acts at
once.

A caller may hand in the same submission of a record more than once.  The log
tells a submission that is stored from one that found its group taken, so a
submission carries a ticket, and the store remembers the ticket of the one it
kept.
-/

namespace CallRegistry

/-- A record handed in for storing, under a ticket of its own. -/
structure Submission where
  record : CallRecord
  ticket : Nat
  deriving DecidableEq

def Submission.group (s : Submission) : String :=
  s.record.groupId

/-- The records kept, oldest group first, no group twice. -/
structure InMemory where
  kept : List Submission
  distinct : (kept.map Submission.group).Nodup

namespace InMemory

def empty : InMemory where
  kept := []
  distinct := by simp

def find? (m : InMemory) (group : String) : Option Submission :=
  m.kept.find? (·.group == group)

def get? (m : InMemory) (group : String) : Option CallRecord :=
  (m.find? group).map (·.record)

def inRegion (m : InMemory) (region : String) : List CallRecord :=
  (m.kept.map (·.record)).filter fun r => r.backendRegion.val == region

/-- Keeps a submission whose group is free. -/
def insert (m : InMemory) (s : Submission) (free : m.find? s.group = none) :
    InMemory where
  kept := m.kept ++ [s]
  distinct := by
    have hnew : s.group ∉ m.kept.map Submission.group := by
      intro hmem
      obtain ⟨t, ht, heq⟩ := List.mem_map.mp hmem
      have := List.find?_eq_none.mp free t ht
      simp [heq] at this
    rw [List.map_append, List.map_cons, List.map_nil]
    refine List.nodup_append.mpr ⟨m.distinct, by simp, ?_⟩
    intro a ha b hb hab
    simp only [List.mem_singleton] at hb
    exact hnew (hb ▸ hab ▸ ha)

/-- Keeps a submission if its group is free; gives what is kept for the group
afterwards. -/
def add (m : InMemory) (s : Submission) : InMemory × Submission :=
  match h : m.find? s.group with
  | some held => (m, held)
  | none => (m.insert s h, s)

def drop (m : InMemory) (group : String) : InMemory where
  kept := m.kept.filter (·.group != group)
  distinct := by
    exact List.Sublist.nodup
      (List.Sublist.map _ (List.filter_sublist)) m.distinct

def remove (m : InMemory) (group call : String) : InMemory :=
  match m.get? group with
  | some r => if r.callId.val = call then m.drop group else m
  | none => m

/-- Carries an operation out.  Only an addition is logged, and only an addition
looks at the ticket. -/
def perform (m : InMemory) (ticket : Nat) :
    StoreCall → InMemory × StoreAnswer × List Event
  | .get group => (m, .record (m.get? group), [])
  | .add record =>
    let (next, held) := m.add { record, ticket }
    let event :=
      if held.ticket = ticket then
        Event.memoryStored record.groupId held.record.callId
      else
        Event.memoryHeld record.groupId held.record.callId
    (next, .record (some held.record), [event])
  | .remove group call => (m.remove group call, .removed, [])
  | .inRegion region => (m, .records (m.inRegion region), [])

end InMemory

end CallRegistry
