import CallRegistry.Settings.Value

/-!
# Checks that go on after a fault

A `Checked` value is there, or everything that is wrong with it is known.
Combining two checked values keeps the faults of both, those of the first one in
front, so that a reader of settings can report every fault at once.
-/

namespace CallRegistry.Settings

structure Fault where
  name : String
  reason : ValueFault
  deriving DecidableEq, Repr

/-- A value, or everything that is wrong with it. -/
inductive Checked (α : Type) where
  | value (a : α)
  | faulty (first : Fault) (rest : List Fault)

namespace Checked

variable {α β : Type}

def faults : Checked α → List Fault
  | value _ => []
  | faulty first rest => first :: rest

def apply : Checked (α → β) → Checked α → Checked β
  | value f, value a => value (f a)
  | value _, faulty first rest => faulty first rest
  | faulty first rest, x => faulty first (rest ++ x.faults)

/-- The value of a setting, or the reason why it is refused. -/
def ofReading (name : String) : Except ValueFault α → Checked α
  | .ok a => value a
  | .error reason => faulty { name, reason } []

def withFaults (x : Checked α) (further : List Fault) : Checked α :=
  match x, further with
  | value a, [] => value a
  | value _, first :: rest => faulty first rest
  | faulty first rest, further => faulty first (rest ++ further)

instance : Functor Checked where
  map f
    | value a => value (f a)
    | faulty first rest => faulty first rest

instance : Seq Checked where
  seq f x := apply f (x ())

/-- Combining keeps the faults of both sides, in order. -/
theorem faults_apply (f : Checked (α → β)) (x : Checked α) :
    (apply f x).faults = f.faults ++ x.faults := by
  cases f <;> cases x <;> simp [apply, faults]

/-- Further faults come last. -/
theorem faults_withFaults (x : Checked α) (further : List Fault) :
    (x.withFaults further).faults = x.faults ++ further := by
  cases x <;> cases further <;> simp [withFaults, faults]

end Checked

end CallRegistry.Settings
