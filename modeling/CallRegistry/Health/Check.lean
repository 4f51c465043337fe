import CallRegistry.Datum

/-!
# Checks of readiness

One check of a readiness answer: what was looked at, and what is wrong with it
if anything is.
-/

namespace CallRegistry

/-- The outcome of one check. -/
structure ReadinessCheck where
  name : String
  error : Option String
  deriving DecidableEq, Repr

namespace ReadinessCheck

/-- Whether nothing is wrong. -/
def isOk (c : ReadinessCheck) : Bool :=
  c.error.isNone

/-- The status word of a check. -/
def status (c : ReadinessCheck) : String :=
  if c.isOk then "ok" else "error"

/-- A check as it stands in answers and in log entries. -/
def toDatum (c : ReadinessCheck) : Datum :=
  .map [("name", .text c.name), ("status", .text c.status),
    ("error", .ofText? c.error)]

end ReadinessCheck

end CallRegistry
