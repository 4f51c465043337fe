/-!
# Failures from outside

A failure of a service that nothing here provides for.  It passes through
whatever calls the service, or is reported by its text.

It is always an ordinary failure, of the kind that a caller can take.  What takes
down the task it happens in, such as a cancellation, is an `Http.Interruption`.
-/

namespace CallRegistry

/-- An ordinary failure that nothing provides for, as opposed to an
`Http.Interruption`: what sort it is, and its text. -/
structure ForeignFailure where
  sort : String
  message : String
  deriving DecidableEq, Repr

end CallRegistry
