import CallRegistry.ForeignFailure

/-!
# How the system takes the writing of a file

A file is written to a draft that is then moved into its place.  The system may
take its time over that, and it may refuse any part of it: for want of a
permission, of room or of a working disk.  What becomes of one writing is fixed
beforehand, as are the replies of other services.
-/

namespace CallRegistry.File

/-- The part of a writing that is refused. -/
inductive Juncture where
  | opening
  /-- When so many bytes have got through. -/
  | writing (bytes : Nat)
  | syncing
  | moving
  deriving DecidableEq, Repr

/-- How many of the bytes that are being written get through. -/
def Juncture.written : Juncture → Nat
  | .writing bytes => bytes
  | _ => 0

/-- A refusal by the system. -/
structure Mishap where
  juncture : Juncture
  failure : ForeignFailure
  deriving DecidableEq, Repr

/-- What becomes of a writing: it goes well and takes no time unless something else
is said. -/
structure Writing where
  /-- How many milliseconds it takes, whether it goes well or not. -/
  span : Nat := 0
  mishap : Option Mishap := none
  deriving DecidableEq, Repr

end CallRegistry.File
