import CallRegistry.Compression.Wrapping
import CallRegistry.Text.Blank
import CallRegistry.Text.Case
import CallRegistry.Text.Split

/-!
# Codings of a body

The body of a response may be compressed, more than once even.  A header names the
codings in the order in which they were applied; names that are unknown change
nothing.
-/

namespace CallRegistry.Http

inductive Coding where
  /-- A compressed file. -/
  | file
  | deflated
  deriving DecidableEq, Repr

namespace Coding

/-- The coding that goes by a name, in any case. -/
def named? (name : String) : Option Coding :=
  [("gzip", file), ("deflate", deflated)].lookup (Text.lower name)

/-- The codings that the value of a header names. -/
def ofHeader (value : String) : List Coding :=
  (Text.pieces ',' value.toList).filterMap fun name =>
    named? (String.ofList (Text.trim name))

def decode : Coding → List UInt8 → Except Compression.Fault (List UInt8)
  | file => Compression.unwrapFile
  | deflated => Compression.unwrapDeflated

/-- Undoes codings, the last one first. -/
def decodeAll (codings : List Coding) (body : List UInt8) :
    Except Compression.Fault (List UInt8) :=
  codings.reverse.foldlM (fun body coding => coding.decode body) body

end Coding

end CallRegistry.Http
