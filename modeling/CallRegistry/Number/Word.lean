/-!
# Integers of 64 bits

The integers that a signed word of 64 bits holds.
-/

namespace CallRegistry

/-- Whether an integer is one of 64 bits. -/
def isWord (i : Int) : Bool :=
  -Int.pow 2 63 ≤ i && i < Int.pow 2 63

end CallRegistry
