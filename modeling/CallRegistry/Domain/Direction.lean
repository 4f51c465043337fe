import CallRegistry.Text.Mark

/-!
# Labels that are written from right to left

A label with a character of a script that is written from right to left has to
read the same way on the wire and on the screen.  It begins with such a
character, holds none of the other direction, has digits of one kind, and ends in
a letter or a digit, which marks may follow.
-/

namespace CallRegistry.Domain

open Text (CodeRun inRuns)

def rightRuns : List CodeRun :=
  [(0x5d0, 0x5ea, 1), (0x5ef, 0x5f4, 1), (0x620, 0x63f, 1), (0x641, 0x64a, 1),
   (0x66e, 0x66f, 1), (0x671, 0x674, 1), (0x679, 0x6d3, 1), (0x6d5, 0x6d5, 1),
   (0x6e5, 0x6e6, 1), (0x6ee, 0x6ef, 1), (0x6fa, 0x6ff, 1), (0x710, 0x710, 1),
   (0x712, 0x72f, 1), (0x74d, 0x7a5, 1), (0x7b1, 0x7b1, 1), (0x7c0, 0x7ea, 1),
   (0x7f4, 0x7f5, 1), (0x800, 0x815, 1), (0x81a, 0x81a, 1), (0x824, 0x824, 1),
   (0x828, 0x828, 1), (0x840, 0x858, 1), (0x860, 0x86a, 1), (0x870, 0x887, 1),
   (0x889, 0x88e, 1), (0x8a0, 0x8c9, 1), (0xfe73, 0xfe73, 1),
   (0x10800, 0x10805, 1), (0x10808, 0x10808, 1), (0x1080a, 0x10835, 1),
   (0x10837, 0x10838, 1), (0x1083c, 0x1083c, 1), (0x1083f, 0x10855, 1),
   (0x10860, 0x10876, 1), (0x10880, 0x1089e, 1), (0x108e0, 0x108f2, 1),
   (0x108f4, 0x108f5, 1), (0x10900, 0x10915, 1), (0x10920, 0x10939, 1),
   (0x10980, 0x109b7, 1), (0x109be, 0x109bf, 1), (0x10a00, 0x10a00, 1),
   (0x10a10, 0x10a13, 1), (0x10a15, 0x10a17, 1), (0x10a19, 0x10a35, 1),
   (0x10a60, 0x10a7c, 1), (0x10a80, 0x10a9c, 1), (0x10ac0, 0x10ac7, 1),
   (0x10ac9, 0x10ae4, 1), (0x10b00, 0x10b35, 1), (0x10b40, 0x10b55, 1),
   (0x10b60, 0x10b72, 1), (0x10b80, 0x10b91, 1), (0x10c00, 0x10c48, 1),
   (0x10cc0, 0x10cf2, 1), (0x10d00, 0x10d23, 1), (0x10e80, 0x10ea9, 1),
   (0x10eb0, 0x10eb1, 1), (0x10f00, 0x10f1c, 1), (0x10f27, 0x10f27, 1),
   (0x10f30, 0x10f45, 1), (0x10f70, 0x10f81, 1), (0x10fb0, 0x10fc4, 1),
   (0x10fe0, 0x10ff6, 1), (0x1e800, 0x1e8c4, 1), (0x1e922, 0x1e943, 1),
   (0x1e94b, 0x1e94b, 1), (0x1e950, 0x1e959, 1)]

/-- The characters that go along with either direction. -/
def neutralRuns : List CodeRun :=
  [(0x2d, 0x2d, 1), (0xb7, 0xb7, 1), (0x2b9, 0x2ba, 1), (0x2c6, 0x2cf, 1),
   (0x2ec, 0x2ec, 1), (0x375, 0x375, 1), (0x200c, 0x200d, 1),
   (0x2e2f, 0x2e2f, 1), (0x30fb, 0x30fb, 1), (0xa67f, 0xa67f, 1),
   (0xa717, 0xa71f, 1), (0xa788, 0xa788, 1)]

def leftMarks : List Nat :=
  [0xcbf, 0xcc6, 0x11a07, 0x11a08, 0x11c3f]

/-- How a character of a label goes along with its neighbours. -/
inductive Direction where
  | left
  | right
  /-- A digit as it is used in European scripts. -/
  | european
  /-- A digit as it is used in Arabic. -/
  | arabic
  | mark
  | neutral
  deriving DecidableEq, Repr

def direction (c : Char) : Direction :=
  let n := c.toNat
  if c.isDigit || (0x6f0 ≤ n && n ≤ 0x6f9) then .european
  else if (0x660 ≤ n && n ≤ 0x669) || (0x10d30 ≤ n && n ≤ 0x10d39) then .arabic
  else if inRuns rightRuns n then .right
  else if inRuns neutralRuns n then .neutral
  else if Text.isNonspacing c && !leftMarks.contains n then .mark
  else .left

inductive DirectionFault where
  /-- The first character has no direction that a label can have. -/
  | start
  /-- A character, the given one in the count, that goes against the label. -/
  | against (position : Nat) (isRightward : Bool)
  /-- Digits of both kinds. -/
  | digits
  | ending
  deriving DecidableEq, Repr

/-- What is wrong with the directions behind a beginning that is written from right
to left, given the kind of the digits before. -/
def turnFault? (kind : Option Direction) (position : Nat) :
    List Direction → Option DirectionFault
  | [] => none
  | d :: rest =>
    if d = .left then some (.against position false)
    else if d = .european ∨ d = .arabic then
      if kind.all (· = d) then turnFault? (some d) (position + 1) rest
      else some .digits
    else turnFault? kind (position + 1) rest

/-- What is wrong with the directions of a label's characters.  A label without
characters that are written from right to left may hold any others. -/
def directionFault? (ds : List Direction) : Option DirectionFault :=
  let isTurned (d : Direction) : Bool := d = .right || d = .arabic
  let ends (d : Direction) : Bool := isTurned d || d = .european
  let ending := (ds.reverse.dropWhile (· = .mark)).head?
  if !ds.any isTurned then none
  else
    match ds.head? with
    | some .right =>
      match turnFault? none 1 ds with
      | some fault => some fault
      | none => if ending.any ends then none else some .ending
    | some .left => some (.against (ds.findIdx isTurned + 1) true)
    | _ => some .start

end CallRegistry.Domain
