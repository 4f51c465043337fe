import CallRegistry.Text.Composition
import CallRegistry.Text.Mark

/-!
# Characters that depend on their neighbours

Some characters may stand in a label only in certain company: the two joiners,
the middle dot between two letters `l`, signs of Greek, Hebrew and Japanese beside
the letters of these scripts, and digits of one of two kinds in Arabic.
-/

namespace CallRegistry.Domain

open Text (CodeRun inRuns)

def joiningRuns : List CodeRun :=
  [(0x620, 0x620, 1), (0x626, 0x628, 2), (0x62a, 0x62e, 1), (0x633, 0x63f, 1),
   (0x641, 0x647, 1), (0x649, 0x64a, 1), (0x66e, 0x66f, 1), (0x679, 0x687, 1),
   (0x69a, 0x6bf, 1), (0x6c1, 0x6c2, 1), (0x6cc, 0x6ce, 2), (0x6d0, 0x6d1, 1),
   (0x6fa, 0x6fc, 1), (0x6ff, 0x6ff, 1), (0x712, 0x714, 1), (0x71a, 0x71d, 1),
   (0x71f, 0x727, 1), (0x729, 0x72b, 2), (0x72d, 0x72e, 1), (0x74e, 0x758, 1),
   (0x75c, 0x76a, 1), (0x76d, 0x770, 1), (0x772, 0x772, 1), (0x775, 0x777, 1),
   (0x77a, 0x77f, 1), (0x7ca, 0x7ea, 1), (0x841, 0x845, 1), (0x848, 0x848, 1),
   (0x84a, 0x853, 1), (0x855, 0x855, 1), (0x860, 0x860, 1), (0x862, 0x865, 1),
   (0x868, 0x868, 1), (0x886, 0x886, 1), (0x889, 0x88d, 1), (0x8a0, 0x8a9, 1),
   (0x8af, 0x8b0, 1), (0x8b3, 0x8b8, 1), (0x8ba, 0x8c8, 1),
   (0x1820, 0x1878, 1), (0x1887, 0x18a8, 1), (0x18aa, 0x18aa, 1),
   (0xa840, 0xa871, 1), (0x10ac0, 0x10ac4, 1), (0x10ad3, 0x10ad6, 1),
   (0x10ad8, 0x10adc, 1), (0x10ade, 0x10ae0, 1), (0x10b80, 0x10b82, 2),
   (0x10b86, 0x10b88, 1), (0x10b8a, 0x10b8b, 1), (0x10b8d, 0x10b8d, 1),
   (0x10b90, 0x10b90, 1), (0x10d01, 0x10d21, 1), (0x10d23, 0x10d23, 1),
   (0x10f30, 0x10f32, 1), (0x10f34, 0x10f44, 1), (0x10f70, 0x10f73, 1),
   (0x10f76, 0x10f81, 1), (0x10fb0, 0x10fb0, 1), (0x10fb2, 0x10fb3, 1),
   (0x10fb8, 0x10fb8, 1), (0x10fbb, 0x10fbc, 1), (0x10fbe, 0x10fbf, 1),
   (0x10fc1, 0x10fc1, 1), (0x10fc4, 0x10fc4, 1), (0x1e922, 0x1e943, 1)]

/-- The letters that join the one before them only. -/
def joiningBackRuns : List CodeRun :=
  [(0x622, 0x625, 1), (0x627, 0x629, 2), (0x62f, 0x632, 1), (0x648, 0x648, 1),
   (0x671, 0x673, 1), (0x688, 0x699, 1), (0x6c0, 0x6c0, 1), (0x6c3, 0x6cb, 1),
   (0x6cd, 0x6cf, 2), (0x6d2, 0x6d3, 1), (0x6d5, 0x6d5, 1), (0x6ee, 0x6ef, 1),
   (0x710, 0x710, 1), (0x715, 0x719, 1), (0x71e, 0x71e, 1), (0x728, 0x72c, 2),
   (0x72f, 0x72f, 1), (0x74d, 0x74d, 1), (0x759, 0x75b, 1), (0x76b, 0x76c, 1),
   (0x771, 0x771, 1), (0x773, 0x774, 1), (0x778, 0x779, 1), (0x840, 0x840, 1),
   (0x846, 0x847, 1), (0x849, 0x849, 1), (0x854, 0x854, 1), (0x856, 0x858, 1),
   (0x867, 0x867, 1), (0x869, 0x86a, 1), (0x870, 0x882, 1), (0x88e, 0x88e, 1),
   (0x8aa, 0x8ac, 1), (0x8ae, 0x8ae, 1), (0x8b1, 0x8b2, 1), (0x8b9, 0x8b9, 1),
   (0x10ac5, 0x10ac7, 2), (0x10ac9, 0x10aca, 1), (0x10ace, 0x10ad2, 1),
   (0x10add, 0x10add, 1), (0x10ae1, 0x10ae1, 1), (0x10ae4, 0x10ae4, 1),
   (0x10b81, 0x10b81, 1), (0x10b83, 0x10b85, 1), (0x10b89, 0x10b89, 1),
   (0x10b8c, 0x10b8c, 1), (0x10b8e, 0x10b8f, 1), (0x10b91, 0x10b91, 1),
   (0x10d22, 0x10d22, 1), (0x10f33, 0x10f33, 1), (0x10f74, 0x10f75, 1),
   (0x10fb4, 0x10fb6, 1), (0x10fb9, 0x10fba, 1), (0x10fbd, 0x10fbd, 1),
   (0x10fc2, 0x10fc3, 1)]

/-- The letters that join the one behind them only. -/
def joiningOnRuns : List CodeRun :=
  [(0xa872, 0xa872, 1), (0x10acd, 0x10acd, 1), (0x10ad7, 0x10ad7, 1),
   (0x10d00, 0x10d00, 1)]

def greekRuns : List CodeRun :=
  [(0x371, 0x377, 2), (0x37b, 0x37d, 1), (0x390, 0x390, 1), (0x3ac, 0x3ce, 1),
   (0x3d7, 0x3e1, 2), (0x3f3, 0x3f3, 1), (0x3f8, 0x3f8, 1), (0x3fb, 0x3fc, 1),
   (0x1d26, 0x1d2a, 1), (0x1f00, 0x1f07, 1), (0x1f10, 0x1f15, 1),
   (0x1f20, 0x1f27, 1), (0x1f30, 0x1f37, 1), (0x1f40, 0x1f45, 1),
   (0x1f50, 0x1f57, 1), (0x1f60, 0x1f67, 1), (0x1f70, 0x1f7c, 2),
   (0x1fb0, 0x1fb1, 1), (0x1fb6, 0x1fb6, 1), (0x1fc6, 0x1fc6, 1),
   (0x1fd0, 0x1fd2, 1), (0x1fd6, 0x1fd7, 1), (0x1fe0, 0x1fe2, 1),
   (0x1fe4, 0x1fe7, 1), (0x1ff6, 0x1ff6, 1), (0xab65, 0xab65, 1)]

def hebrewRuns : List CodeRun :=
  [(0x591, 0x5bd, 1), (0x5bf, 0x5bf, 1), (0x5c1, 0x5c2, 1), (0x5c4, 0x5c5, 1),
   (0x5c7, 0x5c7, 1), (0x5d0, 0x5ea, 1), (0x5ef, 0x5f4, 1),
   (0xfb1e, 0xfb1e, 1)]

def japaneseRuns : List CodeRun :=
  [(0x3005, 0x3007, 2), (0x3041, 0x3096, 1), (0x309d, 0x309e, 1),
   (0x30a1, 0x30fa, 1), (0x30fd, 0x30fe, 1), (0x31f0, 0x31ff, 1),
   (0x3400, 0x4dbf, 1), (0x4e00, 0x9fff, 1), (0xfa0e, 0xfa0f, 1),
   (0xfa11, 0xfa11, 1), (0xfa13, 0xfa14, 1), (0xfa1f, 0xfa21, 2),
   (0xfa23, 0xfa24, 1), (0xfa27, 0xfa29, 1), (0x16fe3, 0x16fe3, 1),
   (0x16ff0, 0x16ff1, 1), (0x1aff0, 0x1aff3, 1), (0x1aff5, 0x1affb, 1),
   (0x1affd, 0x1affe, 1), (0x1b000, 0x1b122, 1), (0x1b132, 0x1b132, 1),
   (0x1b150, 0x1b152, 1), (0x1b155, 0x1b155, 1), (0x1b164, 0x1b167, 1),
   (0x20000, 0x2a6df, 1), (0x2a700, 0x2b739, 1), (0x2b740, 0x2b81d, 1),
   (0x2b820, 0x2cea1, 1), (0x2ceb0, 0x2ebe0, 1), (0x30000, 0x3134a, 1),
   (0x31350, 0x323af, 1)]

/-- The class of the marks that end a consonant without its vowel. -/
def viramaClass : Nat := 9

def isSkipped (c : Char) : Bool :=
  (Text.isNonspacing c && c.toNat != 0x1171e) || c.toNat == 0x1e94b

def meets (runs : List CodeRun) (cs : List Char) : Bool :=
  (cs.find? fun c => !isSkipped c).any fun c => inRuns runs c.toNat

def isOf (runs : List CodeRun) (c : Char) : Bool :=
  inRuns runs c.toNat

/-- Whether the last character of the text before, given in reverse, ends a
consonant. -/
def followsVirama (before : List Char) : Bool :=
  before.head?.any fun c => Text.markClass c.toNat == viramaClass

/-- Whether a character may stand between two texts, of which the one before is
given in reverse; none for a character that does not depend on its neighbours. -/
def fits? (before : List Char) (c : Char) (rest : List Char) : Option Bool :=
  let n := c.toNat
  if n == 0x200c then
    some (followsVirama before ||
      (meets (joiningRuns ++ joiningOnRuns) before &&
        meets (joiningRuns ++ joiningBackRuns) rest))
  else if n == 0x200d then some (followsVirama before)
  else if n == 0xb7 then
    some (before.head? == some 'l' && rest.head? == some 'l')
  else if n == 0x375 then some (rest.head?.any (isOf greekRuns))
  else if n == 0x5f3 || n == 0x5f4 then some (before.head?.any (isOf hebrewRuns))
  else if n == 0x30fb then some ((before ++ rest).any (isOf japaneseRuns))
  else if 0x660 ≤ n && n ≤ 0x669 then
    some ((before ++ rest).all fun d => !(0x6f0 ≤ d.toNat && d.toNat ≤ 0x6f9))
  else if 0x6f0 ≤ n && n ≤ 0x6f9 then
    some ((before ++ rest).all fun d => !(0x660 ≤ d.toNat && d.toNat ≤ 0x669))
  else none

/-- Whether a character joins its neighbours or keeps them from joining. -/
def isJoiner (c : Char) : Bool :=
  c.toNat == 0x200c || c.toNat == 0x200d

end CallRegistry.Domain
