import CallRegistry.Text.Blank
import CallRegistry.Text.Hex
import CallRegistry.Text.Split

/-!
# Numeric hosts

The host of an address may be a number instead of a name: four decimal numbers
between points, or up to eight hexadecimal groups between colons in square
brackets.  These are checked; names are not.
-/

namespace CallRegistry.Http

/-- Whether a host looks like four numbers: four runs of digits between
points. -/
def looksLikeFour (cs : List Char) : Bool :=
  let parts := Text.pieces '.' cs
  parts.length == 4 && parts.all fun p => !p.isEmpty && p.all Char.isDigit

/-- Whether a text is a number below 256 without superfluous zeros. -/
def isOctet (cs : List Char) : Bool :=
  let n := (cs.filterMap Text.asciiDigit?).foldl (10 * · + ·) 0
  cs.all Char.isDigit && 0 < cs.length && cs.length ≤ 3 &&
  (cs.length == 1 || cs.head? != some '0') && n < 256

def isFour (cs : List Char) : Bool :=
  let parts := Text.pieces '.' cs
  parts.length == 4 && parts.all isOctet

def looksLikeGroups (cs : List Char) : Bool :=
  cs.head? == some '[' && cs.getLast? == some ']' && 2 ≤ cs.length

def isGroup (cs : List Char) : Bool :=
  cs.all (fun c => (Text.hexValue? c).isSome) && cs.length ≤ 4

/-- The groups of a host; four decimal numbers at the end count as two. -/
def groupsOf? (cs : List Char) : Option (List (List Char)) :=
  let parts := Text.pieces ':' cs
  match parts.getLast? with
  | some last =>
    if '.' ∈ last then
      if isFour last then some (parts.dropLast ++ [['0'], ['0']]) else none
    else some parts
  | none => none

def areGroups (parts : List (List Char)) : Bool :=
  let inner := (parts.drop 1).dropLast
  let gaps := (inner.filter (·.isEmpty)).length
  let front := parts.head?.any (·.isEmpty)
  let back := parts.getLast?.any (·.isEmpty)
  let full := (parts.filter (!·.isEmpty)).length
  parts.all isGroup && 3 ≤ parts.length && parts.length ≤ 9 &&
  if gaps == 0 then parts.length == 8 && !front && !back
  else
    -- an empty first or last group has to belong to the gap
    gaps == 1 && full ≤ 7 &&
    (!front || inner.head?.any (·.isEmpty)) &&
    (!back || inner.getLast?.any (·.isEmpty))

/-- Whether a text is a host of groups, with a zone behind a percent sign if it
has one. -/
def isGroups (cs : List Char) : Bool :=
  let host := cs.takeWhile (· ≠ '%')
  let zone := cs.dropWhile (· ≠ '%')
  let groups :=
    match groupsOf? host with
    | some parts => areGroups parts
    | none => false
  groups && (zone.isEmpty || (2 ≤ zone.length && '%' ∉ zone.drop 1))

end CallRegistry.Http
