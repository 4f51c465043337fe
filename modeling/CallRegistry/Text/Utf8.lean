import CallRegistry.Text.Hex

/-!
# Strict UTF-8

Byte strings as text.  `decode` accepts exactly the well-formed byte strings.
For any other it names the first bytes that cannot be part of one: a byte that
starts nothing, a character that breaks off before a byte that does not
continue it, or a character that the end of the text cuts short.
-/

namespace CallRegistry.Text

inductive Utf8Fault where
  /-- A byte that starts no character. -/
  | start (position : Nat) (byte : UInt8)
  /-- The `count` bytes of a character that is not continued. -/
  | broken (position count : Nat) (byte : UInt8)
  /-- The `count` bytes of a character that the end cuts short. -/
  | cut (position count : Nat) (byte : UInt8)
  deriving DecidableEq, Repr

namespace Utf8Fault

def place (position count : Nat) (byte : UInt8) : String :=
  if count = 1 then
    "byte 0x" ++ hexOfBytes [byte] ++ " in position " ++ toString position
  else
    "bytes in position " ++ toString position ++ "-" ++
      toString (position + count - 1)

def message : Utf8Fault → String
  | start position byte =>
    "'utf-8' codec can't decode " ++ place position 1 byte ++
      ": invalid start byte"
  | broken position count byte =>
    "'utf-8' codec can't decode " ++ place position count byte ++
      ": invalid continuation byte"
  | cut position count byte =>
    "'utf-8' codec can't decode " ++ place position count byte ++
      ": unexpected end of data"

end Utf8Fault

/-- What the first byte of a character asks for: the range of the second byte,
and how many more follow it. -/
def leadByte? (b : UInt8) : Option (UInt8 × UInt8 × Nat) :=
  if 0xc2 ≤ b ∧ b ≤ 0xdf then some (0x80, 0xbf, 0)
  else if b = 0xe0 then some (0xa0, 0xbf, 1)
  else if b = 0xed then some (0x80, 0x9f, 1)
  else if 0xe1 ≤ b ∧ b ≤ 0xef then some (0x80, 0xbf, 1)
  else if b = 0xf0 then some (0x90, 0xbf, 2)
  else if b = 0xf4 then some (0x80, 0x8f, 2)
  else if 0xf1 ≤ b ∧ b ≤ 0xf3 then some (0x80, 0xbf, 2)
  else none

/-- How many of the bytes, up to `more` of them, continue a character. -/
def continuations : Nat → List UInt8 → Nat
  | more + 1, b :: rest =>
    if 0x80 ≤ b ∧ b ≤ 0xbf then continuations more rest + 1 else 0
  | _, _ => 0

def leadBits (b : UInt8) : Nat :=
  if b < 0xe0 then b.toNat % 0x20
  else if b < 0xf0 then b.toNat % 0x10
  else b.toNat % 0x08

/-- A character of more than one byte at the head of a byte string: its code and
its length, or what is wrong with it. -/
def longCharacter (position : Nat) (b : UInt8) (rest : List UInt8) :
    Except Utf8Fault (Nat × Nat) :=
  match leadByte? b with
  | none => .error (.start position b)
  | some (low, high, more) =>
    match rest with
    | [] => .error (.cut position 1 b)
    | second :: rest =>
      if low ≤ second ∧ second ≤ high then
        let found := continuations more rest
        if found = more then
          let code := (second :: rest.take more).foldl
            (fun n c => 0x40 * n + c.toNat % 0x40) (leadBits b)
          .ok (code, more + 2)
        else if found = rest.length then
          .error (.cut position (found + 2) b)
        else
          .error (.broken position (found + 2) b)
      else
        .error (.broken position 1 b)

/-- Decodes from a position on; `length` bounds the number of characters. -/
def decodeFrom : Nat → Nat → List UInt8 → Except Utf8Fault (List Char)
  | _, _, [] => .ok []
  | 0, _, _ => .ok []
  | length + 1, position, b :: rest =>
    if b < 0x80 then
      (decodeFrom length (position + 1) rest).map (Char.ofNat b.toNat :: ·)
    else
      match longCharacter position b rest with
      | .error fault => .error fault
      | .ok (code, size) =>
        (decodeFrom length (position + size) (rest.drop (size - 1))).map
          (Char.ofNat code :: ·)

def decodeUtf8 (bytes : List UInt8) : Except Utf8Fault (List Char) :=
  decodeFrom bytes.length 0 bytes

/-- Decodes from a position on, with a mark of its own for whatever is wrong;
`length` bounds the number of characters. -/
def decodeLossyFrom : Nat → List UInt8 → List Char
  | _, [] => []
  | 0, _ => []
  | length + 1, b :: rest =>
    if b < 0x80 then Char.ofNat b.toNat :: decodeLossyFrom length rest
    else
      match longCharacter 0 b rest with
      | .ok (code, size) =>
        Char.ofNat code :: decodeLossyFrom length (rest.drop (size - 1))
      | .error (.start ..) => '\ufffd' :: decodeLossyFrom length rest
      | .error (.broken _ count _) | .error (.cut _ count _) =>
        '\ufffd' :: decodeLossyFrom length (rest.drop (count - 1))

/-- The text that a byte string writes, with a mark for whatever is wrong. -/
def decodeLossy (bytes : List UInt8) : List Char :=
  decodeLossyFrom bytes.length bytes

def encodeUtf8 (s : String) : List UInt8 :=
  s.toUTF8.data.toList

/-- The text with every line end written as a single line feed. -/
def unifyLineEnds : List Char → List Char
  | [] => []
  | '\r' :: '\n' :: rest => '\n' :: unifyLineEnds rest
  | '\r' :: rest => '\n' :: unifyLineEnds rest
  | c :: rest => c :: unifyLineEnds rest

end CallRegistry.Text
