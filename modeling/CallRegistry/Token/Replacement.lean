import CallRegistry.File.Tree
import CallRegistry.File.Writing
import CallRegistry.Text.Quoted

/-!
# Replacing the token file

A new token is written to a draft beside the token file, and the draft is then
moved into its place.  A replacement goes through its stages one step at a time:
the draft is opened, which empties it; the token is handed over; the bytes reach
the draft, from the offset on that the open file has come to; they are made
durable; the draft is moved.  Only the last step touches the token file.

The steps of several replacements can be taken in any order, and a replacement
can be left at any stage.  The system can refuse each of them.
-/

namespace CallRegistry.Token

open File (Path Tree FileId Problem Juncture Mishap)

/-- What is put behind the name of the token file to name its draft. -/
def draftSuffix : String := ".bak"

/-- The draft of a token file; none when the path names no file. -/
def draft? (goal : Path) : Option Path :=
  goal.withSuffix? draftSuffix

inductive ReplacementFault where
  /-- The path of the token file has no name. -/
  | unnamed (goal : Path)
  /-- The path holds a null character. -/
  | null
  | opening (problem : Problem) (draft : Path)
  | moving (problem : Problem) (draft goal : Path)
  /-- The system refused something that would have gone well. -/
  | system (failure : ForeignFailure)
  deriving DecidableEq, Repr

def numbered (problem : Problem) : String :=
  "[Errno " ++ toString problem.code ++ "] " ++ problem.words

def ReplacementFault.message : ReplacementFault → String
  | .unnamed goal => "PosixPath(" ++ Text.quoted goal.text ++ ") has an empty name"
  | .null => "embedded null byte"
  | .opening problem draft =>
    numbered problem ++ ": " ++ Text.quoted draft.text
  | .moving problem draft goal =>
    numbered problem ++ ": " ++ Text.quoted draft.text ++ " -> " ++
      Text.quoted goal.text
  | .system failure => failure.message

structure Replacement where
  goal : Path
  draft : Path
  body : List UInt8
  deriving DecidableEq, Repr

namespace Replacement

inductive Stage where
  | planned
  /-- The draft is open and empty. -/
  | opened (file : FileId)
  /-- The token is handed over, and its bytes before the offset have been
  written. -/
  | buffered (file : FileId) (offset : Nat)
  | written (file : FileId)
  | durable
  | installed
  | failed (fault : ReplacementFault)
  deriving DecidableEq, Repr

/-- The replacement of a token file by the given bytes. -/
def plan (goal : Path) (body : List UInt8) :
    Except ReplacementFault Replacement :=
  match draft? goal with
  | some draft => .ok { goal, draft, body }
  | none => .error (.unnamed goal)

def openDraft (r : Replacement) (t : Tree) : Tree × Stage :=
  if r.draft.text.toList.contains '\x00' then (t, .failed .null)
  else
    match t.openEmptied r.draft with
    | .ok (t, file) => (t, .opened file)
    | .error problem => (t, .failed (.opening problem r.draft))

/-- Moves the draft into the place of the token file. -/
def install (r : Replacement) (t : Tree) : Tree × Stage :=
  match t.move r.draft r.goal with
  | .ok t => (t, .installed)
  | .error problem => (t, .failed (.moving problem r.draft r.goal))

/-- The bytes that are written next, so many at most. -/
def chunk (r : Replacement) (offset most : Nat) : List UInt8 :=
  (r.body.drop offset).take most

def step (r : Replacement) (t : Tree) : Stage → Tree × Stage
  | .planned => r.openDraft t
  | .opened file => (t, .buffered file 0)
  | .buffered file offset =>
    (t.write file offset (r.chunk offset r.body.length), .written file)
  | .written _ => (t, .durable)
  | .durable => r.install t
  | .installed => (t, .installed)
  | .failed fault => (t, .failed fault)

def steps (r : Replacement) : Nat → Tree × Stage → Tree × Stage
  | 0, now => now
  | n + 1, (t, stage) => r.steps n (r.step t stage)

/-- The number of steps after which a replacement has come to an end. -/
def length : Nat := 5

/-- The number of steps that are taken before a part of the writing is refused. -/
def stepsBefore : Juncture → Nat
  | .opening => 0
  | .writing _ => 2
  | .syncing => 3
  | .moving => 4

/-- Fails by a mishap, unless the replacement has failed by itself.  A path that
holds a null character never comes before the system. -/
def spoil (r : Replacement) (m : Mishap) : Tree × Stage → Tree × Stage
  | (t, .failed fault) => (t, .failed fault)
  | (t, .planned) =>
    if r.draft.text.toList.contains '\x00' then (t, .failed .null)
    else (t, .failed (.system m.failure))
  | (t, .buffered file offset) =>
    (t.write file offset (r.chunk offset m.juncture.written),
      .failed (.system m.failure))
  | (t, _) => (t, .failed (.system m.failure))

/-- Carries a replacement out without a break. -/
def carryOut (r : Replacement) (mishap : Option Mishap) (t : Tree) :
    Tree × Stage :=
  match mishap with
  | none => r.steps length (t, .planned)
  | some m => r.spoil m (r.steps (stepsBefore m.juncture) (t, .planned))

end Replacement

/-- Replaces a token file without a break: the tree afterwards, and what went
wrong if anything did. -/
def replace (goal : Path) (body : List UInt8) (t : Tree)
    (mishap : Option Mishap := none) : Tree × Option ReplacementFault :=
  match Replacement.plan goal body with
  | .error fault => (t, some fault)
  | .ok r =>
    match r.carryOut mishap t with
    | (t, .failed fault) => (t, some fault)
    | (t, _) => (t, none)

end CallRegistry.Token
