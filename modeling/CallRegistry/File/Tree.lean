import CallRegistry.File.Path
import CallRegistry.Text.Utf8

/-!
# Trees of files

A tree maps places to nodes.  A node is a directory or refers to a file by a
number, and the bytes of the files are kept by these numbers.  So a file that is
open can be told from the place it was opened at: it can be moved to another
place while it is being written, and the bytes follow it there.  No file stands
at two places, which is part of the type, and no node leads to another place: trees
with hard or symbolic links are not described.

Paths are walked from the root, or from the directory that is home to relative
paths.  Every name before the last has to lead to a directory.
-/

namespace CallRegistry.File

/-- A place in a tree: the names that lead there from the root. -/
abbrev Place := List String

/-- The places on the way from the root to a place, itself included. -/
def Place.way (place : Place) : List Place :=
  (List.range place.length).map fun n => place.take (n + 1)

/-- The number of a file. -/
abbrev FileId := Nat

/-- What stands at a place. -/
inductive Node where
  | directory
  | file (id : FileId)
  deriving DecidableEq, Repr

/-- What keeps the system from reaching a file. -/
inductive Problem where
  | notFound
  | busy
  | notDirectory
  | isDirectory
  | nameTooLong
  deriving DecidableEq, Repr

namespace Problem

/-- The number the system gives to a problem. -/
def code : Problem → Nat
  | notFound => 2
  | busy => 16
  | notDirectory => 20
  | isDirectory => 21
  | nameTooLong => 36

def words : Problem → String
  | notFound => "No such file or directory"
  | busy => "Device or resource busy"
  | notDirectory => "Not a directory"
  | isDirectory => "Is a directory"
  | nameTooLong => "File name too long"

end Problem

/-- A tree of files; the root is always a directory. -/
structure Tree where
  /-- Where relative paths begin. -/
  home : Place
  nodes : List (Place × Node)
  bytes : FileId → List UInt8
  /-- A number that no file has yet, nor any number above it. -/
  fresh : FileId
  numbered : ∀ place id, (place, .file id) ∈ nodes → id < fresh
  /-- A file stands at one place only. -/
  single : ∀ place other id,
    (place, .file id) ∈ nodes → (other, .file id) ∈ nodes → place = other

namespace Tree

def empty (home : Place) : Tree where
  home := home
  nodes := (Place.way home).map (·, .directory)
  bytes := fun _ => []
  fresh := 0
  numbered := by simp
  single := by simp

def node? (t : Tree) (place : Place) : Option Node :=
  if place = [] then some .directory else t.nodes.lookup place

def read? (t : Tree) (place : Place) : Option (List UInt8) :=
  match t.node? place with
  | some (.file id) => some (t.bytes id)
  | _ => none

/-- A file that stands at a place is among the nodes. -/
theorem mem_nodes_of_node? {t : Tree} {place : Place} {id : FileId}
    (h : t.node? place = some (.file id)) : (place, .file id) ∈ t.nodes := by
  unfold node? at h
  split at h
  · cases h
  · obtain ⟨before, after, heq, _⟩ := List.lookup_eq_some_iff.mp h
    rw [heq]
    simp

def elsewhere (place : Place) (nodes : List (Place × Node)) :
    List (Place × Node) :=
  nodes.filter (·.1 != place)

@[simp] theorem mem_elsewhere {place : Place} {nodes : List (Place × Node)}
    {e : Place × Node} : e ∈ elsewhere place nodes ↔ e ∈ nodes ∧ e.1 ≠ place := by
  simp [elsewhere]

def setBytes (t : Tree) (id : FileId) (body : List UInt8) : Tree :=
  { t with bytes := fun i => if i = id then body else t.bytes i }

def putDirectory (t : Tree) (place : Place) : Tree where
  home := t.home
  nodes := (place, .directory) :: elsewhere place t.nodes
  bytes := t.bytes
  fresh := t.fresh
  numbered := by
    intro p id h
    simp only [List.mem_cons, Prod.mk.injEq, reduceCtorEq, and_false,
      mem_elsewhere, false_or] at h
    exact t.numbered p id h.1
  single := by
    intro p q id hp hq
    simp only [List.mem_cons, Prod.mk.injEq, reduceCtorEq, and_false,
      mem_elsewhere, false_or] at hp hq
    exact t.single p q id hp.1 hq.1

/-- Puts a new file without bytes at a place. -/
def putFile (t : Tree) (place : Place) : Tree where
  home := t.home
  nodes := (place, .file t.fresh) :: elsewhere place t.nodes
  bytes := fun i => if i = t.fresh then [] else t.bytes i
  fresh := t.fresh + 1
  numbered := by
    intro p id h
    simp only [List.mem_cons, Prod.mk.injEq, Node.file.injEq,
      mem_elsewhere] at h
    rcases h with ⟨_, rfl⟩ | ⟨h, _⟩
    · exact Nat.lt_succ_self _
    · exact Nat.lt_succ_of_lt (t.numbered p id h)
  single := by
    intro p q id hp hq
    simp only [List.mem_cons, Prod.mk.injEq, Node.file.injEq,
      mem_elsewhere] at hp hq
    rcases hp with ⟨rfl, rfl⟩ | ⟨hp, _⟩ <;> rcases hq with ⟨rfl, hid⟩ | ⟨hq, _⟩
    · rfl
    · exact absurd (t.numbered q _ hq) (Nat.lt_irrefl _)
    · exact absurd (hid ▸ t.numbered p id hp) (Nat.lt_irrefl _)
    · exact t.single p q id hp hq

/-- Moves a file from a place to another one, where nothing else is then. -/
def relocate (t : Tree) (here there : Place) (id : FileId)
    (h : (here, .file id) ∈ t.nodes) : Tree where
  home := t.home
  nodes := (there, .file id) :: elsewhere there (elsewhere here t.nodes)
  bytes := t.bytes
  fresh := t.fresh
  numbered := by
    intro p i hp
    simp only [List.mem_cons, Prod.mk.injEq, Node.file.injEq,
      mem_elsewhere] at hp
    rcases hp with ⟨_, rfl⟩ | ⟨⟨hp, _⟩, _⟩
    · exact t.numbered here i h
    · exact t.numbered p i hp
  single := by
    intro p q i hp hq
    simp only [List.mem_cons, Prod.mk.injEq, Node.file.injEq,
      mem_elsewhere] at hp hq
    rcases hp with ⟨rfl, rfl⟩ | ⟨⟨hp, hne⟩, _⟩ <;>
      rcases hq with ⟨rfl, hi⟩ | ⟨⟨hq, hne'⟩, _⟩
    · rfl
    · exact absurd (t.single q here i hq h) hne'
    · exact absurd (t.single p here i hp (hi ▸ h)) hne
    · exact t.single p q i hp hq

/-! ### Paths -/

def maxNameBytes : Nat := 255

def maxPathBytes : Nat := 4095

/-- Whether a path is short enough to be walked. -/
def fits (p : Path) : Bool :=
  p.text.utf8ByteSize ≤ maxPathBytes

def enter (t : Tree) (place : Place) (name : String) : Except Problem Place :=
  if name = ".." then .ok place.dropLast
  else if maxNameBytes < name.utf8ByteSize then .error .nameTooLong
  else
    match t.node? (place ++ [name]) with
    | none => .error .notFound
    | some (.file _) => .error .notDirectory
    | some .directory => .ok (place ++ [name])

def walk (t : Tree) (place : Place) : List String → Except Problem Place
  | [] => .ok place
  | name :: rest =>
    match t.enter place name with
    | .ok next => t.walk next rest
    | .error problem => .error problem

/-- Where a path begins. -/
def start (t : Tree) (p : Path) : Place :=
  if p.root = .relative then t.home else []

/-- Where the last name of a path leads: to a place in an existing directory, or
to a directory that the name does not name. -/
inductive Target where
  | place (place : Place)
  | unnamed
  deriving DecidableEq, Repr

/-- Follows a path up to its last name. -/
def target (t : Tree) (p : Path) : Except Problem Target :=
  if !fits p then .error .nameTooLong
  else
    match t.walk (t.start p) p.names.dropLast with
    | .error problem => .error problem
    | .ok directory =>
      match p.name? with
      | none => .ok .unnamed
      | some name =>
        if name = ".." then .ok .unnamed
        else if maxNameBytes < name.utf8ByteSize then .error .nameTooLong
        else .ok (.place (directory ++ [name]))

def content? (t : Tree) (p : Path) : Option (List UInt8) :=
  match t.target p with
  | .ok (.place place) => t.read? place
  | _ => none

/-! ### What the system does in one step -/

/-- Opens the file at a path for writing.  A file that is there loses its bytes;
one that is not there is made. -/
def openEmptied (t : Tree) (p : Path) : Except Problem (Tree × FileId) :=
  match t.target p with
  | .error problem => .error problem
  | .ok .unnamed => .error .isDirectory
  | .ok (.place place) =>
    match t.node? place with
    | some .directory => .error .isDirectory
    | some (.file id) => .ok (t.setBytes id [], id)
    | none => .ok (t.putFile place, t.fresh)

/-- Bytes with a chunk put over them from an offset on.  A gap before the chunk is
filled with zeros, and the bytes behind it stay.  No chunk leaves no trace. -/
def overlaid (bytes : List UInt8) (offset : Nat) (chunk : List UInt8) :
    List UInt8 :=
  if chunk.isEmpty then bytes
  else
    bytes.take offset ++ List.replicate (offset - bytes.length) 0 ++ chunk ++
      bytes.drop (offset + chunk.length)

/-- Writes a chunk to a file from an offset on. -/
def write (t : Tree) (id : FileId) (offset : Nat) (chunk : List UInt8) : Tree :=
  t.setBytes id (overlaid (t.bytes id) offset chunk)

def move (t : Tree) (source goal : Path) : Except Problem Tree :=
  match t.target source, t.target goal with
  | .error problem, _ => .error problem
  | _, .error problem => .error problem
  | .ok .unnamed, _ => .error .busy
  | _, .ok .unnamed => .error .busy
  | .ok (.place here), .ok (.place there) =>
    match h : t.node? here, t.node? there with
    | none, _ => .error .notFound
    | some .directory, _ => .error .isDirectory
    | _, some .directory => .error .isDirectory
    | some (.file id), _ =>
      .ok (t.relocate here there id (mem_nodes_of_node? h))

/-! ### Making and listing trees -/

/-- Makes a directory at a place, with the directories above it. -/
def addDirectory (t : Tree) (place : Place) : Tree :=
  (Place.way place).foldl
    (fun t above => if (t.node? above).isSome then t else t.putDirectory above)
    t

def addFile (t : Tree) (place : Place) (body : List UInt8) : Tree :=
  let above := t.addDirectory place.dropLast
  (above.putFile place).setBytes above.fresh body

/-- The place of a path, whether anything stands there or not. -/
def placeOf (t : Tree) (p : Path) : Place :=
  p.names.foldl (fun place name => if name = ".." then place.dropLast
    else place ++ [name]) (t.start p)

/-- What is listed for a node: its bytes, none for a directory. -/
def Node.listed (t : Tree) : Node → Option (List UInt8)
  | .directory => none
  | .file id => some (t.bytes id)

/-- Everything below home by its path from there, in the order of the paths. -/
def listing (t : Tree) : List (String × Option (List UInt8)) :=
  let below := t.nodes.filter fun e =>
    t.home.isPrefixOf e.1 && t.home.length < e.1.length
  let named := below.map fun e =>
    ("/".intercalate (e.1.drop t.home.length), Node.listed t e.2)
  named.mergeSort fun a b => decide (a.1 ≤ b.1)

end Tree

end CallRegistry.File
