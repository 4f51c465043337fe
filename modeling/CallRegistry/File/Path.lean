import CallRegistry.Text.Split

/-!
# Paths

A path is a root and a list of names.  Reading a path drops what says nothing:
repeated slashes, slashes at the end, and the name `.`; it keeps the name `..`,
and two slashes at the front if there are exactly two.  The path with no root
and no names is written as a point.
-/

namespace CallRegistry.File

/-- Where a path begins. -/
inductive Root where
  | relative
  | absolute
  /-- Two slashes, which some systems tell from one. -/
  | doubled
  deriving DecidableEq, Repr

def Root.text : Root → String
  | .relative => ""
  | .absolute => "/"
  | .doubled => "//"

structure Path where
  root : Root
  names : List String
  deriving DecidableEq, Repr

namespace Path

/-- The root that a text begins with. -/
def rootOf (cs : List Char) : Root :=
  match (cs.takeWhile (· = '/')).length with
  | 0 => .relative
  | 2 => .doubled
  | _ => .absolute

/-- Whether a piece of a text names something. -/
def isName (piece : List Char) : Bool :=
  !piece.isEmpty && piece != ['.']

def ofText (s : String) : Path where
  root := rootOf s.toList
  names := ((Text.pieces '/' s.toList).filter isName).map String.ofList

def text (p : Path) : String :=
  match p.root, p.names with
  | .relative, [] => "."
  | root, names => root.text ++ "/".intercalate names

def name? (p : Path) : Option String :=
  p.names.getLast?

/-- The path with a suffix behind its last name; none when it has no name. -/
def withSuffix? (p : Path) (suffix : String) : Option Path :=
  p.name?.map fun name =>
    { p with names := p.names.dropLast ++ [name ++ suffix] }

end Path

end CallRegistry.File
