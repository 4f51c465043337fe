import CallRegistry.Number.Shortest
import CallRegistry.Text.Quoted

/-!
# Untyped data

What comes from outside and has no type yet: responses of the table service,
values handed in by name, and the details of log entries.  The entries of a
map keep their order, because the first one decides how an attribute value is
read.  A map holds a name once.
-/

namespace CallRegistry

/-- A piece of data whose shape nothing has checked. -/
inductive Datum where
  | null
  | bool (value : Bool)
  | int (value : Int)
  | real (value : Binary64)
  | text (value : String)
  | bytes (value : List UInt8)
  | list (elements : List Datum)
  | map (entries : List (String × Datum))
  deriving Inhabited, Repr

namespace Datum

/-- The word for the kind of a datum in messages. -/
def kindName : Datum → String
  | null => "NoneType"
  | bool _ => "bool"
  | int _ => "int"
  | real _ => "float"
  | text _ => "str"
  | bytes _ => "bytes"
  | list _ => "list"
  | map _ => "dict"

/-- Whether a datum counts as nothing: null, false, zero, or empty. -/
def isVoid : Datum → Bool
  | null => true
  | bool b => !b
  | int i => i == 0
  | real x => x.isZero
  | text s => s == ""
  | bytes b => b.isEmpty
  | list xs => xs.isEmpty
  | map es => es.isEmpty

def text? : Datum → Option String
  | text s => some s
  | _ => none

def get? (d : Datum) (name : String) : Option Datum :=
  match d with
  | map es => es.lookup name
  | _ => none

/-- The members a datum offers one after another: the characters of a text, the
numbers of a byte string, the elements of a list, the names of a map. -/
def members? : Datum → Option (List Datum)
  | text s => some (s.toList.map fun c => text (String.singleton c))
  | bytes b => some (b.map fun x => int x.toNat)
  | list xs => some xs
  | map es => some (es.map fun e => text e.1)
  | _ => none

mutual

/-- A datum as it is written inside another one. -/
def written : Datum → String
  | null => "None"
  | bool b => if b then "True" else "False"
  | int i => toString i
  | real x => x.text
  | text s => Text.quoted s
  | bytes b => "b" ++ Text.quotedBytes b
  | list xs => "[" ++ ", ".intercalate (writtenAll xs) ++ "]"
  | map es => "\x7b" ++ ", ".intercalate (writtenEntries es) ++ "\x7d"

def writtenAll : List Datum → List String
  | [] => []
  | x :: rest => written x :: writtenAll rest

/-- The entries of a map, each as it is written. -/
def writtenEntries : List (String × Datum) → List String
  | [] => []
  | (name, x) :: rest =>
    (Text.quoted name ++ ": " ++ written x) :: writtenEntries rest

end

/-- A datum as part of a message: a text stands for itself. -/
def display : Datum → String
  | text s => s
  | d => d.written

/-- A text, or null for none. -/
def ofText? : Option String → Datum
  | some s => text s
  | none => null

/-! ### Equality -/

mutual

def same : Datum → Datum → Bool
  | null, null => true
  | bool a, bool b => a == b
  | int a, int b => a == b
  | real a, real b => a == b
  | text a, text b => a == b
  | bytes a, bytes b => a == b
  | list xs, list ys => sameAll xs ys
  | map es, map fs => sameEntries es fs
  | _, _ => false

def sameAll : List Datum → List Datum → Bool
  | [], [] => true
  | x :: xs, y :: ys => same x y && sameAll xs ys
  | _, _ => false

/-- Whether the entries of two maps are the same, in the same order. -/
def sameEntries : List (String × Datum) → List (String × Datum) → Bool
  | [], [] => true
  | (a, x) :: es, (b, y) :: fs => a == b && same x y && sameEntries es fs
  | _, _ => false

end

mutual

theorem eq_of_same : ∀ {a b : Datum}, same a b = true → a = b
  | null, null, _ => rfl
  | bool _, bool _, h | int _, int _, h | real _, real _, h
  | text _, text _, h | bytes _, bytes _, h => by simpa [same] using h
  | list _, list _, h => congrArg list (eq_of_sameAll (by simpa [same] using h))
  | map _, map _, h => congrArg map (eq_of_sameEntries (by simpa [same] using h))

theorem eq_of_sameAll : ∀ {xs ys : List Datum}, sameAll xs ys = true → xs = ys
  | [], [], _ => rfl
  | x :: xs, y :: ys, h => by
    simp only [sameAll, Bool.and_eq_true] at h
    rw [eq_of_same h.1, eq_of_sameAll h.2]

theorem eq_of_sameEntries : ∀ {es fs : List (String × Datum)},
    sameEntries es fs = true → es = fs
  | [], [], _ => rfl
  | (a, x) :: es, (b, y) :: fs, h => by
    simp only [sameEntries, Bool.and_eq_true, beq_iff_eq] at h
    rw [h.1.1, eq_of_same h.1.2, eq_of_sameEntries h.2]

end

mutual

theorem same_self : ∀ a : Datum, same a a = true
  | null => rfl
  | bool _ | int _ | real _ | text _ | bytes _ => by simp [same]
  | list xs => by rw [same, sameAll_self xs]
  | map es => by rw [same, sameEntries_self es]

theorem sameAll_self : ∀ xs : List Datum, sameAll xs xs = true
  | [] => rfl
  | x :: xs => by rw [sameAll, same_self x, sameAll_self xs]; rfl

theorem sameEntries_self : ∀ es : List (String × Datum), sameEntries es es = true
  | [] => rfl
  | (_, x) :: es => by
    rw [sameEntries, same_self x, sameEntries_self es, beq_self_eq_true]; rfl

end

instance : DecidableEq Datum := fun a b =>
  if h : same a b = true then isTrue (eq_of_same h)
  else isFalse fun e => h (e ▸ same_self a)

end Datum

end CallRegistry
