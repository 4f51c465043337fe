import CallRegistry.Text.Blank
import CallRegistry.Text.Utf8

/-!
# Settings files

A settings file holds one binding a line, `NAME=value`.  The line may begin
with `export`; a `#` begins a comment; the name may stand in single quotes.  A
value in quotes may go over several lines, and has escapes that depend on the
quote; any other value ends at the line, or at blanks before a `#`.  A line of
any other form is passed over.  A name without `=` is bound to nothing.

References to other bindings, `${NAME}` and `${NAME:-default}`, are replaced
afterwards: in a value stands what was bound before it in the file, else what
the environment holds, else the default.

The text is a list of characters whose lines end in line feeds.
-/

namespace CallRegistry.Settings.File

abbrev Binding := String × Option String

def isInnerBlank (c : Char) : Bool :=
  Text.isBlank c && c != '\n' && c != '\r'

def skipBlanks (cs : List Char) : List Char :=
  cs.dropWhile isInnerBlank

def isInLine (c : Char) : Bool :=
  c != '\n' && c != '\r'

/-- The text after the rest of a line and its end. -/
def skipLine (cs : List Char) : List Char :=
  (cs.dropWhile isInLine).drop 1

/-- The text after the word `export`, when blanks follow it. -/
def skipExport (cs : List Char) : List Char :=
  let word := "export".toList
  let rest := cs.drop word.length
  if cs.take word.length = word ∧ (rest.head?.map isInnerBlank) = some true then
    skipBlanks rest
  else
    cs

/-- The text up to the quote that ends it, and what follows.  A backslash belongs
together with the character behind it, which ends nothing. -/
def quotedText? (quote : Char) : List Char → Option (List Char × List Char)
  | [] => none
  | '\\' :: c :: rest =>
    (quotedText? quote rest).map fun (inside, after) =>
      ('\\' :: c :: inside, after)
  | c :: rest =>
    if c = quote then some ([], rest)
    else if c = '\\' then none
    else
      (quotedText? quote rest).map fun (inside, after) => (c :: inside, after)

def singleEscape? : Char → Option Char
  | '\\' => some '\\'
  | '\'' => some '\''
  | _ => none

def doubleEscape? : Char → Option Char
  | '\\' => some '\\'
  | '\'' => some '\''
  | '"' => some '"'
  | 'a' => some '\x07'
  | 'b' => some '\x08'
  | 'f' => some '\x0c'
  | 'n' => some '\n'
  | 'r' => some '\r'
  | 't' => some '\t'
  | 'v' => some '\x0b'
  | _ => none

/-- The text with its escapes replaced; a backslash before any other character
stands for itself. -/
def unescape (escape? : Char → Option Char) : List Char → List Char
  | [] => []
  | '\\' :: c :: rest =>
    match escape? c with
    | some d => d :: unescape escape? rest
    | none => '\\' :: unescape escape? (c :: rest)
  | c :: rest => c :: unescape escape? rest

/-- The text before the first blanks that a `#` follows. -/
def beforeComment : List Char → List Char
  | [] => []
  | c :: rest =>
    if Text.isBlank c ∧ ((c :: rest).dropWhile Text.isBlank).head? = some '#'
    then []
    else c :: beforeComment rest

def plainValue (cs : List Char) : List Char × List Char :=
  (Text.trimEndBy Text.isBlank (beforeComment (cs.takeWhile isInLine)),
    cs.dropWhile isInLine)

def value? (cs : List Char) : Option (List Char × List Char) :=
  match skipBlanks cs with
  | '\'' :: rest =>
    (quotedText? '\'' rest).map fun (inside, after) =>
      (unescape singleEscape? inside, after)
  | '"' :: rest =>
    (quotedText? '"' rest).map fun (inside, after) =>
      (unescape doubleEscape? inside, after)
  | '#' :: rest =>
    -- a comment, when blanks stand before it
    if cs.head? = some '#' then some (plainValue ('#' :: rest))
    else some ([], '#' :: rest)
  | rest => some (plainValue rest)

def isNameChar (c : Char) : Bool :=
  c != '=' && c != '#' && !Text.isBlank c

def name? (cs : List Char) : Option (Option (List Char) × List Char) :=
  match cs with
  | '#' :: _ => some (none, cs)
  | '\'' :: rest =>
    let inside := rest.takeWhile (· ≠ '\'')
    let after := rest.dropWhile (· ≠ '\'')
    if inside.isEmpty ∨ after.isEmpty then none
    else some (some inside, after.drop 1)
  | _ =>
    let name := cs.takeWhile isNameChar
    if name.isEmpty then none else some (some name, cs.dropWhile isNameChar)

/-- What follows a comment and the end of its line; none when anything else
stands in the line. -/
def endOfLine? (cs : List Char) : Option (List Char) :=
  let rest := skipBlanks cs
  let rest := if rest.head? = some '#' then rest.dropWhile isInLine else rest
  match rest with
  | [] => some []
  | c :: after => if isInLine c then none else some after

/-- The binding at the head of the text, if the line has one, and the text
after it.  Where the line goes wrong, what is left of it is passed over. -/
def binding (cs : List Char) : Option Binding × List Char :=
  let start := skipExport (cs.dropWhile Text.isBlank)
  match name? start with
  | none => (none, skipLine start)
  | some (name, rest) =>
    let rest := skipBlanks rest
    match rest with
    | '=' :: behind =>
      match value? behind with
      | none => (none, skipLine (skipBlanks behind))
      | some (value, after) =>
        match endOfLine? after with
        | some next =>
          (name.map fun n => (String.ofList n, some (String.ofList value)), next)
        | none => (none, skipLine after)
    | rest =>
      match endOfLine? rest with
      | some next => (name.map fun n => (String.ofList n, none), next)
      | none => (none, skipLine rest)

/-- The bindings of a text, line after line; `length` bounds their number. -/
def bindingsUpTo : Nat → List Char → List Binding
  | 0, _ => []
  | length + 1, cs =>
    if cs.isEmpty then []
    else
      let (found, rest) := binding cs
      found.toList ++ bindingsUpTo length rest

def bindings (cs : List Char) : List Binding :=
  bindingsUpTo cs.length cs

/-- A reference at the head of a text: the name, the default, and what
follows. -/
def reference? : List Char → Option (String × Option String × List Char)
  | '$' :: '\x7b' :: rest =>
    let name := rest.takeWhile fun c => c ≠ '\x7d' ∧ c ≠ ':'
    let after := rest.dropWhile fun c => c ≠ '\x7d' ∧ c ≠ ':'
    match after with
    | '\x7d' :: tail => some (String.ofList name, none, tail)
    | ':' :: '-' :: body =>
      let fallback := body.takeWhile (· ≠ '\x7d')
      match body.dropWhile (· ≠ '\x7d') with
      | '\x7d' :: tail =>
        some (String.ofList name, some (String.ofList fallback), tail)
      | _ => none
    | _ => none
  | _ => none

def resolve (bound : List Binding) (name : String) (fallback : Option String) :
    List Char :=
  match bound.lookup name with
  | some (some value) => value.toList
  | some none => []
  | none => (fallback.getD "").toList

/-- The text with its references replaced; `length` bounds its characters. -/
def expandUpTo (bound : List Binding) : Nat → List Char → List Char
  | 0, _ => []
  | _, [] => []
  | length + 1, c :: rest =>
    match reference? (c :: rest) with
    | some (name, fallback, tail) =>
      resolve bound name fallback ++ expandUpTo bound length tail
    | none => c :: expandUpTo bound length rest

def expand (bound : List Binding) (value : String) : String :=
  String.ofList (expandUpTo bound value.length value.toList)

/-- Binds a name anew: it keeps its place if it was bound before. -/
def rebind (bound : List Binding) (b : Binding) : List Binding :=
  if bound.any (·.1 == b.1) then
    bound.map fun e => if e.1 == b.1 then b else e
  else
    bound ++ [b]

/-- Replaces the references in every value, from the first binding to the
last; the later of two bindings of a name wins. -/
def resolveAll (environment : List (String × String)) (bs : List Binding) :
    List Binding :=
  let outer : List Binding := environment.map fun e => (e.1, some e.2)
  bs.foldl (fun bound b => rebind bound (b.1, b.2.map (expand (bound ++ outer))))
    []

/-- The text of a file: a mark of the byte order at its head is no part of it,
and every line ends in a line feed. -/
def textOf (bytes : List UInt8) : Except Text.Utf8Fault (List Char) :=
  (Text.decodeUtf8 bytes).map fun cs =>
    Text.unifyLineEnds (if cs.head? = some '\ufeff' then cs.drop 1 else cs)

/-- The bindings that a settings file gives. -/
def read (environment : List (String × String)) (bytes : List UInt8) :
    Except Text.Utf8Fault (List Binding) :=
  (textOf bytes).map fun cs => resolveAll environment (bindings cs)

end CallRegistry.Settings.File
