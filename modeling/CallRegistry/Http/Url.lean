import CallRegistry.Domain.Name
import CallRegistry.Http.Host
import CallRegistry.Text.Case
import CallRegistry.Text.Numeral
import CallRegistry.Text.Quoted
import CallRegistry.Text.Utf8

/-!
# Addresses of web resources

An address is read into its parts and written again in its normal form: the
scheme and a host name in lower case, a host name of another script as it goes
out, no port where it is the scheme's own, no `.` and `..` in the path, and
percent escapes for the characters that a part does not admit.  Escapes that stand
in the text are kept as they are.
-/

namespace CallRegistry.Http

inductive UrlFault where
  | tooLong
  /-- A control character, and where it stands. -/
  | unprintable (c : Char) (position : Nat)
  | port (text : String)
  | fourNumbers (host : String)
  | groups (host : String)
  /-- A host name with a label that is no proper one. -/
  | hostName (host : String)
  /-- A path that does not begin with a slash behind a host. -/
  | path
  /-- A path of an address without a host that would be read as one. -/
  | doubleSlash
  | colon
  /-- A part that is too long once its escapes are in place. -/
  | longPart (name : String)
  /-- A control character in a part that was handed on, and where it stands. -/
  | unprintablePart (name : String) (c : Char) (position : Nat)
  deriving DecidableEq, Repr

def UrlFault.message : UrlFault → String
  | .tooLong => "URL too long"
  | .unprintable c position =>
    "Invalid non-printable ASCII character in URL, " ++
      Text.quoted (String.singleton c) ++ " at position " ++
      toString position ++ "."
  | .port text => "Invalid port: " ++ Text.quoted text
  | .fourNumbers host => "Invalid IPv4 address: " ++ Text.quoted host
  | .groups host => "Invalid IPv6 address: " ++ Text.quoted host
  | .hostName host => "Invalid IDNA hostname: " ++ Text.quoted host
  | .path => "For absolute URLs, path must be empty or begin with '/'"
  | .doubleSlash => "Relative URLs cannot have a path starting with '//'"
  | .colon => "Relative URLs cannot have a path starting with ':'"
  | .longPart name => "URL component '" ++ name ++ "' too long"
  | .unprintablePart name c position =>
    "Invalid non-printable ASCII character in URL " ++ name ++
      " component, " ++ Text.quoted (String.singleton c) ++ " at position " ++
      toString position ++ "."

/-- An address by its parts, in normal form. -/
structure Url where
  scheme : String
  user : String
  host : String
  port : Option Int
  path : String
  query : Option String
  fragment : Option String
  deriving DecidableEq, Repr

namespace Url

/-! ### Cutting a text into parts -/

/-- The parts of a text, before anything is checked. -/
structure Parts where
  scheme : List Char
  user : List Char
  host : List Char
  port : List Char
  path : List Char
  query : Option (List Char)
  fragment : Option (List Char)

/-- Whether a character may stand in a scheme behind its first letter. -/
def isSchemeChar (c : Char) : Bool :=
  c.isAlphanum || c == '+' || c == '.' || c == '-'

def cutScheme (cs : List Char) : List Char × List Char :=
  let scheme :=
    if cs.head?.any Char.isAlpha then cs.takeWhile isSchemeChar else []
  match cs.drop scheme.length with
  | ':' :: rest => (scheme, rest)
  | _ => ([], cs)

/-- What stands between two slashes and the path, and what follows. -/
def cutAuthority : List Char → List Char × List Char
  | '/' :: '/' :: rest =>
    let isInside (c : Char) := c != '/' && c != '?' && c != '#'
    (rest.takeWhile isInside, rest.dropWhile isInside)
  | cs => ([], cs)

/-- What stands before the last occurrence of a character, and what follows it;
none when the character does not occur. -/
def cutAtLast (mark : Char) (cs : List Char) :
    Option (List Char × List Char) :=
  let back := cs.reverse
  if mark ∈ cs then
    some (((back.dropWhile (· ≠ mark)).drop 1).reverse,
      (back.takeWhile (· ≠ mark)).reverse)
  else
    none

/-- The host and the port of an authority without its user. -/
def cutHost (cs : List Char) : List Char × List Char :=
  let bracketed :=
    if cs.head? = some '[' then
      (cutAtLast ']' cs).map fun (inside, rest) => (inside ++ [']'], rest)
    else none
  let (host, rest) :=
    match bracketed with
    | some cut => cut
    | none => (cs.takeWhile (· ≠ ':'), cs.dropWhile (· ≠ ':'))
  match rest with
  | ':' :: port => (host, port)
  | port => (host, port)

def cut (cs : List Char) : Parts :=
  let (scheme, rest) := cutScheme cs
  let (authority, rest) := cutAuthority rest
  let (user, authority) := (cutAtLast '@' authority).getD ([], authority)
  let (host, port) := cutHost authority
  let isInPath (c : Char) := c != '?' && c != '#'
  let path := rest.takeWhile isInPath
  let rest := rest.dropWhile isInPath
  let (query, rest) :=
    match rest with
    | '?' :: rest => (some (rest.takeWhile (· ≠ '#')), rest.dropWhile (· ≠ '#'))
    | rest => (none, rest)
  let fragment :=
    match rest with
    | '#' :: rest => some rest
    | _ => none
  { scheme, user, host, port, path, query, fragment }

/-! ### Escapes -/

def percent (b : UInt8) : List Char :=
  '%' :: (Text.hexDigits 2 b.toNat).map Char.toUpper

/-- A character as it may stand in a part: escaped unless it is admitted. -/
def escaped (admits : Char → Bool) (c : Char) : List Char :=
  if admits c then [c]
  else (Text.encodeUtf8 (String.singleton c)).flatMap percent

/-- The text with escapes for what a part does not admit; escapes that are there
already stay. -/
def escape (admits : Char → Bool) : List Char → List Char
  | [] => []
  | '%' :: a :: b :: rest =>
    if (Text.hexValue? a).isSome && (Text.hexValue? b).isSome then
      '%' :: a :: b :: escape admits rest
    else
      escaped admits '%' ++ escape admits (a :: b :: rest)
  | c :: rest => escaped admits c ++ escape admits rest

/-- The bytes of a text whose escapes stand for bytes. -/
def unescaped : List Char → List UInt8
  | [] => []
  | '%' :: a :: b :: rest =>
    match Text.hexValue? a, Text.hexValue? b with
    | some x, some y => UInt8.ofNat (16 * x + y) :: unescaped rest
    | _, _ => 0x25 :: unescaped (a :: b :: rest)
  | c :: rest => Text.encodeUtf8 (String.singleton c) ++ unescaped rest

/-- Whether a character is printable ASCII and none of the given ones. -/
def printableBut (refused : String) (c : Char) : Bool :=
  0x20 ≤ c.toNat && c.toNat < 0x7f && !refused.toList.contains c

def inFragment : Char → Bool := printableBut " \"<>\x60"

def inQuery : Char → Bool := printableBut " \"#<>"

def inPath : Char → Bool := printableBut " \"#<>?\x60\x7b\x7d"

def inUser : Char → Bool := printableBut " \"#<>?\x60\x7b\x7d/;=@[\\]^|"

def inHost (c : Char) : Bool :=
  c.isAlphanum || "-._~!$&'()*+,;=\"\x60\x7b\x7d%|\\".toList.contains c

/-! ### Checking the parts -/

def readHost (cs : List Char) : Except UrlFault (List Char) :=
  if looksLikeFour cs then
    if isFour cs then .ok cs else .error (.fourNumbers (String.ofList cs))
  else if looksLikeGroups cs then
    let inside := (cs.drop 1).dropLast
    if isGroups inside then .ok inside
    else .error (.groups (String.ofList cs))
  else if cs.all (·.toNat < 0x80) then
    .ok (escape inHost (cs.map Char.toLower))
  else
    match Domain.encoded? (Text.lower (String.ofList cs)).toList with
    | some name => .ok name
    | none => .error (.hostName (String.ofList cs))

/-- The port that a scheme uses when none is given. -/
def ownPort? (scheme : String) : Option Int :=
  [("ftp", 21), ("http", 80), ("https", 443), ("ws", 80), ("wss", 443)].lookup
    scheme

def maxPortDigits : Nat := 4300

/-- The integer that a text writes, with digits of any script. -/
def readInteger? (cs : List Char) : Option Int :=
  let plain (c : Char) : Char :=
    match Text.decimalDigit? c with
    | some d => Char.ofNat (0x30 + d)
    | none => c
  let digits := (Text.trim cs).map plain
  if maxPortDigits < (digits.filter Char.isDigit).length then none
  else Numeral.integer? digits

/-- The port of an address: none when it is the scheme's own. -/
def readPort (scheme : String) (cs : List Char) :
    Except UrlFault (Option Int) :=
  if cs.isEmpty then .ok none
  else
    match readInteger? cs with
    | none => .error (.port (String.ofList cs))
    | some n => .ok (if ownPort? scheme = some n then none else some n)

/-- The path without the names `.` and `..`; the latter takes back the name
before it. -/
def withoutDots (cs : List Char) : List Char :=
  let parts := Text.pieces '/' cs
  if parts.contains ['.'] || parts.contains ['.', '.'] then
    let kept := parts.foldl (fun kept part =>
      if part = ['.'] then kept
      else if part = ['.', '.'] then
        if kept = [[]] then kept else kept.dropLast
      else kept ++ [part]) []
    ['/'].intercalate kept
  else
    cs

def readPath (hasScheme hasAuthority : Bool) (cs : List Char) :
    Except UrlFault (List Char) :=
  if hasAuthority && !cs.isEmpty && cs.head? != some '/' then .error .path
  else if !hasScheme && !hasAuthority && cs.take 2 == ['/', '/'] then
    .error .doubleSlash
  else if !hasScheme && !hasAuthority && cs.head? == some ':' then
    .error .colon
  else if hasScheme || hasAuthority then .ok (withoutDots cs)
  else .ok cs

def maxLength : Nat := 65536

def isControl (c : Char) : Bool :=
  c.toNat < 0x20 || c.toNat == 0x7f

def parse (s : String) : Except UrlFault Url := do
  let cs := s.toList
  if maxLength < cs.length then throw .tooLong
  match cs.find? isControl with
  | some c =>
    throw (.unprintable c (cs.takeWhile fun d => !isControl d).length)
  | none => pure ()
  let parts := cut cs
  let scheme := String.ofList parts.scheme
  let user := escape inUser parts.user
  let host ← readHost parts.host
  let port ← readPort scheme parts.port
  let hasAuthority := !user.isEmpty || !host.isEmpty || port.isSome
  let path ← readPath (!parts.scheme.isEmpty) hasAuthority parts.path
  return {
    scheme := String.ofList (parts.scheme.map Char.toLower)
    user := String.ofList user
    host := String.ofList host
    port
    path := String.ofList (escape inPath path)
    query := parts.query.map fun q => String.ofList (escape inQuery q)
    fragment := parts.fragment.map fun f => String.ofList (escape inFragment f) }

/-! ### Writing an address -/

/-- The part of an address between its slashes. -/
def authority (u : Url) : String :=
  (if u.user = "" then "" else u.user ++ "@") ++
  (if ':' ∈ u.host.toList then "[" ++ u.host ++ "]" else u.host) ++
  (match u.port with
    | some n => ":" ++ toString n
    | none => "")

def text (u : Url) : String :=
  (if u.scheme = "" then "" else u.scheme ++ ":") ++
  (if u.authority = "" then "" else "//" ++ u.authority) ++
  u.path ++
  (match u.query with
    | some q => "?" ++ q
    | none => "") ++
  (match u.fragment with
    | some f => "#" ++ f
    | none => "")

/-- Whether the address says by itself where to go. -/
def isComplete (u : Url) : Bool :=
  u.scheme != "" && u.host != ""

end Url

end CallRegistry.Http
