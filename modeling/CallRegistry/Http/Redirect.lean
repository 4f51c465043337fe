import CallRegistry.Http.Url

/-!
# Where a redirection leads

A response may name another address to go on with, in full or by what differs from
the address that was asked for.  Although nothing here goes on with it, the address
is worked out, and a response that leads to no proper one is a failure.  The hosts
of the two addresses are compared, for which they are read back as names of all
scripts.
-/

namespace CallRegistry.Http

inductive RedirectFault where
  | address (fault : UrlFault)
  /-- A host that cannot be read back. -/
  | host (fault : Domain.LabelFault)
  deriving DecidableEq, Repr

def RedirectFault.message : RedirectFault → String
  | .address fault => fault.message
  | .host fault => fault.message

namespace Url

/-- Goes along the names of a path: `.` stays where it is and `..` takes back the
name before it. -/
def walked (names : List (List Char)) : List (List Char) :=
  names.foldl (fun kept name =>
    if name = ['.', '.'] then kept.dropLast
    else if name = ['.'] then kept
    else kept ++ [name]) []

/-- The path that a relative path leads to from another one, whose last name it
takes the place of. -/
def joinedPath (start relative : List Char) : List Char :=
  let names := Text.pieces '/' start
  let names := if names.getLast? = some [] then names else names.dropLast
  let joined := names ++ Text.pieces '/' relative
  let names :=
    if relative.head? = some '/' then Text.pieces '/' relative
    else
      joined.take 1 ++ ((joined.drop 1).dropLast.filter (!·.isEmpty)) ++
        (joined.drop 1).getLast?.toList
  let last := names.getLast?.getD []
  let rest := if last = ['.'] ∨ last = ['.', '.'] then [[]] else []
  let path := ['/'].intercalate (walked names ++ rest)
  if path.isEmpty then ['/'] else path

def joinedText (u relative : Url) : String :=
  if relative.text = "" then u.text
  else
    let hasAuthority := relative.authority != ""
    let path :=
      if hasAuthority then relative.path
      else if relative.path = "" then u.path
      else String.ofList (joinedPath u.path.toList relative.path.toList)
    let path :=
      if path = "" ∨ path.toList.head? = some '/' then path else "/" ++ path
    let query := relative.query.filter (· ≠ "")
    let query :=
      if hasAuthority ∨ relative.path ≠ "" ∨ query.isSome then query
      else u.query.filter (· ≠ "")
    u.scheme ++ "://" ++
      (if hasAuthority then relative.authority else u.authority) ++ path ++
      (match query with
        | some q => "?" ++ q
        | none => "") ++
      (match relative.fragment.filter (· ≠ "") with
        | some f => "#" ++ f
        | none => "")

def longPart? (u : Url) : Option UrlFault :=
  let parts :=
    [("scheme", u.scheme), ("authority", u.authority), ("path", u.path),
      ("query", u.query.getD ""), ("fragment", u.fragment.getD "")]
  (parts.find? fun p => maxLength < p.2.length).map fun p => .longPart p.1

def fragmentFault? (fragment : String) : Option UrlFault :=
  let name := "fragment"
  let cs := Text.decodeLossy (unescaped fragment.toList)
  if maxLength < cs.length then some (.longPart name)
  else
    (cs.find? isControl).map fun c =>
      .unprintablePart name c (cs.takeWhile fun d => !isControl d).length

/-- The fault of an address that a redirection from another one leads to.  It takes
the host from there if it only has a scheme, and everything else but the fragment
if it has none. -/
def goalFault? (u goal : Url) : Option UrlFault :=
  if goal.scheme ≠ "" ∧ goal.host = "" then
    match goal.longPart? with
    | some fault => some fault
    | none =>
      if goal.path = "" ∨ goal.path.toList.head? = some '/' then none
      else some .path
  else if goal.isComplete then none
  else if maxLength < (u.joinedText goal).length then some .tooLong
  else none

/-- What is wrong with the fragment of an address, which goes along to another one
that has none of its own. -/
def handedFault? (u goal : Url) : Option UrlFault :=
  let own := goal.fragment.getD ""
  match u.fragment with
  | some fragment =>
    -- an empty address leads back to the one before, with its fragment
    if fragment = "" ∨ own ≠ "" ∨ goal.text = "" then none
    else
      match if goal.isComplete then goal.longPart? else none with
      | some fault => some fault
      | none => fragmentFault? fragment
  | none => none

/-- What keeps the host of an address from being read back.  A host is taken for an
encoded name if its first label is encoded. -/
def hostFault? (u : Url) : Option RedirectFault :=
  if Domain.mark.isPrefixOf u.host.toList then
    (Domain.readingFault? u.host.toList).map .host
  else none

/-- What is wrong with where a redirection leads.  Hosts are read as soon as they
are needed: that of the goal to see whether it has one, that of the address before
to take its place, and both in the end. -/
def redirectFault? (u goal : Url) : Option RedirectFault :=
  let early :=
    if goal.scheme = "" then none
    else if goal.host = "" then u.hostFault?
    else goal.hostFault?
  early
    |>.or ((u.goalFault? goal).map .address)
    |>.or ((u.handedFault? goal).map .address)
    |>.or goal.hostFault?
    |>.or u.hostFault?

end Url

end CallRegistry.Http
