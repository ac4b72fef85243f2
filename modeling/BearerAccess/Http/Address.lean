import BearerAccess.Failure
import BearerAccess.Http.NumericHost
import BearerAccess.Text.Percent

/-!
# Addresses of web resources

An address has a scheme, an authority, a path, a query and a fragment, all of which may be missing.
Any text is an address, unless what should be its authority cannot be one. An address as it is
written by people has a form in ASCII.
-/

namespace BearerAccess

/-- The address of a web resource. -/
structure Address where
  scheme : Text := []
  authority : Text := []
  path : Text := []
  query : Text := []
  fragment : Text := []
  deriving DecidableEq, Repr

namespace Address

def isStray (p : CodePoint) : Bool := p.is '\t' || p.is '\r' || p.is '\n'

def isSchemePoint (p : CodePoint) : Bool :=
  p.toChar?.any fun c => c.isAlphanum || c = '+' || c = '-' || c = '.'

def cutAt (marks : List Char) (t : Text) : Text × Text :=
  t.spanWhile fun p => !marks.any p.is

def takeScheme (t : Text) : Text × Text :=
  match t.splitAtFirst? ':' with
  | some (first :: more, rest) =>
    if first.toChar?.any Char.isAlpha && more.all isSchemePoint then
      (Text.lowerCase (first :: more), rest)
    else ([], t)
  | _ => ([], t)

def takeAuthority (t : Text) : Text × Text :=
  match t with
  | p :: q :: rest => if p.is '/' && q.is '/' then cutAt ['/', '?', '#'] rest else ([], t)
  | _ => ([], t)

/-- What follows the first occurrence of a mark, and what stands before it. -/
def takeEnd (mark : Char) (t : Text) : Text × Text :=
  match t.splitAtFirst? mark with
  | some (before, after) => (after, before)
  | none => ([], t)

def checkBracketed (host : Text) : Except AddressProblem Unit :=
  if host.head?.any (·.is 'v') then
    if NumericHost.isFuture host then .ok () else .error .futureVersion
  else if NumericHost.isDotted host then .error .bracketedShort
  else if NumericHost.isZoned host then .ok ()
  else .error (.notNumeric host)

def checkBrackets (authority : Text) : Except AddressProblem Unit :=
  match authority.splitAtFirst? '[', authority.any (·.is ']') with
  | none, false => .ok ()
  | some (_, inside), true => checkBracketed (inside.takeWhile (! ·.is ']'))
  | _, _ => .error .brackets

/-- The code points that stand for others among which is one that divides addresses. -/
def dividing : List Nat :=
  [0x2047, 0x2048, 0x2049, 0x2100, 0x2101, 0x2105, 0x2106, 0x2A74, 0xFE13, 0xFE16, 0xFE55, 0xFE56,
   0xFE5F, 0xFE6B, 0xFF03, 0xFF0F, 0xFF1A, 0xFF1F, 0xFF20]

/-- Takes an address apart. White space and controls in front do not count. -/
def split (t : Text) : Except AddressProblem Address := do
  let t : Text := (t.dropWhile fun p => p.val ≤ 0x20).filter (!isStray ·)
  let (scheme, rest) := takeScheme t
  let (authority, rest) := takeAuthority rest
  checkBrackets authority
  let (fragment, rest) := takeEnd '#' rest
  let (query, path) := takeEnd '?' rest
  if authority.any (·.val ∈ dividing) then throw (.dividing authority)
  return { scheme, authority, path, query, fragment }

def hostPart (authority : Text) : Text := (authority.splitAtLast? '@').elim authority (·.2)

def writtenHost (authority : Text) : Text :=
  match (hostPart authority).splitAtFirst? '[' with
  | some (_, inside) => inside.takeWhile (! ·.is ']')
  | none => (hostPart authority).takeWhile (! ·.is ':')

/-- The host of an authority in small letters. A zone stays as it is. -/
def host (authority : Text) : Text :=
  let (name, zone) := (writtenHost authority).spanWhile (! ·.is '%')
  name.lowerCase ++ zone

def writtenPort (authority : Text) : Text :=
  let after (t : Text) : Text := (t.splitAtFirst? ':').elim [] (·.2)
  match (hostPart authority).splitAtFirst? '[' with
  | some (_, inside) => after ((inside.splitAtFirst? ']').elim [] (·.2))
  | none => after (hostPart authority)

def portLimit : Nat := 65535

/-- The port of an authority; without one it is zero. -/
def port (authority : Text) : Except Failure Nat :=
  let digits := writtenPort authority
  if digits = [] then .ok 0
  else if !digits.all NumericHost.isDigit then .error (Cause.address (.notPort digits))
  else if maxIntegerDigits < digits.length then
    .error (Cause.setting (.tooManyDigits digits.length))
  else if portLimit < NumericHost.decimalValue digits then .error (Cause.address .portRange)
  else .ok (NumericHost.decimalValue digits)

def user (authority : Text) : Text × Text :=
  match authority.splitAtLast? '@' with
  | none => ([], [])
  | some (given, _) => (given.splitAtFirst? ':').getD (given, [])

/-- A part of an address, with escapes for all but unreserved and the given safe characters. -/
def escapedPart (safe : String) (t : Text) : Except Failure Text :=
  t.encoded.map fun s => percentEncoded safe.toList s

def asciiAuthority (authority : Text) : Except Failure Text := do
  let name ← match DomainName.encode (host authority) with
    | .ok name => pure name
    | .error problem => fail (.address (.host problem))
  let name : Text := if name.any (·.is ':') then "[" ++ name ++ "]" else name
  let number ← port authority
  let place : Text := name ++ if number = 0 then [] else Text.ofString s!":{number}"
  let (given, password) := user authority
  if given = [] then return place
  let given ← escapedPart "%!$&'()*+,;=" given
  let password ← escapedPart "%!$&'()*+,;=" password
  let secret : Text := if password = [] then [] else ":" ++ password
  return given ++ secret ++ "@" ++ place

def ascii (a : Address) : Except Failure Address := do
  let path ← escapedPart "%!$&'()*+,/:;=@" a.path
  let query ← escapedPart "%!$&'()*+,/:;=?@" a.query
  let fragment ← escapedPart "%!#$&'()*+,/:;=?@" a.fragment
  let authority ← asciiAuthority a.authority
  return { a with authority, path, query, fragment }

def schemesWithAuthority : List String :=
  ["ftp", "http", "gopher", "nntp", "telnet", "imap", "wais", "file", "mms", "https", "shttp",
   "snews", "prospero", "rtsp", "rtsps", "rtspu", "rsync", "svn", "svn+ssh", "sftp", "nfs", "git",
   "git+ssh", "ws", "wss"]

def showsAuthority (a : Address) : Bool :=
  a.authority ≠ [] || schemesWithAuthority.any (Text.ofString · = a.scheme) ||
    (Text.ofString "//").isPrefixOf a.path

def text (a : Address) : Text :=
  let rooted : Text :=
    if a.path = [] || a.path.head?.any (·.is '/') then a.path else "/" ++ a.path
  let place : Text := if a.showsAuthority then "//" ++ a.authority ++ rooted else a.path
  let marked (mark : Text) (t : Text) : Text := if t = [] then [] else mark ++ t
  let scheme : Text := if a.scheme = [] then [] else a.scheme ++ ":"
  scheme ++ place ++ marked "?" a.query ++ marked "#" a.fragment

end Address

end BearerAccess
