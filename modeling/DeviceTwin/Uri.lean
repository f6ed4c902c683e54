import DeviceTwin.Uri.Host
import DeviceTwin.Uri.Path

/-!
# Addresses

An absolute address is `scheme://user@host:portNumber/path?query#fragment`. `Uri.parse` reads scheme,
host, `portNumber` and path; user, query and fragment are passed over. Schemes of the web and the
scheme of local files have rules of their own: there a backslash is a slash, and hosts are domains.
-/
namespace DeviceTwin

/-- An address as far as it says where to connect. -/
structure Uri where
  /-- The scheme in lower case. -/
  scheme : String
  host : Option Uri.Host
  portNumber : Option Nat
  path : List Char
  deriving DecidableEq, Repr

namespace Uri

inductive Family where
  | general
  | web
  | file
  deriving DecidableEq, Repr

def family (scheme : String) : Family :=
  if scheme ∈ ["http", "https", "ws", "wss", "ftp"] then .web
  else if scheme = "file" then .file
  else .general

/-- Whether a character does not count at either end of an address. -/
def isMargin (c : Char) : Bool := c.toNat ≤ 0x20

/-- Whether a character does not count anywhere in an address. -/
def isBreak (c : Char) : Bool := c = '\t' || c = '\n' || c = '\r'

/-- The characters that count. -/
def clean (text : List Char) : List Char :=
  let front := text.dropWhile isMargin
  (front.reverse.dropWhile isMargin).reverse.filter fun c => !isBreak c

def isSchemeChar (c : Char) : Bool := c.isAlphanum || c = '+' || c = '-' || c = '.'

/-- The scheme in lower case and what follows its colon. -/
def cutScheme? (text : List Char) : Option (String × List Char) :=
  match text.dropWhile isSchemeChar with
  | ':' :: rest =>
    if text.head?.any Char.isAlpha then
      some (String.ofList ((text.takeWhile isSchemeChar).map Char.toLower), rest)
    else none
  | _ => none

def endsAuthority (family : Family) (c : Char) : Bool :=
  c = '/' || c = '?' || c = '#' || (c = '\\' && family ≠ .general)

/-- The host and what follows it: a colon outside of brackets ends it. -/
def cutHost : (inBrackets : Bool) → List Char → List Char × List Char
  | _, [] => ([], [])
  | inBrackets, c :: cs =>
    if c = ':' ∧ inBrackets = false then ([], c :: cs)
    else
      let (host, rest) := cutHost (c = '[' || (inBrackets && c ≠ ']')) cs
      (c :: host, rest)

def maxPort : Nat := 65535

/-- The `portNumber`, if there are any digits, and what follows them. Only a backslash may. -/
def readPort (cs : List Char) : Except Fault (Option Nat × List Char) :=
  let digits := cs.takeWhile Char.isDigit
  let rest := cs.dropWhile Char.isDigit
  let number := Ipv6.decimal digits
  if maxPort < number then .error .badPort
  else if rest ≠ [] ∧ rest.head? ≠ some '\\' then .error .badPort
  else .ok (if digits = [] then none else some number, rest)

def readHost : Family → List Char → Except Fault Host
  | .general, cs => Host.readPlain cs
  | _, cs => if cs = [] then .error .emptyHost else Host.readDomain cs

/-- Whether what stands in front of `@` names a user or a password. -/
def namesUser (user : List Char) : Bool := user ≠ [] && user ≠ [':']

/-- The host, the `portNumber` and what is left behind it, from `user@host:portNumber`. An empty host
has neither user nor number. -/
def readAuthority (family : Family) (user : Option (List Char)) (cs : List Char) :
    Except Fault (Host × Option Nat × List Char) :=
  let (name, rest) := cutHost false cs
  match readHost family name with
  | .error fault => .error fault
  | .ok host =>
    match rest with
    | ':' :: digits =>
      if host.isEmpty then .error .emptyHost
      else (readPort digits).map fun (number, rest) => (host, number, rest)
    | _ =>
      if host.isEmpty ∧ user.any namesUser then .error .emptyHost
      else .ok (host, none, rest)

def cutPath (cs : List Char) : List Char := cs.takeWhile fun c => c ≠ '?' && c ≠ '#'

def turnSlashes (path : List Char) : List Char := path.map fun c => if c = '\\' then '/' else c

def readPath (family : Family) (cs : List Char) : List Char :=
  let path := if family = .general then cutPath cs else turnSlashes (cutPath cs)
  if path = [] ∧ family = .general then [] else Path.rooted (dropStart ['/'] path)

/-- An address from what follows the slashes in front of its host. -/
def readRemote (family : Family) (scheme : String) (text : List Char) : Except Fault Uri :=
  let authority := text.takeWhile fun c => !endsAuthority family c
  let rest := text.dropWhile fun c => !endsAuthority family c
  let (user, place) := match cutLast? '@' authority with
    | some (user, place) => (some user, place)
    | none => (none, authority)
  if user = some [] ∧ place = [] ∧ rest ≠ [] then .error .emptyHost
  else
    match readAuthority family user place with
    | .error fault => .error fault
    | .ok (host, number, left) =>
      .ok ⟨scheme, if host.isEmpty then none else some host, number, readPath family (left ++ rest)⟩

/-- An address of a general scheme, from what follows the colon. -/
def readGeneral (scheme : String) (text : List Char) : Except Fault Uri :=
  match strip? ['/', '/'] text with
  | some rest => readRemote .general scheme rest
  | none =>
    match text with
    | '/' :: rest => .ok ⟨scheme, none, none, Path.rooted (cutPath rest)⟩
    | _ => .ok ⟨scheme, none, none, Percent.encode (fun _ => false) (cutPath text)⟩

def isSlash (c : Char) : Bool := c = '/' || c = '\\'

/-- The host of a local file, from what stands between the slashes: none, or a domain. -/
def readFileHost (cs : List Char) : Except Fault (Option Host) :=
  if cs = [] ∨ Path.isDrive cs then .ok none
  else (Host.readDomain cs).map fun host =>
    if host = .name "localhost".toList then none else some host

/-- The address of a local file, from what follows the colon. -/
def readFile (scheme : String) (text : List Char) : Except Fault Uri :=
  match text with
  | a :: b :: rest =>
    if isSlash a && isSlash b then
      let name := rest.takeWhile fun c => !endsAuthority .file c
      let path := if Path.isDrive name then rest else rest.dropWhile fun c => !endsAuthority .file c
      (readFileHost name).map fun host => ⟨scheme, host, none, readPath .file path⟩
    else .ok ⟨scheme, none, none, readPath .file text⟩
  | _ => .ok ⟨scheme, none, none, readPath .file text⟩

def parse (text : String) : Except Fault Uri :=
  match cutScheme? (clean text.toList) with
  | none => .error .noScheme
  | some (scheme, rest) =>
    match family scheme with
    | .general => readGeneral scheme rest
    | .web => readRemote .web scheme (rest.dropWhile isSlash)
    | .file => readFile scheme rest

end Uri
end DeviceTwin
