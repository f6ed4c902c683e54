import DeviceTwin.Decimal.Power
import DeviceTwin.Uri.Domain
import DeviceTwin.Uri.Ipv6

/-!
# Hosts of addresses

The host of an address is a name or, in brackets, an IPv6 address. Addresses of the web have domains
as hosts, and a domain that ends in a number has to be an IPv4 address.
-/
namespace DeviceTwin.Uri

inductive Fault where
  | noScheme
  | emptyHost
  | badPort
  | badIpv4
  | badIpv6
  | badHostCharacter
  | badDomain
  deriving DecidableEq, Repr

def Fault.message : Fault → String
  | noScheme => "relative URL without a base"
  | emptyHost => "empty host"
  | badPort => "invalid port number"
  | badIpv4 => "invalid IPv4 address"
  | badIpv6 => "invalid IPv6 address"
  | badHostCharacter => "invalid domain character"
  | badDomain => "invalid international domain name"

inductive Host where
  | name (text : List Char)
  | ipv4 (number : Nat)
  | ipv6 (address : Ipv6)
  deriving DecidableEq, Repr

namespace Host

def octets (number : Nat) : List Nat :=
  [number / 0x1000000, number / 0x10000 % 0x100, number / 0x100 % 0x100, number % 0x100]

def render : Host → List Char
  | name text => text
  | ipv4 number => ['.'].intercalate ((octets number).map (Nat.toDigits 10))
  | ipv6 address => '[' :: address.render ++ [']']

/-- Whether the host is a name without characters. -/
def isEmpty : Host → Bool
  | name text => text.isEmpty
  | _ => false

/-- An IPv6 address from what follows its opening bracket. -/
def readIpv6 (cs : List Char) : Except Fault Host :=
  if cs.getLast? = some ']' then
    match Ipv6.parse? cs.dropLast with
    | some address => .ok (.ipv6 address)
    | none => .error .badIpv6
  else .error .badIpv6

def isForbidden (c : Char) : Bool :=
  c ∈ ['\x00', '\t', '\n', '\r', ' ', '#', '/', ':', '<', '>', '?', '@', '[', '\\', ']', '^', '|']

/-- A host whose name is taken as it is. -/
def readPlain (cs : List Char) : Except Fault Host :=
  match cs with
  | '[' :: rest => readIpv6 rest
  | _ =>
    if cs.any isForbidden then .error .badHostCharacter
    else .ok (.name (Percent.encode (fun _ => false) cs))

/-- A part of an IPv4 address: a decimal number, an octal one behind `0` or a hexadecimal one behind
`0x`. -/
def ipv4Part? (cs : List Char) : Option Nat :=
  let number (base : Nat) (digits : List Char) : Option Nat :=
    digits.foldlM (fun n c => (Percent.hexDigit? c).bind fun d =>
      if d < base then some (base * n + d) else none) 0
  match cs with
  | [] => none
  | '0' :: 'x' :: rest => number 16 rest
  | '0' :: 'X' :: rest => number 16 rest
  | '0' :: c :: rest => number 8 (c :: rest)
  | _ => number 10 cs

/-- The labels of a domain, without the empty one behind a last point. -/
def labels (domain : List Char) : List (List Char) :=
  let all := domain.splitOn '.'
  if 1 < all.length ∧ all.getLast? = some [] then all.dropLast else all

def endsInNumber (domain : List Char) : Bool :=
  match (labels domain).getLast? with
  | some last => (last ≠ [] && last.all Char.isDigit) || (ipv4Part? last).isSome
  | none => false

/-- An IPv4 address: up to four parts, the last of which takes the place of those that are missing. -/
def ipv4? (domain : List Char) : Option Nat :=
  (labels domain).mapM ipv4Part? |>.bind fun parts =>
    match parts.getLast? with
    | none => none
    | some last =>
      let front := parts.dropLast
      if 3 < front.length ∨ front.any (255 < ·) ∨ twoPow (8 * (4 - front.length)) ≤ last then none
      else some (front.foldr (fun part rest => part * twoPow 24 + rest / 256) 0 + last)

/-- A domain in ASCII, its escapes replaced. -/
def readDomain (cs : List Char) : Except Fault Host :=
  match cs with
  | '[' :: rest => readIpv6 rest
  | _ =>
    match (Utf8.toText? (Percent.decode cs)).bind fun text => Domain.read? text.toList with
    | none => .error .badDomain
    | some domain =>
      if domain = [] then .error .emptyHost
      else if endsInNumber domain then
        match ipv4? domain with
        | some number => .ok (.ipv4 number)
        | none => .error .badIpv4
      else .ok (.name domain)

end Host
end DeviceTwin.Uri
