import DeviceTwin.Text.Cut
import DeviceTwin.Uri.Percent

/-!
# IPv6 addresses

Eight groups of 16 bits. In a text they are separated by colons, `::` stands for at least one group
of zeros, and the last two groups may be written as four decimal numbers with points between them.
The printed form has the first of the longest runs of at least two zeros as `::`.
-/
namespace DeviceTwin

/-- An address by its groups. -/
structure Ipv6 where
  groups : List Nat
  length_eq : groups.length = 8
  deriving DecidableEq, Repr

namespace Ipv6

def hexNumber? (cs : List Char) : Option Nat :=
  cs.foldlM (fun n c => (Percent.hexDigit? c).map (16 * n + ·)) 0

/-- A group: one to four hexadecimal digits. -/
def group? (cs : List Char) : Option Nat :=
  if cs.length = 0 ∨ 4 < cs.length then none else hexNumber? cs

def decimal (cs : List Char) : Nat := cs.foldl (fun n c => 10 * n + (c.toNat - '0'.toNat)) 0

/-- A part of a dotted address: a number up to 255 without leading zeros. -/
def octet? (cs : List Char) : Option Nat :=
  if cs = ['0'] then some 0
  else if cs = [] ∨ cs.head? = some '0' ∨ 3 < cs.length ∨ ¬cs.all Char.isDigit then none
  else if decimal cs ≤ 255 then some (decimal cs)
  else none

/-- Two groups written as a dotted address. -/
def dotted? (cs : List Char) : Option (List Nat) :=
  match (cs.splitOn '.').mapM octet? with
  | some [a, b, c, d] => some [a * 256 + b, c * 256 + d]
  | _ => none

def groups? (cs : List Char) : Option (List Nat) :=
  if cs = [] then some [] else (cs.splitOn ':').mapM group?

/-- Groups with colons between them, the last of which may be dotted. -/
def lastGroups? (cs : List Char) : Option (List Nat) :=
  if cs.contains '.' then
    match cutLast? ':' cs with
    | none => dotted? cs
    | some (front, last) =>
      if front = [] then none
      else (groups? front).bind fun gs => (dotted? last).map (gs ++ ·)
  else groups? cs

def ofGroups? (gs : List Nat) : Option Ipv6 :=
  if h : gs.length = 8 then some ⟨gs, h⟩ else none

/-- An address by its first and its last groups, with at least one group of zeros between them. -/
def ofEnds? (front back : List Nat) : Option Ipv6 :=
  if h : front.length + back.length ≤ 7 then
    some ⟨front ++ List.replicate (8 - (front.length + back.length)) 0 ++ back, by
      simp only [List.length_append, List.length_replicate]; omega⟩
  else none

def parse? (cs : List Char) : Option Ipv6 :=
  match cut? [':', ':'] cs with
  | none => (lastGroups? cs).bind ofGroups?
  | some (front, back) =>
    (groups? front).bind fun front => (lastGroups? back).bind fun back => ofEnds? front back

def leadingZeros (gs : List Nat) : Nat := (gs.takeWhile (· = 0)).length

/-- The place and the length of the first of the longest runs of zeros. -/
def longestRun : List Nat → Nat × Nat
  | [] => (0, 0)
  | g :: gs =>
    let (place, length) := longestRun gs
    if length ≤ leadingZeros (g :: gs) then (0, leadingZeros (g :: gs)) else (place + 1, length)

def renderGroups (gs : List Nat) : List Char :=
  [':'].intercalate (gs.map (Nat.toDigits 16))

def render (a : Ipv6) : List Char :=
  let (place, length) := longestRun a.groups
  if length < 2 then renderGroups a.groups
  else renderGroups (a.groups.take place) ++ [':', ':'] ++ renderGroups (a.groups.drop (place + length))

end Ipv6
end DeviceTwin
