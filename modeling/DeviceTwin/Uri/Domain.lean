import DeviceTwin.Text.Start
import DeviceTwin.Uri.Domain.Composite
import DeviceTwin.Uri.Domain.Direction
import DeviceTwin.Uri.Domain.Joining
import DeviceTwin.Uri.Domain.Mapping
import DeviceTwin.Uri.Domain.Punycode

/-!
# Domains

A domain is a list of labels between points. `Domain.read?` brings it to its form in ASCII: characters
are mapped and put into normal form, and a label with characters outside ASCII is written in
Punycode. A label that is already written so has to name a label in normal form.
-/
namespace DeviceTwin.Domain

def mark : List Char := "xn--".toList

/-- The greatest number of characters of a label that is not all ASCII. -/
def maxLabel : Nat := 1000

/-- The greatest number of characters of a label in Punycode behind its mark. -/
def maxEncoded : Nat := 2000

def isForbidden (c : Char) : Bool :=
  c.toNat ≤ 0x20 || c ∈ ['#', '%', '/', ':', '<', '>', '?', '@', '[', '\\', ']', '^', '|', '\x7f']

/-- The normal form of a text, if all its characters may stand in a domain. -/
def normal? (cs : List Char) : Option (List Char) := (Mapping.mapAll? cs).map Composite.normal

def isPlain (label : List Char) : Bool := label.all Punycode.isAscii

/-- Whether a label in normal form is well formed: its first character is no mark, it is not too long,
and joiners and characters stand only where they may. -/
def isWellFormed (label : List Char) : Bool :=
  !label.head?.any Mark.isMark
    && Joining.areAdmitted [] label
    && (isPlain label || label.length ≤ maxLabel)
    && !label.any isForbidden

/-- The label that is written in Punycode, if it is in normal form. -/
def decode? (code : List Char) : Option (List Char) :=
  if code = [] ∨ code.getLast? = some '-' ∨ maxEncoded < code.length ∨ !isPlain code then none
  else (Punycode.decode? code).filter fun label => normal? label = some label

/-- A label as it is read: one in Punycode is decoded. -/
def readLabel? (label : List Char) : Option (List Char) :=
  (match strip? mark label with
    | some code => decode? code
    | none => some label).filter isWellFormed

def toAscii (label : List Char) : List Char :=
  if isPlain label then label else mark ++ Punycode.encode label

def readLabels? (domain : List Char) : Option (List (List Char)) :=
  (normal? domain).bind fun text => (text.splitOn '.').mapM readLabel?

/-- A domain in ASCII, if it is one. -/
def read? (domain : List Char) : Option (List Char) :=
  ((readLabels? domain).filter Direction.areSettled).map fun labels =>
    ['.'].intercalate (labels.map toAscii)

end DeviceTwin.Domain
