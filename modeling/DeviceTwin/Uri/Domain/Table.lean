import DeviceTwin.Text.Cut
import DeviceTwin.Uri.Percent

/-!
# Tables of characters

What is known of single characters is written down as text: words between blanks, each a code point
in hexadecimal digits or a run of them, such as `5A` or `41-5A`. A table has its entries in the order
of their code points and is searched by halving.
-/
namespace DeviceTwin

/-- Entries in the order of their code points. -/
abbrev Table (α : Type) := Array (Nat × α)

namespace Table

/-- The last entry up to `code` among those from `low` on and before `high`, or `found` where there
is none. -/
def search {α : Type} (t : Table α) (code low high : Nat) (found : Option (Nat × α)) :
    Option (Nat × α) :=
  if low < high then
    let middle := (low + high) / 2
    match t[middle]? with
    | none => found
    | some e =>
      if e.1 ≤ code then search t code (middle + 1) high (some e) else search t code low middle found
  else found
termination_by high - low

/-- The last entry up to `code`. -/
def floor? {α : Type} (t : Table α) (code : Nat) : Option (Nat × α) := search t code 0 t.size none

def get? {α : Type} (t : Table α) (code : Nat) : Option α :=
  match floor? t code with
  | some (c, a) => if c = code then some a else none
  | none => none

def ofList {α : Type} (entries : List (Nat × α)) : Table α :=
  (entries.mergeSort fun a b => a.1 ≤ b.1).toArray

/-! ## Reading tables -/

def words (text : String) : List (List Char) :=
  (text.toList.splitOnP Char.isWhitespace).filter (· ≠ [])

/-- The code point that hexadecimal digits name. -/
def code (digits : List Char) : Nat :=
  digits.foldl (fun n c => 16 * n + (Percent.hexDigit? c).getD 0) 0

def run (word : List Char) : Nat × Nat :=
  match cut? ['-'] word with
  | some (first, last) => (code first, code last)
  | none => (code word, code word)

/-- What stands on either side of an arrow. -/
def sides (word : List Char) : List Char × List Char := (cut? ['>'] word).getD (word, [])

/-- The characters with the code points between points. -/
def characters (word : List Char) : List Char :=
  (word.splitOn '.').map fun digits => Char.ofNat (code digits)

end Table

/-- Runs of code points, each with its last one. -/
abbrev Runs := Table Nat

namespace Runs

def ofText (text : String) : Runs := .ofList ((Table.words text).map Table.run)

def contains (runs : Runs) (c : Char) : Bool :=
  (Table.floor? runs c.toNat).any fun (_, last) => c.toNat ≤ last

/-- The table of runs that say different things. -/
def label {α : Type} (texts : List (α × String)) : Table (Nat × α) :=
  .ofList (texts.flatMap fun (a, text) =>
    (Table.words text).map fun word => ((Table.run word).1, ((Table.run word).2, a)))

/-- What is said of the run that a character lies in. -/
def label? {α : Type} (table : Table (Nat × α)) (c : Char) : Option α :=
  (Table.floor? table c.toNat).bind fun (_, last, a) => if c.toNat ≤ last then some a else none

end Runs
end DeviceTwin
