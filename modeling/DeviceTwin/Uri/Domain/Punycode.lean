/-!
# Punycode

A label with characters outside ASCII is written in ASCII letters, digits and hyphens: first its ASCII
characters, then, behind a hyphen, where the others are to be inserted. Each insertion is a number in
digits of base 36, the least significant one first, whose threshold ends a number.

Results:
* `length_of_readNumber`: reading a number takes at least one character.
-/
namespace DeviceTwin.Punycode

def base : Nat := 36

/-- The code point that the first insertion counts from. -/
def firstCode : Nat := 128

/-- The bias of the first number. -/
def firstBias : Nat := 72

/-- The greatest number that is read. -/
def limit : Nat := 4294967295

def digitChar (d : Nat) : Char :=
  if d < 26 then Char.ofNat ('a'.toNat + d) else Char.ofNat ('0'.toNat + (d - 26))

/-- The value of a digit of either case. -/
def digit? (c : Char) : Option Nat :=
  if 'a' ≤ c ∧ c ≤ 'z' then some (c.toNat - 'a'.toNat)
  else if 'A' ≤ c ∧ c ≤ 'Z' then some (c.toNat - 'A'.toNat)
  else if c.isDigit then some (c.toNat - '0'.toNat + 26)
  else none

/-- The digit at place `k` ends a number where it is below this. -/
def threshold (bias k : Nat) : Nat := max 1 (min 26 (k - bias))

theorem threshold_pos (bias k : Nat) : 1 ≤ threshold bias k := Nat.le_max_left ..

/-- Halves a bias down to what its last digit can hold. -/
def settleBias (k delta : Nat) : Nat :=
  if 455 < delta then settleBias (k + base) (delta / 35) else k + base * delta / (delta + 38)
termination_by delta

/-- The bias behind a number, with `count` characters so far. -/
def nextBias (isFirst : Bool) (delta count : Nat) : Nat :=
  let scaled := if isFirst then delta / 700 else delta / 2
  settleBias 0 (scaled + scaled / count)

/-! ## Writing -/

/-- A number in digits, from place `k` on. -/
def writeNumber (bias k n : Nat) : List Char :=
  let t := threshold bias k
  if n < t then [digitChar n]
  else digitChar (t + (n - t) % (base - t)) :: writeNumber bias (k + base) ((n - t) / (base - t))
termination_by n
decreasing_by
  have h := threshold_pos bias k
  exact Nat.lt_of_le_of_lt (Nat.div_le_self _ _) (by omega)

structure Encoder where
  written : List Char
  /-- What the next number counts. -/
  delta : Nat
  bias : Nat
  /-- The number of characters that are written. -/
  count : Nat
  isFirst : Bool
  deriving DecidableEq, Repr

/-- Goes past a character while the characters with code point `code` are written. -/
def Encoder.step (code : Nat) (e : Encoder) (c : Char) : Encoder :=
  if c.toNat < code then { e with delta := e.delta + 1 }
  else if c.toNat = code then
    { written := e.written ++ writeNumber e.bias base e.delta
      delta := 0
      bias := nextBias e.isFirst e.delta (e.count + 1)
      count := e.count + 1
      isFirst := false }
  else e

/-- Writes the characters with the code points `codes`, in rising order; all below `low` are
written. -/
def Encoder.run (label : List Char) : (low : Nat) → (codes : List Nat) → Encoder → Encoder
  | _, [], e => e
  | low, code :: codes, e =>
    let e := { e with delta := e.delta + (code - low) * (e.count + 1) }
    let e := label.foldl (Encoder.step code) e
    Encoder.run label (code + 1) codes { e with delta := e.delta + 1 }

def isAscii (c : Char) : Bool := c.toNat < firstCode

def encode (label : List Char) : List Char :=
  let plain := label.filter isAscii
  let codes := ((label.filter fun c => !isAscii c).map Char.toNat).mergeSort.eraseDups
  let e := Encoder.run label firstCode codes ⟨[], 0, firstBias, plain.length, true⟩
  plain ++ (if plain = [] then [] else ['-']) ++ e.written

/-! ## Reading -/

/-- Adds a number to `sofar`, from place `k` on, where a digit counts `weight`. -/
def readNumber (bias : Nat) : (k weight sofar : Nat) → List Char → Option (Nat × List Char)
  | _, _, _, [] => none
  | k, weight, sofar, c :: cs =>
    match digit? c with
    | none => none
    | some d =>
      let t := threshold bias k
      if limit < sofar + d * weight then none
      else if d < t then some (sofar + d * weight, cs)
      else if limit < weight * (base - t) then none
      else readNumber bias (k + base) (weight * (base - t)) (sofar + d * weight) cs

theorem length_of_readNumber {bias k weight sofar n : Nat} {cs rest : List Char}
    (h : readNumber bias k weight sofar cs = some (n, rest)) : rest.length < cs.length := by
  induction cs generalizing k weight sofar with
  | nil => simp [readNumber] at h
  | cons c cs ih =>
    rw [readNumber] at h
    split at h
    · cases h
    · dsimp only at h
      split at h
      · cases h
      split at h
      · simp only [Option.some.injEq, Prod.mk.injEq] at h
        rw [h.2]; exact Nat.lt_succ_self _
      split at h
      · cases h
      · exact Nat.lt_succ_of_lt (ih h)

/-- Inserts the characters that numbers name into `label`; the last one was `code`, in front of
`place`. -/
def insertAll (bias code place : Nat) (label cs : List Char) : Option (List Char) :=
  if cs = [] then some label
  else
    match _h : readNumber bias base 1 place cs with
    | none => none
    | some (n, rest) =>
      let count := label.length + 1
      let code := code + n / count
      if code.isValidChar then
        insertAll (nextBias (place = 0) (n - place) count) code (n % count + 1)
          (label.insertIdx (n % count) (Char.ofNat code)) rest
      else none
termination_by cs.length
decreasing_by exact length_of_readNumber _h

/-- The ASCII characters of a written label, and its numbers. -/
def parts (cs : List Char) : List Char × List Char :=
  let back := cs.reverse
  let numbers := (back.takeWhile (· ≠ '-')).reverse
  match back.dropWhile (· ≠ '-') with
  | _ :: c :: plain => ((c :: plain).reverse, numbers)
  | [hyphen] => ([], hyphen :: numbers)
  | [] => ([], numbers)

/-- The label that is written so, if there is one. -/
def decode? (cs : List Char) : Option (List Char) :=
  let (plain, numbers) := parts cs
  insertAll firstBias firstCode 0 plain numbers

end DeviceTwin.Punycode
