/-!
# Integers as decimal text

`natural` and `integer` write; `readNatural` and `readInteger` read an optional sign and then ASCII
digits alone, within given bounds. Digits are taken from the left and the first one that is wrong
or leaves the range decides the fault.

Results:
* `readNatural_natural`, `readInteger_integer`: a number in range is read back from its own text.
-/
namespace DeviceTwin.Integer

inductive Fault where
  | empty
  | invalidDigit
  | tooLarge
  | tooSmall
  deriving DecidableEq, Repr

namespace Fault

def message : Fault → String
  | empty => "cannot parse integer from empty string"
  | invalidDigit => "invalid digit found in string"
  | tooLarge => "number too large to fit in target type"
  | tooSmall => "number too small to fit in target type"

end Fault

def digit? (c : Char) : Option Nat :=
  if c.isDigit then some (c.toNat - '0'.toNat) else none

/-- Appends digits to `sofar`; a value above `limit` is the fault `excess`. -/
def readDigits (limit : Nat) (excess : Fault) : Nat → List Char → Except Fault Nat
  | sofar, [] => .ok sofar
  | sofar, c :: cs =>
    match digit? c with
    | none => .error .invalidDigit
    | some d =>
      if 10 * sofar + d ≤ limit then readDigits limit excess (10 * sofar + d) cs else .error excess

/-- The digits behind a sign: at least one. -/
def readMagnitude (limit : Nat) (excess : Fault) : List Char → Except Fault Nat
  | [] => .error .invalidDigit
  | cs => readDigits limit excess 0 cs

/-- A number up to `limit`, with an optional plus sign. -/
def readNatural (limit : Nat) : List Char → Except Fault Nat
  | [] => .error .empty
  | '+' :: cs => readMagnitude limit .tooLarge cs
  | cs => readMagnitude limit .tooLarge cs

/-- A number from `-low` to `high`, with an optional sign. -/
def readInteger (low high : Nat) : List Char → Except Fault Int
  | [] => .error .empty
  | '+' :: cs => (readMagnitude high .tooLarge cs).map Int.ofNat
  | '-' :: cs => (readMagnitude low .tooSmall cs).map fun n => -Int.ofNat n
  | cs => (readMagnitude high .tooLarge cs).map Int.ofNat

/-- Decimal digits, most significant first, without leading zeros. -/
def natural (n : Nat) : List Char :=
  if n < 10 then [Nat.digitChar n] else natural (n / 10) ++ [Nat.digitChar (n % 10)]

/-- Decimal digits behind a minus sign where one is needed. -/
def integer (n : Int) : List Char :=
  if n < 0 then '-' :: natural n.natAbs else natural n.natAbs

def ofNat (n : Nat) : String := String.ofList (natural n)

def ofInt (n : Int) : String := String.ofList (integer n)

/-! ## Reading back -/

theorem digit?_digitChar {d : Nat} (h : d < 10) : digit? (Nat.digitChar d) = some d := by
  have all : ∀ d : Fin 10, digit? (Nat.digitChar d) = some d.val := by decide
  exact all ⟨d, h⟩

theorem natural_ne_nil (n : Nat) : natural n ≠ [] := by
  rw [natural]; split <;> simp

theorem readDigits_natural (limit : Nat) (excess : Fault) (n : Nat) (cs : List Char)
    (h : n ≤ limit) :
    readDigits limit excess 0 (natural n ++ cs) = readDigits limit excess n cs := by
  induction n using natural.induct generalizing cs with
  | case1 n hn =>
    rw [natural, if_pos hn]
    simp [readDigits, digit?_digitChar hn, h]
  | case2 n hn ih =>
    rw [natural, if_neg hn, List.append_assoc, ih _ (by omega)]
    have e : 10 * (n / 10) + n % 10 = n := Nat.div_add_mod n 10
    simp [readDigits, digit?_digitChar (Nat.mod_lt n (by decide : 0 < 10)), e, h]

theorem isDigit_of_mem_natural {n : Nat} {c : Char} (h : c ∈ natural n) : c.isDigit = true := by
  have all : ∀ d : Fin 10, (Nat.digitChar d).isDigit = true := by decide
  induction n using natural.induct with
  | case1 n hn =>
    rw [natural, if_pos hn, List.mem_singleton] at h
    exact h ▸ all ⟨n, hn⟩
  | case2 n hn ih =>
    rw [natural, if_neg hn, List.mem_append, List.mem_singleton] at h
    rcases h with h | h
    · exact ih h
    · exact h ▸ all ⟨n % 10, Nat.mod_lt n (by decide)⟩

theorem mem_integer {n : Int} {c : Char} (h : c ∈ integer n) : c = '-' ∨ c.isDigit = true := by
  unfold integer at h
  split at h
  · rcases List.mem_cons.1 h with h | h
    · exact .inl h
    · exact .inr (isDigit_of_mem_natural h)
  · exact .inr (isDigit_of_mem_natural h)

theorem exists_natural (n : Nat) : ∃ c cs, natural n = c :: cs ∧ c ≠ '+' ∧ c ≠ '-' := by
  cases e : natural n with
  | nil => exact absurd e (natural_ne_nil n)
  | cons c cs =>
    have hd : c.isDigit = true := isDigit_of_mem_natural (n := n) (e ▸ List.mem_cons_self)
    exact ⟨c, cs, rfl, by rintro rfl; simp at hd, by rintro rfl; simp at hd⟩

theorem readMagnitude_natural (limit : Nat) (excess : Fault) {n : Nat} (h : n ≤ limit) :
    readMagnitude limit excess (natural n) = .ok n := by
  obtain ⟨c, cs, e, -, -⟩ := exists_natural n
  have hr := readDigits_natural limit excess n [] h
  rw [List.append_nil] at hr
  rw [e] at hr ⊢
  simpa [readMagnitude, readDigits] using hr

/-- A number up to the limit is read back from its own text. -/
theorem readNatural_natural {limit n : Nat} (h : n ≤ limit) :
    readNatural limit (natural n) = .ok n := by
  obtain ⟨c, cs, e, hp, -⟩ := exists_natural n
  have hr := readMagnitude_natural limit .tooLarge h
  rw [e] at hr ⊢
  rw [← hr]
  unfold readNatural
  split <;> simp_all

/-- A number in range is read back from its own text. -/
theorem readInteger_integer {low high : Nat} {n : Int} (hl : -(low : Int) ≤ n)
    (hh : n ≤ (high : Int)) : readInteger low high (integer n) = .ok n := by
  unfold integer
  split
  · next hn =>
    simp only [readInteger, readMagnitude_natural low .tooSmall (show n.natAbs ≤ low by omega),
      Except.map]
    congr 1
    simp only [Int.ofNat_eq_natCast]; omega
  · next hn =>
    obtain ⟨c, cs, e, hp, hm⟩ := exists_natural n.natAbs
    have hr := readMagnitude_natural high .tooLarge (show n.natAbs ≤ high by omega)
    have he : Int.ofNat n.natAbs = n := by simp only [Int.ofNat_eq_natCast]; omega
    rw [e] at hr ⊢
    unfold readInteger
    split <;> simp_all [Except.map]

end DeviceTwin.Integer
