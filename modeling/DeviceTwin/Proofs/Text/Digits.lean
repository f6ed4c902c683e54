import DeviceTwin.Text.Integer
import Mathlib.Data.Nat.Digits.Defs

/-!
# The number that digits denote

A decimal text denotes a number by the place of each digit, however many digits there are. Reading
takes the digits from the left and stops at the first one that leaves the range. It need not look
any further: digits that follow make a number larger and never smaller.

Results:
* `readDigits_ok_iff`: digits that are read behind a number move it to the left and add their own.
* `readNatural_ok_iff`: the texts that are read as a natural number in range.
* `readInteger_ok_iff`: the texts that are read as an integer in range.
-/
namespace DeviceTwin.Integer

/-- The number that decimal digits denote, of which the most significant comes first. -/
def value (cs : List Char) : Nat := Nat.ofDigits 10 (cs.reverse.map fun c => c.toNat - '0'.toNat)

/-- One ASCII digit or more. -/
structure IsNumeral (cs : List Char) : Prop where
  ne_nil : cs ≠ []
  isDigit : ∀ c ∈ cs, c.isDigit = true

/-- Whether a text is an optional plus sign and a numeral of this number. -/
def Denotes (cs : List Char) (n : Nat) : Prop :=
  ∃ ds, IsNumeral ds ∧ (cs = ds ∨ cs = '+' :: ds) ∧ n = value ds

/-- Whether a text is an optional sign and a numeral that make up this number. -/
def DenotesSigned (cs : List Char) (n : Int) : Prop :=
  (∃ m : Nat, Denotes cs m ∧ n = m) ∨ ∃ ds, IsNumeral ds ∧ cs = '-' :: ds ∧ n = -(value ds : Int)

theorem value_cons (c : Char) (cs : List Char) :
    value (c :: cs) = (c.toNat - '0'.toNat) * 10 ^ cs.length + value cs := by
  simp only [value, List.reverse_cons, List.map_append, List.map_cons, List.map_nil,
    Nat.ofDigits_append, Nat.ofDigits_singleton, List.length_map, List.length_reverse]
  rw [Nat.add_comm, Nat.mul_comm]

theorem digit?_of_isDigit {c : Char} (h : c.isDigit = true) :
    digit? c = some (c.toNat - '0'.toNat) :=
  if_pos h

theorem digit?_of_not_isDigit {c : Char} (h : c.isDigit ≠ true) : digit? c = none := if_neg h

/-- Digits that are read behind a number move it to the left and add their own. -/
theorem readDigits_ok_iff {limit : Nat} {excess : Fault} {cs : List Char} {sofar n : Nat}
    (hle : sofar ≤ limit) : readDigits limit excess sofar cs = .ok n ↔
      (∀ c ∈ cs, c.isDigit = true) ∧ n = sofar * 10 ^ cs.length + value cs ∧ n ≤ limit := by
  induction cs generalizing sofar with
  | nil =>
    have hvalue : value [] = 0 := rfl
    simp only [readDigits, Except.ok.injEq, List.not_mem_nil, false_implies, implies_true, true_and,
      List.length_nil, Nat.pow_zero, Nat.mul_one, hvalue, Nat.add_zero]
    constructor
    · rintro rfl
      exact ⟨rfl, hle⟩
    · rintro ⟨rfl, -⟩
      rfl
  | cons c cs ih =>
    rw [readDigits]
    by_cases hdigit : c.isDigit = true
    · rw [digit?_of_isDigit hdigit]
      dsimp only
      -- What is read so far is at most what it comes to, so the range is left for good.
      have hsum : sofar * 10 ^ (c :: cs).length + value (c :: cs)
          = (10 * sofar + (c.toNat - '0'.toNat)) * 10 ^ cs.length + value cs := by
        rw [value_cons, List.length_cons, Nat.pow_succ, Nat.add_mul, Nat.add_assoc]
        congr 1
        rw [Nat.mul_comm (10 ^ cs.length), ← Nat.mul_assoc, Nat.mul_comm sofar]
      have hless : 10 * sofar + (c.toNat - '0'.toNat)
          ≤ (10 * sofar + (c.toNat - '0'.toNat)) * 10 ^ cs.length :=
        Nat.le_mul_of_pos_right _ (Nat.pow_pos (by decide))
      rw [hsum]
      split
      · next hstep =>
        rw [ih hstep, List.forall_mem_cons]
        exact and_congr_left fun _ => (and_iff_right hdigit).symm
      · next hstep =>
        constructor
        · intro h
          cases h
        · rintro ⟨-, rfl, hlimit⟩
          omega
    · rw [digit?_of_not_isDigit hdigit]
      constructor
      · intro h
        cases h
      · rintro ⟨hall, -⟩
        exact absurd (hall c List.mem_cons_self) hdigit

theorem readMagnitude_ok_iff {limit : Nat} {excess : Fault} {cs : List Char} {n : Nat} :
    readMagnitude limit excess cs = .ok n ↔ IsNumeral cs ∧ n = value cs ∧ n ≤ limit := by
  cases cs with
  | nil =>
    constructor
    · intro h
      cases h
    · rintro ⟨h, -⟩
      exact absurd rfl h.ne_nil
  | cons c cs =>
    have hread : readMagnitude limit excess (c :: cs) = readDigits limit excess 0 (c :: cs) := rfl
    rw [hread, readDigits_ok_iff (Nat.zero_le limit), Nat.zero_mul, Nat.zero_add]
    exact and_congr_left fun _ => ⟨fun h => ⟨List.cons_ne_nil c cs, h⟩, IsNumeral.isDigit⟩

theorem IsNumeral.ne_sign {ds cs : List Char} {sign : Char} (h : IsNumeral ds)
    (hsign : sign.isDigit = false) : ds ≠ sign :: cs := by
  rintro rfl
  rw [h.isDigit sign List.mem_cons_self] at hsign
  cases hsign

/-- The texts that are read as a natural number in range. -/
theorem readNatural_ok_iff {limit n : Nat} {cs : List Char} :
    readNatural limit cs = .ok n ↔ n ≤ limit ∧ Denotes cs n := by
  unfold readNatural Denotes
  split
  · constructor
    · intro h
      cases h
    · rintro ⟨-, ds, hds, rfl | h, -⟩
      · exact absurd rfl hds.ne_nil
      · cases h
  · next cs =>
    rw [readMagnitude_ok_iff]
    constructor
    · rintro ⟨hds, hn, hle⟩
      exact ⟨hle, cs, hds, .inr rfl, hn⟩
    · rintro ⟨hle, ds, hds, h | h, hn⟩
      · exact absurd h.symm (hds.ne_sign rfl)
      · cases h
        exact ⟨hds, hn, hle⟩
  · next hsign =>
    rw [readMagnitude_ok_iff]
    constructor
    · rintro ⟨hds, hn, hle⟩
      exact ⟨hle, cs, hds, .inl rfl, hn⟩
    · rintro ⟨hle, ds, hds, rfl | h, hn⟩
      · exact ⟨hds, hn, hle⟩
      · exact absurd h (hsign ds)

theorem map_ok_iff {α β : Type} {x : Except Fault α} {f : α → β} {b : β} :
    x.map f = .ok b ↔ ∃ a, x = .ok a ∧ b = f a := by
  cases x with
  | error e => simp [Except.map]
  | ok a => simp [Except.map, eq_comm]

theorem readInteger_of_ne_minus {low high : Nat} {cs : List Char} (h : ∀ ds, cs ≠ '-' :: ds) :
    readInteger low high cs = (readNatural high cs).map Int.ofNat := by
  unfold readInteger readNatural
  split
  · rfl
  · rfl
  · next ds => exact absurd rfl (h ds)
  · split <;> simp_all

theorem Denotes.ne_minus {cs ds : List Char} {n : Nat} (h : Denotes cs n) : cs ≠ '-' :: ds := by
  obtain ⟨ds', hds, rfl | rfl, -⟩ := h
  · exact hds.ne_sign rfl
  · rintro ⟨⟩

/-- The texts that are read as an integer in range. -/
theorem readInteger_ok_iff {low high : Nat} {n : Int} {cs : List Char} :
    readInteger low high cs = .ok n ↔
      -(low : Int) ≤ n ∧ n ≤ (high : Int) ∧ DenotesSigned cs n := by
  by_cases hminus : ∃ ds, cs = '-' :: ds
  · obtain ⟨ds, rfl⟩ := hminus
    have hread : readInteger low high ('-' :: ds)
        = (readMagnitude low .tooSmall ds).map fun m => -Int.ofNat m := rfl
    simp only [hread, map_ok_iff, readMagnitude_ok_iff]
    constructor
    · rintro ⟨m, ⟨hds, rfl, hle⟩, rfl⟩
      have hlow : -(low : Int) ≤ -Int.ofNat (value ds) := by simp only [Int.ofNat_eq_natCast]; omega
      have hhigh : -Int.ofNat (value ds) ≤ (high : Int) := by simp only [Int.ofNat_eq_natCast]; omega
      exact ⟨hlow, hhigh, .inr ⟨ds, hds, rfl, rfl⟩⟩
    · rintro ⟨hlow, -, ⟨m, hm, -⟩ | ⟨ds', hds, heq, rfl⟩⟩
      · exact absurd rfl hm.ne_minus
      · cases heq
        exact ⟨_, ⟨hds, rfl, by omega⟩, rfl⟩
  · rw [readInteger_of_ne_minus (not_exists.1 hminus)]
    simp only [map_ok_iff, readNatural_ok_iff]
    constructor
    · rintro ⟨m, ⟨hle, hm⟩, rfl⟩
      have hlow : -(low : Int) ≤ Int.ofNat m := by simp only [Int.ofNat_eq_natCast]; omega
      exact ⟨hlow, Int.ofNat_le.2 hle, .inl ⟨m, hm, rfl⟩⟩
    · rintro ⟨-, hle, ⟨m, hm, rfl⟩ | ⟨ds, -, heq, -⟩⟩
      · exact ⟨m, ⟨Int.ofNat_le.1 hle, hm⟩, rfl⟩
      · exact absurd ⟨ds, heq⟩ hminus

end DeviceTwin.Integer
