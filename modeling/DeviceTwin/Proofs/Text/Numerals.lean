import DeviceTwin.Text.Integer

/-!
# The decimal texts of a number

The text that is written for a number is not the only one that is read as it: zeros may stand in
front of the digits, and a plus sign in front of them. Here it is said that there are no others.

Results:
* `padded_of_readDigits`: digits that are read are those of the number, behind zeros.
* `readDigits_padded`: zeros in front of a number change nothing.
* `readNatural_eq_ok_iff`: the texts that are read as a number.
-/
namespace DeviceTwin.Integer

/-- The digits of a number behind zeros. -/
def padded (zeros n : Nat) : List Char := List.replicate zeros '0' ++ natural n

/-- Whether a text is one of a number: its digits, perhaps behind zeros and those behind a plus
sign. -/
def Spells (cs : List Char) (n : Nat) : Prop :=
  ∃ zeros, cs = padded zeros n ∨ cs = '+' :: padded zeros n

theorem digit?_eq_some {c : Char} {d : Nat} (h : digit? c = some d) :
    d < 10 ∧ c = Nat.digitChar d := by
  unfold digit? at h
  split at h
  · next hdigit =>
    cases h
    simp only [Char.isDigit, Bool.and_eq_true, decide_eq_true_eq] at hdigit
    have hlow : 48 ≤ c.toNat := hdigit.1
    have hhigh : c.toNat ≤ 57 := hdigit.2
    have hzero : '0'.toNat = 48 := rfl
    refine ⟨by omega, ?_⟩
    have hall : ∀ d : Fin 10, Nat.digitChar d = Char.ofNat (d + 48) := by decide
    have hc := hall ⟨c.toNat - '0'.toNat, by omega⟩
    rw [hc]
    dsimp only
    rw [hzero, Nat.sub_add_cancel hlow, Char.ofNat_toNat]
  · cases h

/-! ## From texts to numbers -/

/-- A further digit behind a number makes a number, behind as many zeros or one more. -/
theorem padded_concat (zeros v : Nat) {d : Nat} (hd : d < 10) :
    ∃ zeros', padded zeros v ++ [Nat.digitChar d] = padded zeros' (10 * v + d) := by
  by_cases hv : v = 0
  · subst hv
    refine ⟨zeros + 1, ?_⟩
    have hzero : natural 0 = ['0'] := by rw [natural, if_pos (by decide)]; rfl
    have hdigit : natural (10 * 0 + d) = [Nat.digitChar d] := by
      rw [natural, if_pos (by omega), Nat.mul_zero, Nat.zero_add]
    rw [padded, padded, hzero, hdigit, List.replicate_succ']
  · refine ⟨zeros, ?_⟩
    have hquotient : (10 * v + d) / 10 = v := by omega
    have hremainder : (10 * v + d) % 10 = d := by omega
    rw [padded, padded, List.append_assoc, natural.eq_1 (10 * v + d), if_neg (by omega), hquotient,
      hremainder]

/-- Digits that are read behind a number make a number, behind zeros. -/
theorem padded_of_readDigits {limit : Nat} {excess : Fault} {cs : List Char} {v n : Nat}
    (zeros : Nat) (hv : v ≤ limit) (h : readDigits limit excess v cs = .ok n) :
    n ≤ limit ∧ ∃ zeros', padded zeros v ++ cs = padded zeros' n := by
  induction cs generalizing zeros v with
  | nil =>
    cases h
    exact ⟨hv, zeros, List.append_nil _⟩
  | cons c cs ih =>
    rw [readDigits] at h
    split at h
    · cases h
    · next d hdigit =>
      obtain ⟨hd, rfl⟩ := digit?_eq_some hdigit
      split at h
      · next hle =>
        obtain ⟨zeros', heq⟩ := padded_concat zeros v hd
        rw [List.append_cons, heq]
        exact ih zeros' hle h
      · cases h

theorem padded_of_readMagnitude {limit : Nat} {excess : Fault} {cs : List Char} {n : Nat}
    (h : readMagnitude limit excess cs = .ok n) : n ≤ limit ∧ ∃ zeros, cs = padded zeros n := by
  cases cs with
  | nil => cases h
  | cons c cs =>
    rw [readMagnitude, readDigits] at h
    · split at h
      · cases h
      · next d hdigit =>
        obtain ⟨hd, rfl⟩ := digit?_eq_some hdigit
        split at h
        · next hle =>
          have hfirst : padded 0 (10 * 0 + d) = [Nat.digitChar d] := by
            rw [padded, natural, if_pos (by omega), Nat.mul_zero, Nat.zero_add]
            rfl
          have hrest := padded_of_readDigits 0 hle h
          rwa [hfirst] at hrest
        · cases h
    · exact List.cons_ne_nil _ _

/-! ## From numbers to texts -/

theorem readDigits_padded {limit n : Nat} (excess : Fault) (zeros : Nat) (h : n ≤ limit) :
    readDigits limit excess 0 (padded zeros n) = .ok n := by
  induction zeros with
  | zero =>
    have hn := readDigits_natural limit excess n [] h
    rw [List.append_nil] at hn
    exact hn
  | succ zeros ih =>
    have hzero : digit? '0' = some 0 := by decide
    rw [padded, List.replicate_succ, List.cons_append, readDigits, hzero]
    dsimp only
    rw [if_pos (by omega)]
    exact ih

theorem exists_padded (zeros n : Nat) : ∃ c cs, padded zeros n = c :: cs ∧ c ≠ '+' := by
  cases zeros with
  | zero =>
    obtain ⟨c, cs, heq, hplus, -⟩ := exists_natural n
    exact ⟨c, cs, heq, hplus⟩
  | succ zeros => exact ⟨'0', padded zeros n, rfl, by decide⟩

theorem readMagnitude_padded {limit n : Nat} (excess : Fault) (zeros : Nat) (h : n ≤ limit) :
    readMagnitude limit excess (padded zeros n) = .ok n := by
  obtain ⟨c, cs, heq, -⟩ := exists_padded zeros n
  have hread := readDigits_padded excess zeros h
  rw [heq] at hread ⊢
  exact hread

/-- The texts that are read as a number are its digits behind zeros, with or without a plus sign. -/
theorem readNatural_eq_ok_iff {limit n : Nat} {cs : List Char} :
    readNatural limit cs = .ok n ↔ n ≤ limit ∧ Spells cs n := by
  constructor
  · intro h
    unfold readNatural at h
    split at h
    · cases h
    · obtain ⟨hle, zeros, rfl⟩ := padded_of_readMagnitude h
      exact ⟨hle, zeros, .inr rfl⟩
    · obtain ⟨hle, zeros, rfl⟩ := padded_of_readMagnitude h
      exact ⟨hle, zeros, .inl rfl⟩
  · rintro ⟨hle, zeros, rfl | rfl⟩
    · obtain ⟨c, cs, heq, hplus⟩ := exists_padded zeros n
      have hread := readMagnitude_padded .tooLarge zeros hle
      rw [heq] at hread ⊢
      rw [← hread]
      unfold readNatural
      split <;> simp_all
    · exact readMagnitude_padded _ zeros hle

end DeviceTwin.Integer
