import DeviceTwin.Json.Printer
import DeviceTwin.Json.Reader

/-!
# Reading printed strings and integers

What the printer writes of a string or of an integer is read back by the reader, whatever follows the
string, and whatever follows the integer but more of a number.

Results:
* `readText_quoted`: a string is read back behind its opening quote.
* `readNumber_integer`: an integer that fits is read back.
-/
namespace DeviceTwin.Json

open Utf8 (encode)

theorem encodeChar_ascii {c : Char} (h : c.toNat < 0x80) : String.utf8EncodeChar c = [byte c] := by
  simp only [String.utf8EncodeChar, Char.toNat_val]
  rw [if_pos (by omega)]
  rfl

/-! ## Strings -/

/-- A byte that stands for itself within a string. -/
def isPlain (b : UInt8) : Bool := b ≠ byte '"' && b ≠ byte '\\' && 0x20 ≤ b.toNat

/-- A character that is written as it is has no byte with a meaning of its own. -/
theorem isPlain_of_mem {c : Char} (hq : c ≠ '"') (hb : c ≠ '\\') (hc : 0x20 ≤ c.toNat) :
    ∀ b ∈ String.utf8EncodeChar c, isPlain b = true := by
  have hlarge : ∀ n, 0x80 ≤ n → n < 256 → isPlain (UInt8.ofNat n) = true := by
    intro n hn hlt
    have hnat : (UInt8.ofNat n).toNat = n := Utf8.toNat_byte hlt
    have hne : ∀ c : Char, (byte c).toNat < 0x80 → UInt8.ofNat n ≠ byte c := by
      intro c hc he
      rw [← he, hnat] at hc
      omega
    have hquote := hne '"' (by decide)
    have hback := hne '\\' (by decide)
    simp only [isPlain, hquote, hback, hnat, ne_eq, not_false_eq_true, decide_true, Bool.true_and,
      decide_eq_true_eq]
    omega
  have hv := Utf8.toNat_lt c
  by_cases hsmall : c.toNat < 0x80
  · rw [encodeChar_ascii hsmall]
    intro b hmem
    rw [List.mem_singleton] at hmem
    subst hmem
    have hnat : (byte c).toNat = c.toNat := Utf8.toNat_byte (by omega)
    have hne : ∀ d : Char, d.toNat < 0x80 → c ≠ d → byte c ≠ byte d := by
      intro d hd hcd he
      have := congrArg UInt8.toNat he
      rw [hnat, byte, Utf8.toNat_byte (by omega)] at this
      exact hcd (Char.toNat_inj.1 this)
    simp [isPlain, hne '"' (by decide) hq, hne '\\' (by decide) hb, hnat, hc]
  · intro b hmem
    simp only [String.utf8EncodeChar, Char.toNat_val] at hmem
    rw [if_neg (by omega)] at hmem
    split at hmem
    · simp only [List.mem_cons, List.not_mem_nil, or_false] at hmem
      rcases hmem with rfl | rfl <;> exact hlarge _ (by omega) (by omega)
    · split at hmem
      · simp only [List.mem_cons, List.not_mem_nil, or_false] at hmem
        rcases hmem with rfl | rfl | rfl <;> exact hlarge _ (by omega) (by omega)
      · simp only [List.mem_cons, List.not_mem_nil, or_false] at hmem
        rcases hmem with rfl | rfl | rfl | rfl <;> exact hlarge _ (by omega) (by omega)

theorem readRaw_plain {bs tail raw rest : Bytes} (hbs : ∀ b ∈ bs, isPlain b = true)
    (h : readRaw tail = .ok (raw, rest)) : readRaw (bs ++ tail) = .ok (bs ++ raw, rest) := by
  induction bs with
  | nil => exact h
  | cons b bs ih =>
    have hb := hbs b List.mem_cons_self
    simp only [isPlain, Bool.and_eq_true, decide_eq_true_eq, ne_eq] at hb
    have hrest := ih fun b' hb' => hbs b' (List.mem_cons_of_mem _ hb')
    rw [List.cons_append, readRaw, if_neg hb.1.1, if_neg hb.1.2, if_neg (Nat.not_lt.2 hb.2), hrest]
    rfl

theorem readRaw_escape {bs tail raw rest : Bytes} {c : Char} (he : readEscape bs = .ok (c, tail))
    (h : readRaw tail = .ok (raw, rest)) :
    readRaw (byte '\\' :: bs) = .ok (String.utf8EncodeChar c ++ raw, rest) := by
  rw [readRaw, if_neg (by decide), if_pos rfl]
  split
  · next e herror => rw [he] at herror; cases herror
  · next c' tail' hok =>
    rw [he] at hok
    cases hok
    rw [h]
    rfl

theorem readUnicode_control {n : Nat} (h : n < 0x20) (tail : Bytes) :
    readEscape (byte 'u' :: byte '0' :: byte '0' :: byte (Nat.digitChar (n / 16))
      :: byte (Nat.digitChar (n % 16)) :: tail) = .ok (Char.ofNat n, tail) := by
  have hall : ∀ n : Fin 0x20, hex4? (byte '0') (byte '0') (byte (Nat.digitChar (n.val / 16)))
      (byte (Nat.digitChar (n.val % 16))) = some n.val := by
    decide
  have hhex := hall ⟨n, h⟩
  have hshort : shortEscape? (byte 'u') = none := by decide
  have hlow : isLowSurrogate n = false := by
    simp only [isLowSurrogate, Bool.and_eq_false_iff, decide_eq_false_iff_not]
    omega
  have hhigh : isHighSurrogate n = false := by
    simp only [isHighSurrogate, Bool.and_eq_false_iff, decide_eq_false_iff_not]
    omega
  simp only [readEscape, hshort, if_true, readUnicode, readHex4, hhex, hlow, hhigh,
    Bool.false_eq_true, if_false]

/-- A character within quotes is read back. -/
theorem readRaw_encode_escape (c : Char) {tail raw rest : Bytes}
    (h : readRaw tail = .ok (raw, rest)) :
    readRaw (encode (escape c) ++ tail) = .ok (String.utf8EncodeChar c ++ raw, rest) := by
  unfold escape
  split
  · next hc => subst hc; exact readRaw_escape (c := '"') rfl h
  split
  · next hc => subst hc; exact readRaw_escape (c := '\\') rfl h
  split
  · next hq hb hc =>
    have hbytes : encode [c] = String.utf8EncodeChar c := by simp [encode]
    rw [hbytes]
    exact readRaw_plain (isPlain_of_mem hq hb hc) h
  split
  · next hc => subst hc; exact readRaw_escape (c := '\x08') rfl h
  split
  · next hc => subst hc; exact readRaw_escape (c := '\t') rfl h
  split
  · next hc => subst hc; exact readRaw_escape (c := '\n') rfl h
  split
  · next hc => subst hc; exact readRaw_escape (c := '\x0c') rfl h
  split
  · next hc => subst hc; exact readRaw_escape (c := '\r') rfl h
  · next hlarge _ _ _ _ _ =>
    have hsmall : c.toNat < 0x20 := by omega
    have hdigit : ∀ n : Fin 16, (Nat.digitChar n.val).toNat < 0x80 := by decide
    have hesc := readUnicode_control hsmall tail
    rw [Char.ofNat_toNat] at hesc
    have hbytes : encode ['\\', 'u', '0', '0', Nat.digitChar (c.toNat / 16),
        Nat.digitChar (c.toNat % 16)] ++ tail = byte '\\' :: byte 'u' :: byte '0' :: byte '0'
          :: byte (Nat.digitChar (c.toNat / 16)) :: byte (Nat.digitChar (c.toNat % 16)) :: tail := by
      have hfirst := encodeChar_ascii (hdigit ⟨c.toNat / 16, by omega⟩)
      have hsecond := encodeChar_ascii (hdigit ⟨c.toNat % 16, by omega⟩)
      simp only [Utf8.encode_cons, Utf8.encode_nil, hfirst, hsecond]
      rfl
    rw [hbytes]
    exact readRaw_escape hesc h

theorem readRaw_escaped (cs : List Char) (rest : Bytes) :
    readRaw (encode (cs.flatMap escape) ++ byte '"' :: rest) = .ok (encode cs, rest) := by
  induction cs with
  | nil =>
    rw [List.flatMap_nil, Utf8.encode_nil, List.nil_append, readRaw, if_pos rfl]
  | cons c cs ih =>
    rw [List.flatMap_cons, Utf8.encode_append, List.append_assoc, Utf8.encode_cons]
    exact readRaw_encode_escape c ih

theorem readText_quoted (s : String) (rest : Bytes) :
    readText (encode (s.toList.flatMap escape) ++ byte '"' :: rest) = .ok (s, rest) := by
  rw [readText, readRaw_escaped]
  simp only [Utf8.decode_encode, String.ofList_toList]

/-! ## Integers -/

/-- What follows is not more of a number. -/
def EndsNumber (rest : Bytes) : Prop :=
  ∀ b ∈ rest.head?, isDigit b = false ∧ b ≠ byte '.' ∧ isExponentMark b = false

theorem digit?_digitChar {d : Nat} (h : d < 10) : digit? (byte (Nat.digitChar d)) = some d := by
  have hall : ∀ d : Fin 10, digit? (byte (Nat.digitChar d.val)) = some d.val := by decide
  exact hall ⟨d, h⟩

theorem encodeChar_digitChar {d : Nat} (h : d < 10) :
    String.utf8EncodeChar (Nat.digitChar d) = [byte (Nat.digitChar d)] := by
  have hall : ∀ d : Fin 10, (Nat.digitChar d.val).toNat < 0x80 := by decide
  exact encodeChar_ascii (hall ⟨d, h⟩)

theorem takeDigits_natural (limit : Nat) {n : Nat} (rest : Bytes) (h : n ≤ limit) :
    takeDigits limit 0 (encode (Integer.natural n) ++ rest) = takeDigits limit n rest := by
  induction n using Integer.natural.induct generalizing rest with
  | case1 n hn =>
    rw [Integer.natural, if_pos hn, Utf8.encode_cons, encodeChar_digitChar hn]
    simp [takeDigits, digit?_digitChar hn, h]
  | case2 n hn ih =>
    have hlast : n % 10 < 10 := Nat.mod_lt n (by decide)
    rw [Integer.natural, if_neg hn, Utf8.encode_append, List.append_assoc, ih _ (by omega),
      Utf8.encode_cons, encodeChar_digitChar hlast]
    have hn' : 10 * (n / 10) + n % 10 = n := Nat.div_add_mod n 10
    simp [takeDigits, digit?_digitChar hlast, hn', h]

/-- The digits of a number begin with a digit, which is zero only for zero. -/
theorem encode_natural (n : Nat) :
    ∃ d ds, d < 10 ∧ (d = 0 → n = 0) ∧
      encode (Integer.natural n) = byte (Nat.digitChar d) :: ds := by
  induction n using Integer.natural.induct with
  | case1 n hn =>
    refine ⟨n, [], hn, id, ?_⟩
    rw [Integer.natural, if_pos hn, Utf8.encode_cons, encodeChar_digitChar hn]
    rfl
  | case2 n hn ih =>
    obtain ⟨d, ds, hd, hzero, hds⟩ := ih
    refine ⟨d, ds ++ encode [Nat.digitChar (n % 10)], hd, fun h => ?_, ?_⟩
    · have := hzero h
      omega
    · rw [Integer.natural, if_neg hn, Utf8.encode_append, hds, List.cons_append]

theorem fits_iff (n : Int) :
    Number.fits n = true ↔ -9223372036854775808 ≤ n ∧ n ≤ 18446744073709551615 := by
  rw [Number.fits, Bool.and_eq_true, decide_eq_true_iff, decide_eq_true_iff]
  rfl

section Number

variable {rest : Bytes} (h : EndsNumber rest)
include h

theorem EndsNumber.startsWithDigit : startsWithDigit rest = false := by
  cases rest with
  | nil => rfl
  | cons b bs => simpa [Json.startsWithDigit] using (h b rfl).1

theorem EndsNumber.takeDigits (limit sofar : Nat) : takeDigits limit sofar rest = (sofar, rest) := by
  cases rest with
  | nil => rfl
  | cons b bs =>
    have hb : digit? b = none := by simpa [isDigit] using (h b rfl).1
    rw [Json.takeDigits, hb]

theorem EndsNumber.readTail (negative : Bool) (n : Nat) :
    readTail negative n 0 rest = .ok (ofInteger negative n, rest) := by
  cases rest with
  | nil => rfl
  | cons b bs =>
    obtain ⟨-, hpoint, hmark⟩ := h b rfl
    simp [Json.readTail, hpoint, hmark]

theorem readUnsigned_natural (negative : Bool) {n : Nat} (hn : n ≤ maxSignificand) :
    readUnsigned negative (encode (Integer.natural n) ++ rest)
      = .ok (ofInteger negative n, rest) := by
  have htake := takeDigits_natural maxSignificand rest hn
  rw [h.takeDigits] at htake
  obtain ⟨d, ds, hd, hzero, hds⟩ := encode_natural n
  have hdigit : isDigit (byte (Nat.digitChar d)) = true := by
    rw [isDigit, digit?_digitChar hd]
    rfl
  rw [hds, List.cons_append] at htake ⊢
  rw [readUnsigned]
  split
  · next hbyte =>
    have hd0 : d = 0 := by
      have := digit?_digitChar hd
      rw [hbyte] at this
      exact (Option.some.inj this).symm
    obtain rfl := hzero hd0
    have hnil : ds = [] := by
      rw [Integer.natural, if_pos (by decide)] at hds
      exact (List.cons.inj hds).2.symm
    rw [hnil, List.nil_append, h.startsWithDigit, if_neg (by simp)]
    exact h.readTail negative 0
  · have hdrop : dropDigits rest = rest := by
      cases rest with
      | nil => rfl
      | cons b bs => rw [dropDigits, List.dropWhile_cons_of_neg (by simp [(h b rfl).1])]
    have hcount : countDigits rest = 0 := by
      cases rest with
      | nil => rfl
      | cons b bs => rw [countDigits, List.takeWhile_cons_of_neg (by simp [(h b rfl).1])]; rfl
    rw [htake]
    dsimp only
    rw [hdrop, hcount]
    exact h.readTail negative n

/-- An integer that fits is read back. -/
theorem readNumber_integer {n : Int} (hn : Number.fits n = true) :
    readNumber (encode (Integer.integer n) ++ rest) = .ok (.integer n, rest) := by
  have hbounds := (fits_iff n).1 hn
  have hlimit : n.natAbs ≤ maxSignificand := by unfold maxSignificand; omega
  unfold Integer.integer
  split
  · next hneg =>
    have hvalue : -(n.natAbs : Int) = n := by omega
    rw [Utf8.encode_cons, encodeChar_ascii (by decide)]
    simp only [List.cons_append, List.nil_append, readNumber, if_true]
    rw [readUnsigned_natural h true hlimit, ofInteger]
    simp only [if_true, hvalue]
    rw [if_pos ⟨hn, by omega⟩]
  · next hneg =>
    have hvalue : (n.natAbs : Int) = n := by omega
    obtain ⟨d, ds, hd, -, hds⟩ := encode_natural n.natAbs
    have hread := readUnsigned_natural h false hlimit
    have hsign : byte (Nat.digitChar d) ≠ byte '-' := by
      intro he
      have hsome := digit?_digitChar hd
      rw [he] at hsome
      cases hsome
    rw [hds, List.cons_append] at hread ⊢
    rw [readNumber, if_neg hsign, hread, ofInteger]
    simp only [Bool.false_eq_true, if_false, hvalue]
    rw [if_pos ⟨hn, by simp⟩]

end Number

end DeviceTwin.Json
