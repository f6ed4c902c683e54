/-!
# UTF-8

Characters as bytes and back. `encode` writes characters, `decode` reads the longest run of whole
characters at the start of some bytes and hands back the rest.

Results:
* `first?_encodeChar`: the first character of an encoding is read back, whatever follows it.
* `decode_encode`: reading undoes writing and leaves nothing.
-/
namespace DeviceTwin

abbrev Bytes := List UInt8

namespace Utf8

/-- The UTF-8 form of a list of characters. -/
def encode (cs : List Char) : Bytes := cs.flatMap String.utf8EncodeChar

/-- The six payload bits of a continuation byte. -/
def tail? (b : UInt8) : Option Nat :=
  if 0x80 ≤ b.toNat ∧ b.toNat < 0xC0 then some (b.toNat - 0x80) else none

/-- The character with code point `n`, if `n` is one that needs at least the bytes of `least`. -/
def scalar? (least n : Nat) : Option Char :=
  if least ≤ n ∧ n.isValidChar then some (Char.ofNat n) else none

/-- The character that starts the bytes, and the bytes behind it. Overlong forms, surrogates and
code points above `0x10FFFF` are refused. -/
def first? : Bytes → Option (Char × Bytes)
  | [] => none
  | a :: rest =>
    let lead := a.toNat
    if lead < 0x80 then some (Char.ofNat lead, rest)
    else if 0xC2 ≤ lead ∧ lead < 0xE0 then
      match rest with
      | b :: rest => (tail? b).map fun y => (Char.ofNat ((lead - 0xC0) * 64 + y), rest)
      | [] => none
    else if 0xE0 ≤ lead ∧ lead < 0xF0 then
      match rest with
      | b :: c :: rest =>
        (tail? b).bind fun y => (tail? c).bind fun z =>
          (scalar? 0x800 ((lead - 0xE0) * 4096 + y * 64 + z)).map (·, rest)
      | _ => none
    else if 0xF0 ≤ lead ∧ lead < 0xF5 then
      match rest with
      | b :: c :: d :: rest =>
        (tail? b).bind fun x => (tail? c).bind fun y => (tail? d).bind fun z =>
          (scalar? 0x10000 ((lead - 0xF0) * 262144 + x * 4096 + y * 64 + z)).map (·, rest)
      | _ => none
    else none

theorem length_of_first? {bs rest : Bytes} {c : Char} (h : first? bs = some (c, rest)) :
    rest.length < bs.length := by
  unfold first? at h
  split at h
  · simp at h
  · grind [Option.bind_eq_some_iff, Option.map_eq_some_iff]

/-- The characters of the longest prefix in UTF-8, and the bytes from the first fault on. -/
def decode (bs : Bytes) : List Char × Bytes :=
  match _h : first? bs with
  | some (c, rest) =>
    let (cs, left) := decode rest
    (c :: cs, left)
  | none => ([], bs)
termination_by bs.length
decreasing_by exact length_of_first? _h

/-- The text with this UTF-8 form, if there is one. -/
def toText? (bs : Bytes) : Option String :=
  match decode bs with
  | (cs, []) => some (String.ofList cs)
  | _ => none

def ofText (s : String) : Bytes := encode s.toList

@[simp] theorem encode_nil : encode [] = [] := rfl

@[simp] theorem encode_append (a b : List Char) : encode (a ++ b) = encode a ++ encode b := by
  simp [encode]

@[simp] theorem encode_cons (c : Char) (cs : List Char) :
    encode (c :: cs) = String.utf8EncodeChar c ++ encode cs := by
  simp [encode]

/-! ## Reading back -/

theorem tail?_ofNat {n : Nat} (h : n < 64) : tail? (UInt8.ofNat (n + 128)) = some n := by
  have hn : (UInt8.ofNat (n + 128)).toNat = n + 128 := by rw [UInt8.toNat_ofNat']; omega
  simp only [tail?, hn]
  split
  · simp
  · omega

theorem toNat_byte {n : Nat} (h : n < 256) : (UInt8.ofNat n).toNat = n := by
  rw [UInt8.toNat_ofNat']; omega

theorem scalar?_toNat {least n : Nat} {c : Char} (h : n = c.toNat) (hl : least ≤ n) :
    scalar? least n = some c := by
  subst h
  rw [scalar?, if_pos ⟨hl, c.valid⟩, Char.ofNat_toNat]

theorem toNat_lt (c : Char) : c.toNat < 0x110000 := by
  rcases c.valid with h | h
  · exact Nat.lt_trans h (by decide)
  · exact h.2

theorem first?_encodeChar (c : Char) (rest : Bytes) :
    first? (String.utf8EncodeChar c ++ rest) = some (c, rest) := by
  have hv := toNat_lt c
  simp only [String.utf8EncodeChar, Char.toNat_val]
  split
  · simp only [List.cons_append, List.nil_append, first?]
    rw [toNat_byte (by omega), if_pos (by omega), Char.ofNat_toNat]
  · split
    · simp only [List.cons_append, List.nil_append, first?]
      have e : (c.toNat / 64 % 32 + 192 - 192) * 64 + c.toNat % 64 = c.toNat := by omega
      rw [toNat_byte (by omega), if_neg (by omega), if_pos (by omega), tail?_ofNat (by omega),
        Option.map_some, e, Char.ofNat_toNat]
    · split
      · simp only [List.cons_append, List.nil_append, first?]
        rw [toNat_byte (by omega), if_neg (by omega), if_neg (by omega), if_pos (by omega),
          tail?_ofNat (by omega), tail?_ofNat (by omega)]
        rw [Option.bind_some, Option.bind_some,
          scalar?_toNat (c := c) (by omega) (by omega), Option.map_some]
      · simp only [List.cons_append, List.nil_append, first?]
        rw [toNat_byte (by omega), if_neg (by omega), if_neg (by omega), if_neg (by omega),
          if_pos (by omega), tail?_ofNat (by omega), tail?_ofNat (by omega), tail?_ofNat (by omega)]
        rw [Option.bind_some, Option.bind_some, Option.bind_some,
          scalar?_toNat (c := c) (by omega) (by omega), Option.map_some]

/-- Reading undoes writing and leaves nothing. -/
theorem decode_encode (cs : List Char) : decode (encode cs) = (cs, []) := by
  induction cs with
  | nil => rw [decode]; rfl
  | cons c cs ih =>
    rw [encode_cons, decode]
    split
    · next h =>
      rw [first?_encodeChar] at h
      simp only [Option.some.injEq, Prod.mk.injEq] at h
      obtain ⟨rfl, rfl⟩ := h
      rw [ih]
    · next h => rw [first?_encodeChar] at h; cases h

@[simp] theorem encode_eq_nil_iff {cs : List Char} : encode cs = [] ↔ cs = [] := by
  constructor
  · intro h
    have hback := decode_encode cs
    rw [h, ← encode_nil, decode_encode] at hback
    exact (congrArg Prod.fst hback).symm
  · rintro rfl
    rfl

theorem toText?_ofText (s : String) : toText? (ofText s) = some s := by
  simp [toText?, ofText, decode_encode]

end DeviceTwin.Utf8
