import DeviceTwin.Json.Reader.Stop

/-!
# Reading JSON strings

`readText` reads a string whose opening quote has been taken. Escapes are turned into the bytes of
their character; whether all bytes form a text is seen at the closing quote.
-/
namespace DeviceTwin.Json

def hexDigit? (b : UInt8) : Option Nat :=
  let n := b.toNat
  if 0x30 ≤ n ∧ n ≤ 0x39 then some (n - 0x30)
  else if 0x41 ≤ n ∧ n ≤ 0x46 then some (n - 0x37)
  else if 0x61 ≤ n ∧ n ≤ 0x66 then some (n - 0x57)
  else none

/-- The number that four hexadecimal digits name. -/
def hex4? (a b c d : UInt8) : Option Nat :=
  match hexDigit? a, hexDigit? b, hexDigit? c, hexDigit? d with
  | some a, some b, some c, some d => some (((a * 16 + b) * 16 + c) * 16 + d)
  | _, _, _, _ => none

def readHex4 : Bytes → Reading Nat
  | a :: b :: c :: d :: rest =>
    match hex4? a b c d with
    | some n => .ok (n, rest)
    | none => stopAt .invalidEscape rest
  | _ => stopAt .endInString []

/-- Whether a number of 16 bits is the first half of a pair. -/
def isHighSurrogate (n : Nat) : Bool := 0xD800 ≤ n && n < 0xDC00

/-- Whether a number of 16 bits is the second half of a pair. -/
def isLowSurrogate (n : Nat) : Bool := 0xDC00 ≤ n && n < 0xE000

def pair (high low : Nat) : Char :=
  Char.ofNat (0x10000 + (high - 0xD800) * 0x400 + (low - 0xDC00))

/-- Reads the second half of a pair, an escape of its own. -/
def readLow (high : Nat) : Bytes → Reading Char
  | [] => stopAt .endInString []
  | b :: rest =>
    if b = byte '\\' then
      match rest with
      | [] => stopAt .endInString []
      | u :: rest =>
        if u = byte 'u' then
          match readHex4 rest with
          | .error e => .error e
          | .ok (low, rest) =>
            if isLowSurrogate low then .ok (pair high low, rest) else stopAt .loneSurrogate rest
        else stopAt .unfinishedSurrogate rest
    else stopAt .unfinishedSurrogate rest

/-- Reads a character behind `\u`. -/
def readUnicode (bs : Bytes) : Reading Char :=
  match readHex4 bs with
  | .error e => .error e
  | .ok (n, rest) =>
    if isLowSurrogate n then stopAt .loneSurrogate rest
    else if isHighSurrogate n then readLow n rest
    else .ok (Char.ofNat n, rest)

/-- The character of an escape of one letter. -/
def shortEscape? (b : UInt8) : Option Char :=
  if b = byte '"' then some '"'
  else if b = byte '\\' then some '\\'
  else if b = byte '/' then some '/'
  else if b = byte 'b' then some '\x08'
  else if b = byte 'f' then some '\x0c'
  else if b = byte 'n' then some '\n'
  else if b = byte 'r' then some '\r'
  else if b = byte 't' then some '\t'
  else none

def readEscape : Bytes → Reading Char
  | [] => stopAt .endInString []
  | b :: rest =>
    match shortEscape? b with
    | some c => .ok (c, rest)
    | none => if b = byte 'u' then readUnicode rest else stopAt .invalidEscape rest

theorem length_of_readHex4 {bs rest : Bytes} {n : Nat} (h : readHex4 bs = .ok (n, rest)) :
    rest.length < bs.length := by
  unfold readHex4 at h
  split at h
  · split at h
    · cases h; simp; omega
    · cases h
  · cases h

theorem length_of_readLow {high : Nat} {bs rest : Bytes} {c : Char}
    (h : readLow high bs = .ok (c, rest)) : rest.length < bs.length := by
  unfold readLow at h
  split at h
  · cases h
  split at h
  · split at h
    · cases h
    split at h
    · split at h
      · cases h
      · next hex =>
        have := length_of_readHex4 hex
        split at h
        · simp only [Except.ok.injEq, Prod.mk.injEq] at h
          simp only [List.length_cons, ← h.2]; omega
        · cases h
    · cases h
  · cases h

theorem length_of_readUnicode {bs rest : Bytes} {c : Char}
    (h : readUnicode bs = .ok (c, rest)) : rest.length < bs.length := by
  unfold readUnicode at h
  split at h
  · cases h
  · next hex =>
    have := length_of_readHex4 hex
    split at h
    · cases h
    split at h
    · exact Nat.lt_trans (length_of_readLow h) this
    · cases h; exact this

theorem length_of_readEscape {bs rest : Bytes} {c : Char}
    (h : readEscape bs = .ok (c, rest)) : rest.length < bs.length := by
  unfold readEscape at h
  split at h
  · cases h
  split at h
  · cases h; simp
  split at h
  · have := length_of_readUnicode h
    simp; omega
  · cases h

/-- The bytes of a string up to its closing quote, escapes replaced. -/
def readRaw : Bytes → Reading Bytes
  | [] => stopAt .endInString []
  | b :: rest =>
    if b = byte '"' then .ok ([], rest)
    else if b = byte '\\' then
      match _h : readEscape rest with
      | .error e => .error e
      | .ok (c, rest') => (readRaw rest').map fun (cs, r) => (String.utf8EncodeChar c ++ cs, r)
    else if b.toNat < 0x20 then stopAt .controlCharacter rest
    else (readRaw rest).map fun (cs, r) => (b :: cs, r)
termination_by bs => bs.length
decreasing_by
  · have := length_of_readEscape _h; simp; omega
  · simp

def readText (bs : Bytes) : Reading String :=
  match readRaw bs with
  | .error e => .error e
  | .ok (raw, rest) =>
    match Utf8.decode raw with
    | (cs, []) => .ok (String.ofList cs, rest)
    | (_, broken) => .error ⟨.invalidCodePoint, rest.length, broken.length⟩

end DeviceTwin.Json
