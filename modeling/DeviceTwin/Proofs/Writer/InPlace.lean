import DeviceTwin.Proofs.Attempt
import DeviceTwin.Proofs.Writer.Calls

/-!
# Writing in place

A writer is a text and the bytes behind it. The bytes of a text are not appended to anything, though:
they are written over those of a region that the caller owns, at a place that a length tells. Here the
calls are made in this way, one assignment after the other. A length below zero and a byte outside of
the region are faults of their own, so that neither happens is a theorem and no assumption.

Results:
* `put_eq`: a token is written behind the text with the comma that is due, or nothing is.
* `piece_eq`: what a piece does to a buffer whose text lies within the region.
* `call_cases`: a call ends as it does on a writer, and no fault occurs.
* `Follows.afterAll`: behind any calls the text lies within the region, and it is the text of the writer.
* `only_behind_text`: a call that fails changes nothing, and one that succeeds only the bytes between
  the old end of the text and the new one.
-/
namespace DeviceTwin

/-- A region with a text at its start. -/
structure Buffer where
  /-- All bytes of the region. -/
  region : Bytes
  /-- The number of bytes of the text. -/
  length : Nat
  /-- The open containers, the innermost first. -/
  scopes : List Scope
  separatorDue : Bool
  valueDue : Bool
  deriving DecidableEq, Repr

/-- The writer behind calls, one after the other, of which each may succeed or fail. -/
def Writer.afterCalls (w : Writer) (calls : List Writer.Given) : Writer :=
  calls.foldl (fun w given => Attempt.final (give given w)) w

namespace Buffer

/-- Why a call on a buffer ends. -/
inductive Fault where
  | failed (error : PropertyError)
  /-- A length went below zero. -/
  | underflow
  /-- A byte was written outside of the region. -/
  | outside
  deriving DecidableEq, Repr

abbrev Action := EStateM Fault Buffer

def of (region : Bytes) : Buffer := ⟨region, 0, [], false, false⟩

/-! ## Calls -/

def remaining : Action Nat := fun b =>
  if b.length ≤ b.region.length then .ok (b.region.length - b.length) b else .error .underflow b

/-- A region with other bytes from `start` on. -/
def splice (region : Bytes) (start : Nat) (bytes : Bytes) : Bytes :=
  region.take start ++ bytes ++ region.drop (start + bytes.length)

def overwrite (start : Nat) (bytes : Bytes) : Action Unit := fun b =>
  if start + bytes.length ≤ b.region.length then
    .ok () { b with region := splice b.region start bytes }
  else .error .outside b

/-- The number of commas in front of the next part. -/
def commas (b : Buffer) : Nat := if b.separatorDue && !b.valueDue then 1 else 0

/-- Writes a token behind the text, and in front of it the comma that is due. -/
def put (token : Bytes) : Action Unit := do
  let b ← get
  let required := b.commas + token.length
  let available ← remaining
  if available < required then throw (.failed (.insufficientBuffer required available))
  if b.commas = 1 then overwrite b.length [Json.byte ',']
  overwrite (b.length + b.commas) token
  modify fun c => { c with length := b.length + b.commas + token.length }

/-- Fails where a name has to come first. -/
def expectValue : Action Unit := do
  let b ← get
  if b.scopes.head? = some .object ∧ !b.valueDue then
    throw (.failed (.invalidState .nameMissing))

def value (token : Bytes) : Action Unit := do
  expectValue
  put token
  modify fun b => { b with separatorDue := true, valueDue := false }

def enter (scope : Scope) (token : Bytes) : Action Unit := do
  expectValue
  put token
  modify fun b => { b with scopes := scope :: b.scopes, separatorDue := false, valueDue := false }

/-- Ends the innermost container. No comma comes in front of its end, so none is due for as long as it
is being written. -/
def leave (scope : Scope) (token : Bytes) : Action Unit := fun b =>
  if b.scopes.head? ≠ some scope ∨ b.valueDue then
    .error (.failed (.invalidState (.cannotClose scope))) b
  else
    match put token { b with separatorDue := false } with
    | .ok () c => .ok () { c with scopes := c.scopes.tail, separatorDue := true }
    | .error e c => .error e { c with separatorDue := b.separatorDue }

def name (token : Bytes) : Action Unit := do
  let b ← get
  if b.scopes.head? ≠ some .object ∨ b.valueDue then
    throw (.failed (.invalidState .nameOutsideObject))
  put token
  modify fun b => { b with separatorDue := false, valueDue := true }

def piece : Piece → Action Unit
  | .opening scope => enter scope (Piece.opening scope).bytes
  | .closing scope => leave scope (Piece.closing scope).bytes
  | .name n => name (Piece.name n).bytes
  | .value v => value (Piece.value v).bytes

def call : Writer.Given → Action Unit
  | .ok p => piece p
  | .error reason => throw (.failed (.invalidArgument (.unencodable reason)))

/-! ## Bytes over others -/

section Splice

variable {region bytes more : Bytes} {start : Nat}

theorem length_splice (h : start + bytes.length ≤ region.length) :
    (splice region start bytes).length = region.length := by
  simp only [splice, List.length_append, List.length_take, List.length_drop]
  omega

theorem getElem?_splice {i : Nat} (h : start + bytes.length ≤ region.length)
    (hi : i < start ∨ start + bytes.length ≤ i) : (splice region start bytes)[i]? = region[i]? := by
  unfold splice
  rcases hi with hi | hi
  · rw [List.append_assoc, List.getElem?_append_left (by simp; omega), List.getElem?_take_of_lt hi]
  · rw [List.getElem?_append_right (by simp; omega), List.getElem?_drop]
    congr 1
    simp
    omega

theorem take_splice (h : start ≤ region.length) :
    (splice region start bytes).take (start + bytes.length) = region.take start ++ bytes := by
  have hfront : (region.take start ++ bytes).length = start + bytes.length := by simp; omega
  rw [splice, ← hfront, List.take_left]

theorem drop_splice (h : start ≤ region.length) :
    (splice region start bytes).drop (start + bytes.length)
      = region.drop (start + bytes.length) := by
  have hfront : (region.take start ++ bytes).length = start + bytes.length := by simp; omega
  rw [splice, ← hfront, List.drop_left]

theorem splice_splice (h : start ≤ region.length) :
    splice (splice region start bytes) (start + bytes.length) more
      = splice region start (bytes ++ more) := by
  rw [splice, take_splice h, ← List.drop_drop, drop_splice h, List.drop_drop, splice,
    List.length_append, List.append_assoc _ bytes, Nat.add_assoc]

end Splice

/-! ## Buffers and writers -/

/-- The text lies within the region. -/
def Sound (b : Buffer) : Prop := b.length ≤ b.region.length

/-- The writer of a text and the bytes behind it. -/
def toWriter (b : Buffer) : Writer :=
  ⟨b.region.take b.length, b.region.drop b.length, b.scopes, b.separatorDue, b.valueDue⟩

def withComma (b : Buffer) (token : Bytes) : Bytes :=
  (if b.separatorDue && !b.valueDue then [Json.byte ','] else []) ++ token

def extended (b : Buffer) (bytes : Bytes) : Buffer :=
  { b with region := splice b.region b.length bytes, length := b.length + bytes.length }

/-- The buffer behind a piece that is admitted and fits. -/
def appended (b : Buffer) (p : Piece) : Buffer :=
  { b.extended (b.toWriter.needed p) with
    scopes := b.toWriter.scopesAfter p
    separatorDue := Writer.separatorDueAfter p
    valueDue := Writer.valueDueAfter p }

/-- The answer of a call that writes bytes and leaves `c` behind where there is room for them. -/
def ifRoom (b : Buffer) (bytes : Bytes) (c : Buffer) : EStateM.Result Fault Buffer Unit :=
  if bytes.length ≤ b.toWriter.remaining then .ok () c
  else .error (.failed (.insufficientBuffer bytes.length b.toWriter.remaining)) b

theorem length_withComma (b : Buffer) (token : Bytes) :
    (b.withComma token).length = b.commas + token.length := by
  unfold withComma commas
  split <;> simp [Nat.add_comm]

theorem length_needed (b : Buffer) (p : Piece) :
    (b.toWriter.needed p).length = (if p.beginsPart then b.commas else 0) + p.bytes.length := by
  cases p with
  | closing scope => exact (Nat.zero_add _).symm
  | opening scope | name n | value v => exact length_withComma b _

theorem remaining_toWriter (b : Buffer) : b.toWriter.remaining = b.region.length - b.length := by
  simp [toWriter, Writer.remaining]

theorem atName_toWriter (b : Buffer) :
    b.toWriter.atName = true ↔ b.scopes.head? = some .object ∧ b.valueDue = false :=
  b.toWriter.atName_iff

theorem refusal?_closing (b : Buffer) (scope : Scope) :
    b.toWriter.refusal? (.closing scope)
      = if b.scopes.head? = some scope ∧ b.valueDue = false then none
        else some (.cannotClose scope) := by
  simp [Writer.refusal?, toWriter]

section Calls

variable {b : Buffer}

theorem remaining_eq (h : b.Sound) : remaining b = .ok b.toWriter.remaining b := by
  unfold Sound at h
  simp [remaining, remaining_toWriter, h]

theorem overwrite_eq {start : Nat} {bytes : Bytes} (h : start + bytes.length ≤ b.region.length) :
    overwrite start bytes b = .ok () { b with region := splice b.region start bytes } := by
  unfold overwrite
  rw [if_pos h]

/-- A token is written behind the text with the comma that is due, or nothing is. -/
theorem put_eq (h : b.Sound) (token : Bytes) :
    put token b = b.ifRoom (b.withComma token) (b.extended (b.withComma token)) := by
  unfold put ifRoom
  rw [Attempt.get_bind, Attempt.bind_ok (remaining_eq h), length_withComma]
  by_cases hfits : b.commas + token.length ≤ b.toWriter.remaining
  · rw [if_pos hfits, if_neg (by omega)]
    rw [remaining_toWriter] at hfits
    unfold Sound at h
    by_cases hdue : (b.separatorDue && !b.valueDue) = true
    · have hcommas : b.commas = 1 := by simp [commas, hdue]
      have hcomma : b.withComma token = [Json.byte ','] ++ token := by simp [withComma, hdue]
      rw [hcommas] at hfits
      have hone : b.length + [Json.byte ','].length ≤ b.region.length := by simp; omega
      have htoken : b.length + 1 + token.length
          ≤ (splice b.region b.length [Json.byte ',']).length := by
        rw [length_splice hone]
        omega
      simp only [hcommas, if_true, Attempt.bind_ok (overwrite_eq hone)]
      rw [Attempt.bind_ok (overwrite_eq htoken), Attempt.modify_apply]
      have hboth : splice (splice b.region b.length [Json.byte ',']) (b.length + 1) token
          = splice b.region b.length ([Json.byte ','] ++ token) := splice_splice h
      simp only [extended, hcomma, hboth, List.length_append, List.length_singleton, Nat.add_assoc]
    · have hcommas : b.commas = 0 := by simp [commas, hdue]
      have hcomma : b.withComma token = token := by simp [withComma, hdue]
      rw [hcommas] at hfits
      have htoken : b.length + 0 + token.length ≤ b.region.length := by omega
      simp only [hcommas, Nat.zero_ne_one, if_false]
      rw [Attempt.bind_ok (overwrite_eq htoken), Attempt.modify_apply]
      simp only [extended, hcomma, Nat.add_zero]
  · rw [if_neg hfits, if_pos (by omega)]
    rfl

theorem put_bind_modify (h : b.Sound) (token : Bytes) (f : Buffer → Buffer) :
    (put token >>= fun _ => (modify f : Action Unit)) b
      = b.ifRoom (b.withComma token) (f (b.extended (b.withComma token))) := by
  have heq := put_eq h token
  unfold ifRoom at heq ⊢
  by_cases hfits : (b.withComma token).length ≤ b.toWriter.remaining
  · rw [if_pos hfits] at heq ⊢
    rw [Attempt.bind_ok heq, Attempt.modify_apply]
  · rw [if_neg hfits] at heq ⊢
    exact Attempt.bind_error heq

/-- A value is refused in the first place where a name has to come first. -/
theorem expectValue_bind (b : Buffer) (f : Unit → Action Unit) :
    (expectValue >>= f) b
      = if b.toWriter.atName then .error (.failed (.invalidState .nameMissing)) b else f () b := by
  unfold expectValue
  by_cases hname : b.scopes.head? = some .object ∧ b.valueDue = false
  · rw [if_pos (b.atName_toWriter.2 hname)]
    refine Attempt.bind_error ?_
    simp [hname]
  · rw [if_neg (mt b.atName_toWriter.1 hname)]
    refine Attempt.bind_ok ?_
    simp [hname]

theorem leave_eq (h : b.Sound) (scope : Scope) :
    leave scope (Piece.closing scope).bytes b = match b.toWriter.refusal? (.closing scope) with
      | some fault => .error (.failed (.invalidState fault)) b
      | none => b.ifRoom (b.toWriter.needed (.closing scope)) (b.appended (.closing scope)) := by
  rw [refusal?_closing]
  unfold leave
  by_cases hopen : b.scopes.head? = some scope ∧ b.valueDue = false
  · have hsound : Sound { b with separatorDue := false } := h
    rw [if_neg (by simp [hopen]), if_pos hopen, put_eq hsound]
    unfold ifRoom
    -- No comma is due for as long as the end is being written, and the room is what it was.
    have hneeded : withComma { b with separatorDue := false } (Piece.closing scope).bytes
        = b.toWriter.needed (.closing scope) := rfl
    have hroom : (toWriter { b with separatorDue := false }).remaining
        = b.toWriter.remaining := rfl
    rw [hneeded, hroom]
    by_cases hfits : (b.toWriter.needed (.closing scope)).length ≤ b.toWriter.remaining
    · simp only [if_pos hfits, appended, extended, Writer.scopesAfter, Writer.separatorDueAfter,
        Writer.valueDueAfter, hopen.2]
      rfl
    · simp only [if_neg hfits]
  · have hshut : b.scopes.head? ≠ some scope ∨ b.valueDue = true := by
      by_cases hscope : b.scopes.head? = some scope
      · exact .inr (by simpa [hscope] using hopen)
      · exact .inl hscope
    rw [if_pos hshut, if_neg hopen]

/-- What a piece does to a buffer whose text lies within the region: it is refused, or it is written
behind the text, or there is no room for it. -/
theorem piece_eq (h : b.Sound) (p : Piece) :
    piece p b = match b.toWriter.refusal? p with
      | some fault => .error (.failed (.invalidState fault)) b
      | none => b.ifRoom (b.toWriter.needed p) (b.appended p) := by
  cases p with
  | opening scope =>
    rw [piece, enter, expectValue_bind, put_bind_modify h, Writer.refusal?]
    cases b.toWriter.atName <;> rfl
  | value v =>
    rw [piece, value, expectValue_bind, put_bind_modify h, Writer.refusal?]
    cases b.toWriter.atName <;> rfl
  | name n =>
    rw [piece, name, Attempt.get_bind, Writer.refusal?]
    by_cases hname : b.toWriter.atName = true
    · have hhere := b.atName_toWriter.1 hname
      rw [if_neg (by simp [hhere]), if_pos hname]
      exact put_bind_modify h _ _
    · have helsewhere : b.scopes.head? ≠ some .object ∨ b.valueDue = true := by
        by_cases hscope : b.scopes.head? = some .object
        · exact .inr (by simpa [atName_toWriter, hscope] using hname)
        · exact .inl hscope
      rw [if_pos helsewhere, if_neg hname]
      rfl
  | closing scope => exact leave_eq h scope

/-- Behind a piece that fits the text lies within the region, and it is that of the writer. -/
theorem appended_of_room (h : b.Sound) {p : Piece}
    (hfits : (b.toWriter.needed p).length ≤ b.toWriter.remaining) :
    (b.appended p).Sound ∧ (b.appended p).toWriter = b.toWriter.appended p := by
  unfold Sound at h
  rw [remaining_toWriter] at hfits
  have hroom : b.length + (b.toWriter.needed p).length ≤ b.region.length := by omega
  constructor
  · show b.length + _ ≤ (splice _ _ _).length
    rw [length_splice hroom]
    exact hroom
  · have hlength : (b.appended p).length = b.length + (b.toWriter.needed p).length := rfl
    show Writer.mk ((splice _ _ _).take _) ((splice _ _ _).drop _) _ _ _ = _
    rw [hlength, take_splice h, drop_splice h, ← List.drop_drop]
    rfl

/-- A call appends its piece, or it fails for a reason that the writer has too and leaves everything
as it was. No fault occurs. -/
theorem call_cases (h : b.Sound) (given : Writer.Given) :
    (∃ p, given = .ok p ∧ (b.toWriter.needed p).length ≤ b.toWriter.remaining ∧
      call given b = .ok () (b.appended p) ∧
      Writer.give given b.toWriter = .ok () (b.toWriter.appended p)) ∨
    ∃ e, call given b = .error (.failed e) b ∧
      Writer.give given b.toWriter = .error e b.toWriter := by
  cases given with
  | error reason => exact .inr ⟨_, rfl, rfl⟩
  | ok p =>
    have hcall := piece_eq h p
    have hgive := b.toWriter.append_eq p
    unfold ifRoom at hcall
    cases hrefusal : b.toWriter.refusal? p with
    | some fault =>
      rw [hrefusal] at hcall hgive
      exact .inr ⟨_, hcall, hgive⟩
    | none =>
      rw [hrefusal] at hcall hgive
      by_cases hfits : (b.toWriter.needed p).length ≤ b.toWriter.remaining
      · simp only [if_pos hfits] at hcall hgive
        exact .inl ⟨p, rfl, hfits, hcall, hgive⟩
      · simp only [if_neg hfits] at hcall hgive
        exact .inr ⟨_, hcall, hgive⟩

end Calls

/-! ## Runs -/

def afterAll (b : Buffer) (calls : List Writer.Given) : Buffer :=
  calls.foldl (fun b given => Attempt.final (call given b)) b

/-- The buffer is sound, its region has this size, and its text is that of the writer. -/
structure Follows (b : Buffer) (size : Nat) (w : Writer) : Prop where
  sound : b.Sound
  size : b.region.length = size
  writer : b.toWriter = w

theorem Follows.call {b : Buffer} {size : Nat} {w : Writer} (h : b.Follows size w)
    (given : Writer.Given) :
    (Attempt.final (call given b)).Follows size (Attempt.final (Writer.give given w)) := by
  obtain ⟨hsound, hsize, rfl⟩ := h
  rcases call_cases hsound given with ⟨p, -, hfits, hcall, hgive⟩ | ⟨e, hcall, hgive⟩ <;>
    rw [hcall, hgive]
  · obtain ⟨hbehind, hwriter⟩ := appended_of_room hsound hfits
    refine ⟨hbehind, ?_, hwriter⟩
    rw [remaining_toWriter] at hfits
    unfold Sound at hsound
    show (splice _ _ _).length = size
    rw [length_splice (by omega), hsize]
  · exact ⟨hsound, hsize, rfl⟩

/-- Behind any calls the text lies within the region, and it is the text of the writer. -/
theorem Follows.afterAll {b : Buffer} {size : Nat} {w : Writer} (h : b.Follows size w)
    (calls : List Writer.Given) : (b.afterAll calls).Follows size (w.afterCalls calls) := by
  induction calls generalizing b w with
  | nil => exact h
  | cons given calls ih => exact ih (h.call given)

theorem follows_of (region : Bytes) :
    (of region).Follows region.length (Writer.ofRegion region) :=
  ⟨Nat.zero_le _, rfl, rfl⟩

/-- Only the bytes behind the text change. Over any region and behind any calls, of which each may have
succeeded or failed, the text lies within the region, so that the number of bytes behind it can be
told, and text, containers and flags are those of the writer. A further call ends as it does on the
writer. If it fails, then nothing has changed, not even a byte behind the text; if it fails for want
of room, it reports the bytes of its token with the comma that is due, and the bytes behind the text,
which are fewer. If it succeeds, only bytes between the old end of the text and the new one have
changed. -/
theorem only_behind_text (region : Bytes) (calls : List Writer.Given) (given : Writer.Given)
    (b : Buffer) (h : (of region).afterAll calls = b) :
    b.region.length = region.length ∧
    (∃ available, remaining b = .ok available b ∧ b.length + available = region.length) ∧
    b.toWriter = (Writer.ofRegion region).afterCalls calls ∧
    (∀ fault b', call given b = .error fault b' →
      b' = b ∧ ∃ e, fault = .failed e ∧ Writer.give given b.toWriter = .error e b.toWriter ∧
        ∀ required available, e = .insufficientBuffer required available →
          ∃ p, given = .ok p ∧
            required = (if p.beginsPart then b.commas else 0) + p.bytes.length ∧
            remaining b = .ok available b ∧ available < required) ∧
    ∀ b', call given b = .ok () b' →
      Writer.give given b.toWriter = .ok () b'.toWriter ∧
      b.length ≤ b'.length ∧ b'.length ≤ region.length ∧ b'.region.length = region.length ∧
      ∀ i, i < b.length ∨ b'.length ≤ i → b'.region[i]? = b.region[i]? := by
  obtain ⟨hsound, hsize, hwriter⟩ := (follows_of region).afterAll calls
  rw [h] at hsound hsize hwriter
  have hleft := remaining_eq hsound
  have hlength := hsound
  unfold Sound at hlength
  refine ⟨hsize, ⟨_, hleft, by rw [remaining_toWriter]; omega⟩, hwriter, ?_, ?_⟩
  · intro fault b' hcall
    rcases call_cases hsound given with ⟨p, -, -, hok, -⟩ | ⟨e, herror, hgive⟩
    · cases hcall.symm.trans hok
    · cases hcall.symm.trans herror
      refine ⟨rfl, e, rfl, hgive, ?_⟩
      rintro required available rfl
      cases given with
      | error reason => cases hgive
      | ok p =>
        obtain ⟨-, rfl, rfl, hless⟩ := (Writer.append_full_iff _ p _ _).1 ⟨_, hgive⟩
        exact ⟨p, rfl, length_needed b p, hleft, hless⟩
  · intro b' hcall
    rcases call_cases hsound given with ⟨p, -, hfits, hok, hgive⟩ | ⟨e, herror, -⟩
    · cases hcall.symm.trans hok
      obtain ⟨hbehind, heq⟩ := appended_of_room hsound hfits
      rw [remaining_toWriter] at hfits
      have hroom : b.length + (b.toWriter.needed p).length ≤ b.region.length := by omega
      refine ⟨hgive.trans (by rw [heq]), Nat.le_add_right _ _, ?_, ?_, ?_⟩
      · show b.length + _ ≤ _
        omega
      · exact (length_splice hroom).trans hsize
      · intro i hi
        exact getElem?_splice hroom hi
    · cases hcall.symm.trans herror

/-- Calls of which the first has nothing to write and the last breaks the grammar. -/
def sampleGiven : List Writer.Given :=
  [.error "key must be a string", .ok (.opening .object), .ok (.value .null)]

/-- What they leave of eight full stops: a brace, and seven of them behind it. -/
def sampleBuffer : Buffer := ⟨123 :: List.replicate 7 46, 1, [.object], false, false⟩

theorem only_behind_text_sample :
    (of (List.replicate 8 46)).afterAll sampleGiven = sampleBuffer ∧
      call (.ok (.name "temperature")) sampleBuffer
        = .error (.failed (.insufficientBuffer 14 7)) sampleBuffer ∧
      remaining sampleBuffer = .ok 7 sampleBuffer ∧
      ∃ b, call (.ok (.name "a")) sampleBuffer = .ok () b ∧ b.length = 5 ∧
        ∀ i, i < 1 ∨ 5 ≤ i → b.region[i]? = sampleBuffer.region[i]? := by
  have hcalls : (of (List.replicate 8 46)).afterAll sampleGiven = sampleBuffer := by
    decide +kernel
  obtain ⟨-, -, -, herror, -⟩ := only_behind_text _ _ (.ok (.name "temperature")) _ hcalls
  obtain ⟨-, -, -, -, hok⟩ := only_behind_text _ _ (.ok (.name "a")) _ hcalls
  have hfull : call (.ok (.name "temperature")) sampleBuffer
      = .error (.failed (.insufficientBuffer 14 7)) sampleBuffer := rfl
  obtain ⟨-, e, he, -, hreport⟩ := herror _ _ hfull
  cases he
  obtain ⟨p, -, -, hremaining, -⟩ := hreport 14 7 rfl
  obtain ⟨-, -, -, -, hkept⟩ := hok _ rfl
  exact ⟨hcalls, hfull, hremaining, _, rfl, rfl, hkept⟩

end Buffer
end DeviceTwin
