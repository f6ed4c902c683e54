import DeviceTwin.Acknowledgement.Payload
import DeviceTwin.Proofs.Attempt
import DeviceTwin.Proofs.Writer.Outline

/-!
# Payloads in a region that is used again

A device writes each payload at the start of one region, over what the one before left there. What
stands in the region does not matter: over regions of one size the same calls succeed and the same
bytes are written, and the region keeps its size whether or not they do.

Results:
* `Respects.bind`: a computation respects a relation if its parts do.
* `respects_writePayload`: payloads that are alike stay alike.
* `writeIn_cases`: what a payload leaves in a region.
-/
namespace DeviceTwin

/-! ## Computations that respect a relation -/

namespace Attempt

variable {ε σ α β : Type} {r : σ → σ → Prop}

/-- In related states the computation answers the same, and it leaves related states. -/
def Respects (r : σ → σ → Prop) (x : EStateM ε σ α) : Prop :=
  ∀ s s', r s s' → (∃ a t t', x s = .ok a t ∧ x s' = .ok a t' ∧ r t t') ∨
    ∃ e t t', x s = .error e t ∧ x s' = .error e t' ∧ r t t'

theorem respects_pure (a : α) : Respects r (pure a : EStateM ε σ α) :=
  fun s s' h => .inl ⟨a, s, s', rfl, rfl, h⟩

theorem respects_throw (e : ε) : Respects r (throw e : EStateM ε σ α) :=
  fun s s' h => .inr ⟨e, s, s', rfl, rfl, h⟩

theorem respects_modify {f : σ → σ} (h : ∀ s s', r s s' → r (f s) (f s')) :
    Respects r (modify f : EStateM ε σ PUnit) :=
  fun s s' hs => .inl ⟨⟨⟩, f s, f s', rfl, rfl, h s s' hs⟩

theorem Respects.bind {x : EStateM ε σ α} {f : α → EStateM ε σ β} (hx : Respects r x)
    (hf : ∀ a, Respects r (f a)) : Respects r (x >>= f) := by
  intro s s' hs
  rcases hx s s' hs with ⟨a, t, t', h, h', ht⟩ | ⟨e, t, t', h, h', ht⟩
  · rw [bind_ok h, bind_ok h']
    exact hf a t t' ht
  · exact .inr ⟨e, t, t', bind_error h, bind_error h', ht⟩

end Attempt

open Attempt (Respects respects_modify respects_pure respects_throw)

/-! ## Writers -/

namespace Writer

/-- All bytes of the region. -/
def region (w : Writer) : Bytes := w.written ++ w.spare

theorem length_region (w : Writer) : w.region.length = w.capacity := List.length_append

/-- Both writers are in regions of this size and differ in the bytes behind the text at most. -/
def Alike (size : Nat) (w w' : Writer) : Prop :=
  w.capacity = size ∧ ∃ spare, spare.length = w.spare.length ∧ w' = { w with spare := spare }

variable {size : Nat} {w w' : Writer}

theorem Alike.capacity (h : w.Alike size w') : w'.capacity = size := by
  obtain ⟨hsize, spare, hspare, rfl⟩ := h
  rw [← hsize, Writer.capacity, Writer.capacity, hspare]

theorem Alike.rollback (h : w.Alike size w') (c : Checkpoint) :
    (w.rollback c).Alike size (w'.rollback c) := by
  obtain ⟨hsize, spare, hspare, rfl⟩ := h
  refine ⟨?_, w.written.drop c.length ++ spare, ?_, rfl⟩
  · rw [← hsize]
    simp only [Writer.capacity, Writer.rollback, List.length_take, List.length_append,
      List.length_drop]
    omega
  · simp only [Writer.rollback, List.length_append, hspare]

theorem respects_append (p : Piece) : Respects (Alike size) (append p) := by
  rintro w _ ⟨hsize, spare, hspare, rfl⟩
  have hrefusal : ({ w with spare := spare } : Writer).refusal? p = w.refusal? p := rfl
  have hneeded : ({ w with spare := spare } : Writer).needed p = w.needed p := rfl
  have hroom : ({ w with spare := spare } : Writer).remaining = w.remaining := hspare
  rw [append_eq, append_eq, hrefusal, hneeded, hroom]
  cases w.refusal? p with
  | some fault => exact .inr ⟨_, _, _, rfl, rfl, hsize, spare, hspare, rfl⟩
  | none =>
    dsimp only
    split
    · next hfits =>
      have hcapacity : (w.appended p).capacity = size := by
        simp only [appended, capacity, remaining, List.length_append, List.length_drop] at *
        omega
      exact .inl ⟨_, _, _, rfl, rfl, hcapacity, spare.drop (w.needed p).length,
        by simp [appended, hspare], rfl⟩
    · exact .inr ⟨_, _, _, rfl, rfl, hsize, spare, hspare, rfl⟩

theorem respects_give (given : Given) : Respects (Alike size) (give given) := by
  cases given with
  | ok p => exact respects_append p
  | error reason => exact respects_throw _

end Writer

/-! ## Payloads -/

namespace Acknowledgement

/-- Both payloads have the same frames open, and their writers are alike. -/
def Alike (size : Nat) (a a' : Acknowledgement) : Prop :=
  a'.frames = a.frames ∧ a.writer.Alike size a'.writer

section Calls

variable {size : Nat}

theorem Alike.top {a a' : Acknowledgement} (h : a.Alike size a') : a'.top = a.top := by
  rw [Acknowledgement.top, Acknowledgement.top, h.1]

theorem Alike.depth {a a' : Acknowledgement} (h : a.Alike size a') :
    a'.writer.depth = a.writer.depth := by
  obtain ⟨-, -, spare, -, heq⟩ := h
  rw [heq]
  rfl

theorem respects_give (given : Writer.Given) : Respects (Alike size) (give given) := by
  rintro a a' ⟨hframes, hw⟩
  unfold give
  rcases Writer.respects_give given a.writer a'.writer hw with
    ⟨_, t, t', h, h', ht⟩ | ⟨e, t, t', h, h', ht⟩ <;> rw [h, h']
  · exact .inl ⟨(), _, _, rfl, rfl, hframes, ht⟩
  · exact .inr ⟨e, _, _, rfl, rfl, hframes, ht⟩

theorem respects_append (p : Piece) : Respects (Alike size) (append p) := respects_give (.ok p)

theorem respects_appendAll (pieces : List Piece) :
    Respects (Writer.Alike size) (appendAll pieces) := by
  induction pieces with
  | nil => exact respects_pure ()
  | cons p ps ih => exact (Writer.respects_append p).bind fun _ => ih

/-- Calls that fail are taken back in both payloads. -/
theorem respects_atomically {calls : Attempt Writer Unit}
    (hcalls : Respects (Writer.Alike size) calls) : Respects (Alike size) (atomically calls) := by
  rintro a a' ⟨hframes, hw⟩
  have hcheckpoint : a'.writer.checkpoint = a.writer.checkpoint := by
    obtain ⟨-, spare, -, heq⟩ := hw
    rw [heq]
    rfl
  unfold atomically
  rcases hcalls a.writer a'.writer hw with
    ⟨_, t, t', h, h', ht⟩ | ⟨e, t, t', h, h', ht⟩ <;> rw [h, h']
  · exact .inl ⟨(), _, _, rfl, rfl, hframes, ht⟩
  · exact .inr ⟨e, _, _, rfl, rfl, hframes, hcheckpoint ▸ ht.rollback _⟩

theorem respects_write (pieces : List Piece) : Respects (Alike size) (write pieces) :=
  respects_atomically (respects_appendAll pieces)

theorem respects_expectTop (call : Call) (admitted : Frame → Bool) :
    Respects (Alike size) (expectTop call admitted) := by
  intro a a' h
  rw [expectTop, Attempt.get_bind, Attempt.get_bind, h.top]
  cases admitted a.top with
  | true => exact respects_pure _ a a' h
  | false => exact respects_throw _ a a' h

theorem respects_push (frame : Frame) : Respects (Alike size) (push frame) :=
  respects_modify fun _ _ h => ⟨congrArg (frame :: ·) h.1, h.2⟩

theorem respects_pop : Respects (Alike size) pop :=
  respects_modify fun _ _ h => ⟨congrArg List.tail h.1, h.2⟩

theorem respects_beginComponent (name : String) : Respects (Alike size) (beginComponent name) :=
  (respects_expectTop _ _).bind fun _ => (respects_write _).bind fun _ => respects_push _

theorem respects_endComponent : Respects (Alike size) endComponent :=
  (respects_expectTop _ _).bind fun _ => (respects_write _).bind fun _ => respects_pop

theorem respects_beginStatus (name : String) (code : Nat) (version : Int)
    (description : Option String) :
    Respects (Alike size) (beginStatus name code version description) := by
  refine (respects_expectTop _ _).bind fun _ => (respects_write _).bind fun _ => ?_
  intro a a' h
  rw [Attempt.get_bind, Attempt.get_bind, h.depth]
  exact respects_push _ a a' h

theorem respects_endStatus : Respects (Alike size) endStatus := by
  intro a a' h
  have hclose : Respects (Alike size) (write [.closing .object] >>= fun _ => pop) :=
    (respects_write _).bind fun _ => respects_pop
  have hcomplete : ∀ depth, valueComplete a'.writer depth = valueComplete a.writer depth := by
    obtain ⟨-, -, spare, -, heq⟩ := h
    rw [heq]
    exact fun _ => rfl
  rw [endStatus, Attempt.get_bind, Attempt.get_bind, h.top]
  cases a.top with
  | statusBlock depth =>
    dsimp only
    rw [hcomplete]
    cases valueComplete a.writer depth with
    | true => exact hclose a a' h
    | false => exact respects_throw _ a a' h
  | root | component => exact respects_throw _ a a' h

theorem respects_finish : Respects (Alike size) finish :=
  (respects_expectTop _ _).bind fun _ => respects_write _

theorem respects_writeBlock (version : Int) (name : String) (v : Json.Value) :
    Respects (Alike size) (writeBlock version name v) :=
  (respects_beginStatus _ _ _ _).bind fun _ => (respects_append _).bind fun _ => respects_endStatus

theorem respects_leave (component : Option String) : Respects (Alike size) (leave component) := by
  cases component with
  | none => exact respects_pure ()
  | some _ => exact respects_endComponent

theorem respects_enter (component : Option String) : Respects (Alike size) (enter component) := by
  cases component with
  | none => exact respects_pure ()
  | some name => exact respects_beginComponent name

theorem respects_writeBlocks (version : Int) (component : Option String)
    (accepted : List Accepted) :
    Respects (Alike size) (writeBlocks version component accepted) := by
  induction accepted generalizing component with
  | nil => exact respects_leave component
  | cons q rest ih =>
    have hon : Respects (Alike size) (writeBlock version q.1.name q.2 >>= fun _ =>
        writeBlocks version q.1.component rest) :=
      (respects_writeBlock _ _ _).bind fun _ => ih _
    unfold writeBlocks
    split
    · exact (respects_leave _).bind fun _ => (respects_enter _).bind fun _ => hon
    · exact hon

theorem respects_writePayload (version : Int) (accepted : List Accepted) :
    Respects (Alike size) (writePayload version accepted) :=
  (respects_writeBlocks version none accepted).bind fun _ => respects_finish

end Calls

/-! ## Regions -/

/-- Writes a payload at the start of a region and tells its length. -/
def writeIn (region : Bytes) (write : Attempt Acknowledgement Unit) :
    Except PropertyError Nat × Bytes :=
  match start (Writer.ofRegion region) with
  | .error e w => (.error e, w.region)
  | .ok a _ =>
    match write a with
    | .error e a => (.error e, a.writer.region)
    | .ok () a => (.ok a.writer.written.length, a.writer.region)

theorem start_cases {size : Nat} {w w' : Writer} (h : w.Alike size w') :
    (∃ t t', start w = .ok ⟨t, []⟩ t ∧ start w' = .ok ⟨t', []⟩ t' ∧ t.Alike size t') ∨
    ∃ e t t', start w = .error e t ∧ start w' = .error e t' ∧ t.Alike size t' := by
  rcases Writer.respects_append (.opening .object) w w' h with
    ⟨_, t, t', h, h', ht⟩ | ⟨e, t, t', h, h', ht⟩
  · exact .inl ⟨t, t', Attempt.bind_ok h, Attempt.bind_ok h', ht⟩
  · exact .inr ⟨e, t, t', Attempt.bind_error h, Attempt.bind_error h', ht⟩

/-- What a payload leaves in a region: its bytes at the start, if it fits, and in any case as many
bytes as there were. -/
theorem writeIn_cases (region : Bytes) {write : Attempt Acknowledgement Unit}
    (hwrite : Respects (Alike region.length) write) :
    (∃ bytes rest, within region.length write = .ok bytes ∧
      writeIn region write = (.ok bytes.length, bytes ++ rest) ∧
      (bytes ++ rest).length = region.length) ∨
    ∃ e region', within region.length write = .error e ∧
      writeIn region write = (.error e, region') ∧ region'.length = region.length := by
  have hnew : (Writer.ofRegion (List.replicate region.length 0)).Alike region.length
      (Writer.ofRegion region) := by
    refine ⟨?_, region, ?_, rfl⟩ <;> simp [Writer.ofRegion, Writer.capacity]
  unfold within writeIn
  rcases start_cases hnew with ⟨w, w', h, h', hw⟩ | ⟨e, w, w', h, h', hw⟩ <;> rw [h, h']
  · rcases hwrite ⟨w, []⟩ ⟨w', []⟩ ⟨rfl, hw⟩ with
      ⟨_, a, a', h, h', -, ha⟩ | ⟨e, a, a', h, h', -, ha⟩ <;> dsimp only <;> rw [h, h']
    · have hregion : (a.writer.written ++ a'.writer.spare) = a'.writer.region := by
        obtain ⟨-, spare, -, heq⟩ := ha
        rw [heq]
        rfl
      have hlength : a'.writer.written.length = a.writer.written.length := by
        obtain ⟨-, spare, -, heq⟩ := ha
        rw [heq]
      refine .inl ⟨a.writer.written, a'.writer.spare, rfl, ?_, ?_⟩
      · rw [hregion, ← hlength]
      · rw [hregion, Writer.length_region, ha.capacity]
    · exact .inr ⟨e, _, rfl, rfl, (Writer.length_region _).trans ha.capacity⟩
  · exact .inr ⟨e, _, rfl, rfl, (Writer.length_region _).trans hw.capacity⟩

end Acknowledgement
end DeviceTwin
