import DeviceTwin.Proofs.Acknowledgement.Steps
import DeviceTwin.Proofs.Writer.Row

/-!
# What a call on a payload does

Every call goes the same way, whatever state it finds: the frames may refuse it, else it writes its
pieces, all of them or none, and then it changes the frames. Only the refusal, the pieces and the
frames differ from call to call.

Results:
* `run_eq`: what a call does.
* `run_outcomes`: how a call ends.
* `run_ok_iff`: when a call succeeds, and what it leaves.
* `Trial.afterAll_of_run`: what every call keeps holds behind all calls.
-/
namespace DeviceTwin

/-- Going back to where nothing was written since changes nothing. -/
theorem Writer.rollback_checkpoint (w : Writer) : w.rollback w.checkpoint = w := by
  simp [rollback, checkpoint, depth]

namespace Acknowledgement

namespace Step

def pieces : Step → List Piece
  | beginComponent name => componentOpening name
  | beginStatus name code version description => blockOpening name code version description
  | endComponent | endStatus => [.closing .object]
  | property name v => [.name name, .value v]
  | append p => [p]

def refusal? (a : Acknowledgement) : Step → Option FramingFault
  | beginComponent _ =>
    if a.top.isRoot then none else some (.notAllowed .beginComponent a.top)
  | endComponent =>
    if a.top.isComponent then none else some (.notAllowed .endComponent a.top)
  | beginStatus _ _ _ _ =>
    if !a.top.isBlock then none else some (.notAllowed .beginStatus a.top)
  | endStatus =>
    match a.top with
    | .statusBlock depth => if valueComplete a.writer depth then none else some .valueIncomplete
    | top => some (.notAllowed .endStatus top)
  | property _ _ =>
    if !a.top.isBlock then none else some (.notAllowed .property a.top)
  | append _ => none

/-- The frames behind a call that left this writer. -/
def framesBehind (w : Writer) (frames : List Frame) : Step → List Frame
  | beginComponent _ => .component :: frames
  | beginStatus _ _ _ _ => .statusBlock w.depth :: frames
  | endComponent | endStatus => frames.tail
  | property _ _ | append _ => frames

/-- The payload behind a call that succeeds. -/
def behind (s : Step) (a : Acknowledgement) : Acknowledgement :=
  let w := a.writer.appendedAll s.pieces
  ⟨w, s.framesBehind w a.frames⟩

/-- Changes the frames as a call does once its pieces are written. -/
def reframe (s : Step) : Attempt Acknowledgement Unit :=
  modify fun a => { a with frames := s.framesBehind a.writer a.frames }

end Step

/-- A piece of a value is written alone, and then there is nothing to go back for. -/
theorem append_eq_write (p : Piece) (a : Acknowledgement) : append p a = write [p] a := by
  have hall : appendAll [p] = Writer.append p := by
    unfold appendAll appendAll
    rw [bind_pure_unit]
  cases h : Writer.append p a.writer with
  | ok _ w => rw [append_ok h, write_ok (hall ▸ h)]
  | error e w =>
    rw [append_error h, write_error (hall ▸ h), Writer.append_error h, Writer.rollback_checkpoint]

theorem expectTop_bind (call : Call) (admitted : Frame → Bool)
    (f : Unit → Attempt Acknowledgement Unit) (a : Acknowledgement) :
    (expectTop call admitted >>= f) a
      = if admitted a.top then f () a else .error (.framing (.notAllowed call a.top)) a := by
  by_cases h : admitted a.top = true
  · rw [expectTop_admitted h, if_pos h]
  · rw [expectTop_refused (by simpa using h), if_neg h]

/-- What a call does: the frames refuse it, or it writes its pieces and changes the frames. -/
theorem run_eq (s : Step) (a : Acknowledgement) :
    s.run a = match s.refusal? a with
      | some fault => .error (.framing fault) a
      | none => (write s.pieces >>= fun _ => s.reframe) a := by
  -- A call that keeps the frames does nothing behind its pieces.
  have hkeep : ∀ x : Attempt Acknowledgement Unit,
      x a = (x >>= fun _ => (modify fun a => a : Attempt Acknowledgement Unit)) a := by
    intro x
    cases h : x a with
    | ok _ t => rw [Attempt.bind_ok h]; rfl
    | error e t => rw [Attempt.bind_error h]
  cases s with
  | beginComponent name =>
    refine (expectTop_bind _ _ _ a).trans ?_
    dsimp only [Step.refusal?]
    cases a.top.isRoot <;> rfl
  | endComponent =>
    refine (expectTop_bind _ _ _ a).trans ?_
    dsimp only [Step.refusal?]
    cases a.top.isComponent <;> rfl
  | beginStatus name code version description =>
    refine (expectTop_bind _ _ _ a).trans ?_
    dsimp only [Step.refusal?]
    cases a.top.isBlock <;> rfl
  | property name v =>
    show property name v a = _
    rw [property_eq]
    refine (expectTop_bind _ _ _ a).trans ?_
    dsimp only [Step.refusal?]
    cases a.top.isBlock with
    | true => rfl
    | false => exact hkeep (write [.name name, .value v])
  | endStatus =>
    show endStatus a = _
    rw [endStatus, Attempt.get_bind]
    dsimp only [Step.refusal?]
    cases a.top with
    | root | component => rfl
    | statusBlock depth =>
      dsimp only
      cases valueComplete a.writer depth <;> rfl
  | append p => exact (append_eq_write p a).trans (hkeep _)

/-- How a call ends: the frames refuse it, or its pieces are not written, or it changes text and
frames. -/
theorem run_outcomes (s : Step) (a : Acknowledgement) :
    (∃ fault, s.refusal? a = some fault ∧ s.run a = .error (.framing fault) a) ∨
    (s.refusal? a = none ∧
      ∃ e a', write s.pieces a = .error e a' ∧ s.run a = .error e a') ∨
    (s.refusal? a = none ∧
      ∃ w, appendAll s.pieces a.writer = .ok () w ∧
        s.run a = .ok () ⟨w, s.framesBehind w a.frames⟩) := by
  rw [run_eq]
  cases s.refusal? a with
  | some fault => exact .inl ⟨fault, rfl, rfl⟩
  | none =>
    cases h : appendAll s.pieces a.writer with
    | ok _ w =>
      exact .inr (.inr ⟨rfl, w, rfl, Attempt.bind_ok (write_ok h)⟩)
    | error e w =>
      exact .inr (.inl ⟨rfl, e, _, write_error h, Attempt.bind_error (write_error h)⟩)

theorem write_eq_error {ps : List Piece} {e : PropertyError} {a a' : Acknowledgement}
    (h : write ps a = .error e a') : ∃ w, appendAll ps a.writer = .error e w := by
  cases hall : appendAll ps a.writer with
  | ok _ w => cases (write_ok hall).symm.trans h
  | error e' w =>
    cases (write_error hall).symm.trans h
    exact ⟨w, rfl⟩

/-- A call succeeds if the frames admit it and its pieces are admitted and fit. -/
theorem run_ok_iff {s : Step} {a a' : Acknowledgement} :
    s.run a = .ok () a' ↔ s.refusal? a = none ∧ a.writer.Admits s.pieces ∧
      (a.writer.neededAll s.pieces).length ≤ a.writer.remaining ∧ a' = s.behind a := by
  rcases run_outcomes s a with ⟨fault, hfault, hrun⟩ | ⟨hnone, e, b, hwrite, hrun⟩ |
    ⟨hnone, w, hall, hrun⟩
  · simp [hrun, hfault]
  · obtain ⟨w, hall⟩ := write_eq_error hwrite
    constructor
    · intro h
      cases h.symm.trans hrun
    · rintro ⟨-, hadmits, hfits, -⟩
      cases hall.symm.trans (Writer.appendAll_ok_iff.2 ⟨hadmits, hfits, rfl⟩)
  · obtain ⟨hadmits, hfits, rfl⟩ := Writer.appendAll_ok_iff.1 hall
    rw [hrun]
    constructor
    · intro h
      cases h
      exact ⟨hnone, hadmits, hfits, rfl⟩
    · rintro ⟨-, -, -, rfl⟩
      rfl

/-- What every call keeps, whether it succeeds or fails, holds behind all calls. -/
theorem Trial.afterAll_of_run {motive : Trial → Prop}
    (ok : ∀ (t : Trial) (s : Step) (a : Acknowledgement), motive t → s.run t.payload = .ok () a →
      motive ⟨a, t.succeeded ++ [s]⟩)
    (error : ∀ (t : Trial) (s : Step) (e : PropertyError) (a : Acknowledgement), motive t →
      s.run t.payload = .error e a → motive ⟨a, t.succeeded⟩)
    {t : Trial} (h : motive t) (steps : List Step) : motive (t.afterAll steps) := by
  induction steps generalizing t with
  | nil => exact h
  | cons s steps ih =>
    refine ih ?_
    unfold Trial.after
    cases hrun : s.run t.payload with
    | ok _ a => exact ok t s a h hrun
    | error e a => exact error t s e a h hrun

/-- A payload is opened where the brace of its root is appended. -/
theorem start_eq_ok_iff {w w' : Writer} {a : Acknowledgement} :
    start w = .ok a w' ↔ Writer.append (.opening .object) w = .ok () w' ∧ a = ⟨w', []⟩ := by
  cases hopen : Writer.append (.opening .object) w with
  | error e w₁ =>
    rw [start, Attempt.bind_error hopen]
    simp
  | ok _ w₁ =>
    rw [start, Attempt.bind_ok hopen]
    constructor
    · intro h
      cases h
      exact ⟨rfl, rfl⟩
    · rintro ⟨h, rfl⟩
      cases h
      rfl

end Acknowledgement
end DeviceTwin
