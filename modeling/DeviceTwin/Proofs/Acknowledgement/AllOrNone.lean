import DeviceTwin.Proofs.Acknowledgement.Effect
import DeviceTwin.Proofs.Acknowledgement.Region

/-!
# Calls that fail have done nothing

A framing call writes several pieces, and any of them may be the one that fails. The writer then goes
back to a place in its text, by cutting off what stands behind it. This gives back what there was
because no piece but the last one of a call ends a container, in whatever state the call finds the
writer. Only the bytes behind the text may be others than before.

Results:
* `Writer.Grows.alike`: going back leaves a writer that differs in the bytes behind its text at most.
* `recovers_run`: a call that fails leaves a payload that is alike.
* `respects_run`, `sameAnswers_of_alike`: payloads that are alike answer alike, however they are used.
* `unchanged_of_error`: a call that fails leaves frames, text, containers and flags as they were, and
  what comes after goes on as if it had not been made.
-/
namespace DeviceTwin

/-! ## Going back -/

namespace Writer

variable {w w' : Writer}

/-- Going back leaves a writer that differs in the bytes behind its text at most. -/
theorem Grows.alike (h : w.Grows w') (hcapacity : w'.capacity = w.capacity) :
    w.Alike w.capacity (w'.rollback w.checkpoint) := by
  refine ⟨rfl, (w'.rollback w.checkpoint).spare, ?_, ?_⟩
  · have hprefix := h.written.length_le
    unfold capacity at hcapacity
    simp only [Writer.rollback, checkpoint, List.length_append, List.length_drop]
    omega
  · have hwritten := h.written_rollback
    have hscopes := h.scopes_rollback
    show Writer.mk (w'.rollback w.checkpoint).written _ (w'.rollback w.checkpoint).scopes _ _ = _
    rw [hwritten, hscopes]
    rfl

theorem Alike.refl (w : Writer) : w.Alike w.capacity w := ⟨rfl, w.spare, rfl, rfl⟩

/-- No call changes the size of the region, whether it succeeds or not. -/
theorem capacity_final_append (p : Piece) (w : Writer) :
    (Attempt.final (append p w)).capacity = w.capacity := by
  cases h : append p w with
  | ok _ w' => exact capacity_append h
  | error e w' => rw [append_error h]; rfl

end Writer

namespace Acknowledgement

open Attempt (Respects failure? final)

theorem capacity_final_appendAll (ps : List Piece) (w : Writer) :
    (final (appendAll ps w)).capacity = w.capacity := by
  induction ps generalizing w with
  | nil => rfl
  | cons p ps ih =>
    refine Attempt.final_bind (r := fun w w' => w'.capacity = w.capacity) ?_
      (Writer.capacity_final_append p w) (fun _ w' _ => ih w')
    intro s t u hst htu
    exact htu.trans hst

/-! ## Computations that take back what they did -/

/-- Where the computation fails, the payload behind it is like the one in front. -/
def Recovers {α : Type} (x : Attempt Acknowledgement α) : Prop :=
  ∀ a e a', x a = .error e a' → a.Alike a.writer.capacity a'

theorem Alike.refl (a : Acknowledgement) : a.Alike a.writer.capacity a :=
  ⟨rfl, Writer.Alike.refl a.writer⟩

/-- Calls on the writer are taken back if they end no container before they fail. -/
theorem recovers_atomically {calls : Attempt Writer Unit}
    (h : ∀ w e w', calls w = .error e w' → w.Grows w' ∧ w'.capacity = w.capacity) :
    Recovers (atomically calls) := by
  intro a e a' hfails
  unfold atomically at hfails
  split at hfails
  · cases hfails
  · next e' w' hcalls =>
    cases hfails
    obtain ⟨hgrows, hcapacity⟩ := h _ _ _ hcalls
    exact ⟨rfl, hgrows.alike hcapacity⟩

theorem recovers_write {ps : List Piece} (hps : ∀ p ∈ ps.dropLast, p.closes = false) :
    Recovers (write ps) := by
  refine recovers_atomically fun w e w' h => ⟨grows_of_appendAll hps h, ?_⟩
  have hcapacity := capacity_final_appendAll ps w
  rwa [h] at hcapacity

/-- Looking at the frames changes nothing, so what follows may fail. -/
theorem Recovers.framed {x : Attempt Acknowledgement Unit} (hx : Recovers x) (call : Call)
    (admitted : Frame → Bool) : Recovers (expectTop call admitted >>= fun _ => x) := by
  intro a e a' h
  rw [expectTop_bind] at h
  split at h
  · exact hx a e a' h
  · cases h
    exact .refl a

/-- No piece of a call but the last one ends a container. -/
theorem closes_pieces (s : Step) : ∀ p ∈ s.pieces.dropLast, p.closes = false := by
  cases s with
  | beginComponent name => simp [Step.pieces, componentOpening, Piece.closes]
  | beginStatus name code version description =>
    cases description <;> simp [Step.pieces, blockOpening, Piece.closes]
  | property name v => simp [Step.pieces, Piece.closes]
  | endComponent | endStatus | append p => simp [Step.pieces]

theorem recovers_step (s : Step) : Recovers s.run := by
  intro a e a' h
  rcases run_outcomes s a with ⟨fault, -, hrun⟩ | ⟨-, e', b, hwrite, hrun⟩ | ⟨-, w, -, hrun⟩
  · cases h.symm.trans hrun
    exact .refl a
  · cases h.symm.trans hrun
    exact recovers_write (closes_pieces s) a e a' hwrite
  · cases h.symm.trans hrun

/-- Where it turns out behind the name that the value has no encoding, the name is taken back. -/
theorem recovers_propertyGiven (name : String) (v : Except String Json.Value) :
    Recovers (propertyGiven name v) := by
  refine (recovers_atomically ?_).framed _ _
  intro w e w' h
  cases hname : Writer.append (.name name) w with
  | error e₁ w₁ =>
    rw [Attempt.bind_error hname] at h
    cases h
    rw [Writer.append_error hname]
    exact ⟨.refl w, rfl⟩
  | ok _ w₁ =>
    rw [Attempt.bind_ok hname] at h
    have hback : w' = w₁ := by
      cases v with
      | ok v => exact Writer.append_error h
      | error reason => cases h; rfl
    subst hback
    exact ⟨Writer.eq_appended hname ▸ .appended rfl, Writer.capacity_append hname⟩

/-! ## Any calls -/

/-- A call on a payload as its caller makes it. What is given as a value may have no encoding. -/
inductive Deed where
  | step (s : Step)
  /-- A property of which the value has no encoding. -/
  | propertyWithout (name reason : String)
  /-- A value of a block that has no encoding. -/
  | valueWithout (reason : String)
  | finish
  deriving DecidableEq, Repr

namespace Deed

def run : Deed → Attempt Acknowledgement Unit
  | step s => s.run
  | propertyWithout name reason => propertyGiven name (.error reason)
  | valueWithout reason => give (.error reason)
  | finish => Acknowledgement.finish

/-- What calls answer, one after the other: an error, or nothing where they succeed. -/
def answers : List Deed → Acknowledgement → List (Option PropertyError)
  | [], _ => []
  | d :: ds, a => failure? (d.run a) :: answers ds (final (d.run a))

def behind (ds : List Deed) (a : Acknowledgement) : Acknowledgement :=
  ds.foldl (fun a d => final (d.run a)) a

end Deed

theorem recovers_run (d : Deed) : Recovers d.run := by
  cases d with
  | step s => exact recovers_step s
  | propertyWithout name reason => exact recovers_propertyGiven name (.error reason)
  | valueWithout reason =>
    intro a e a' h
    cases h
    exact .refl a
  | finish => exact (recovers_write (by simp)).framed _ _

section Respects

variable {size : Nat}

theorem respects_propertyGiven (name : String) (v : Except String Json.Value) :
    Respects (Alike size) (propertyGiven name v) := by
  refine (respects_expectTop _ _).bind fun _ => respects_atomically ?_
  exact (Writer.respects_append _).bind fun _ => Writer.respects_give _

/-- Payloads that are alike answer a call alike, and they stay alike. -/
theorem respects_run (d : Deed) : Respects (Alike size) d.run := by
  cases d with
  | step s =>
    cases s with
    | beginComponent name => exact respects_beginComponent name
    | endComponent => exact respects_endComponent
    | beginStatus name code version description => exact respects_beginStatus name code version _
    | endStatus => exact respects_endStatus
    | property name v => exact respects_propertyGiven name (.ok v)
    | append p => exact respects_append p
  | propertyWithout name reason => exact respects_propertyGiven name (.error reason)
  | valueWithout reason => exact respects_give (.error reason)
  | finish => exact respects_finish

theorem sameAnswers_of_alike {a a' : Acknowledgement} (h : a.Alike size a') (ds : List Deed) :
    Deed.answers ds a' = Deed.answers ds a ∧ (Deed.behind ds a).Alike size (Deed.behind ds a') := by
  induction ds generalizing a a' with
  | nil => exact ⟨rfl, h⟩
  | cons d ds ih =>
    unfold Deed.answers Deed.behind
    rw [List.foldl_cons, List.foldl_cons]
    rcases respects_run d a a' h with ⟨u, t, t', heq, heq', ht⟩ | ⟨e, t, t', heq, heq', ht⟩ <;>
      rw [heq, heq']
    · exact ⟨congrArg _ (ih ht).1, (ih ht).2⟩
    · exact ⟨congrArg _ (ih ht).1, (ih ht).2⟩

end Respects

/-- A call that fails has done nothing. Whatever state a payload is in, let a call on it fail for any
reason. Then the frames, the text, the containers, the flags and the room are what they were. Any
calls that follow answer as they would have without it, and leave behind what they would have: no
more than the bytes behind the text may differ. -/
theorem unchanged_of_error (d : Deed) (a a' : Acknowledgement) (e : PropertyError)
    (h : d.run a = .error e a') :
    a'.frames = a.frames ∧ a'.writer.written = a.writer.written ∧
      a'.writer.scopes = a.writer.scopes ∧ a'.writer.separatorDue = a.writer.separatorDue ∧
      a'.writer.valueDue = a.writer.valueDue ∧ a'.writer.remaining = a.writer.remaining ∧
      ∀ ds, Deed.answers ds a' = Deed.answers ds a ∧
        ∃ spare, spare.length = (Deed.behind ds a).writer.spare.length ∧
          Deed.behind ds a' = { Deed.behind ds a with
            writer := { (Deed.behind ds a).writer with spare := spare } } := by
  have halike := recovers_run d a e a' h
  have hthen := fun ds => sameAnswers_of_alike halike ds
  obtain ⟨hframes, -, spare, hspare, hwriter⟩ := halike
  refine ⟨hframes, by rw [hwriter], by rw [hwriter], by rw [hwriter], by rw [hwriter], ?_, ?_⟩
  · rw [Writer.remaining, hwriter]
    exact hspare
  · intro ds
    obtain ⟨hanswers, hbehind, -, spare', hspare', hwriter'⟩ := hthen ds
    refine ⟨hanswers, spare', hspare', ?_⟩
    calc Deed.behind ds a'
        = ⟨(Deed.behind ds a').writer, (Deed.behind ds a').frames⟩ := rfl
      _ = _ := by rw [hwriter', hbehind]

/-- A payload whose frames name a component that its text does not have, with little room left. -/
def misused : Acknowledgement :=
  ⟨⟨Utf8.encode "\x7b\"x\":1".toList, List.replicate 20 0, [.object], true, false⟩, [.component]⟩

/-- Calls of which the first fails behind the name that it writes. -/
def sampleDeeds : List Deed :=
  [.propertyWithout "on" "key must be a string", .step (.property "on" (.bool true)),
    .step .endComponent]

theorem unchanged_of_error_sample :
    ∃ a, (Deed.step (.beginStatus "t" 200 3 none)).run misused
        = .error (.insufficientBuffer 1 0) a ∧
      a.writer.written = misused.writer.written ∧ a.writer.spare ≠ misused.writer.spare ∧
      Deed.answers sampleDeeds a
        = [some (.invalidArgument (.unencodable "key must be a string")), none, none] := by
  have hfails : failure? ((Deed.step (.beginStatus "t" 200 3 none)).run misused)
      = some (.insufficientBuffer 1 0) := by
    decide +kernel
  have heq := Attempt.eq_error_of_failure? hfails
  obtain ⟨-, hwritten, -, -, -, -, hthen⟩ := unchanged_of_error _ _ _ _ heq
  exact ⟨_, heq, hwritten, by decide +kernel,
    (hthen sampleDeeds).1.trans (by decide +kernel)⟩

end Acknowledgement
end DeviceTwin
