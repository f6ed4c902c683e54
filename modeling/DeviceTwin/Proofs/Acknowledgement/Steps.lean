import DeviceTwin.Proofs.Acknowledgement.Draft
import DeviceTwin.Proofs.Acknowledgement.Write

/-!
# A payload is what its calls say

Calls may come in any order and with any arguments, and each of them may fail. Here the frames, the
scopes and the flags of the writer are kept in step with a draft, which knows of no text. From this
follows which calls are refused, and what a finished payload holds.

Results:
* `Follows`, `run_follows`: what one call does to a payload and to its draft.
* `writes_afterAll`: behind any calls the payload is that of the draft of the successful ones.
* `payload_of_steps`: a call is refused exactly where the frame rules refuse it, and a finished
  payload is the text of the tree that the successful calls describe.
-/
namespace DeviceTwin.Acknowledgement

open Json (Members Value)

/-- The payload holds the text and the frames of a draft. -/
structure Writes (a : Acknowledgement) (d : Draft) : Prop where
  writer : a.writer.Shows d.outline
  frames : a.frames = d.frames

/-- What a framing call does to a payload that is written after the draft `d`, where the frame rules
lead to `next?`. -/
def Follows (d : Draft) (next? : Option Draft)
    (outcome : EStateM.Result PropertyError Acknowledgement Unit) : Prop :=
  match next? with
  | none => ∃ fault a, outcome = .error (.framing fault) a ∧ Writes a d
  | some d' =>
    (∃ a, outcome = .ok () a ∧ Writes a d') ∨
    ∃ required available a,
      outcome = .error (.insufficientBuffer required available) a ∧ Writes a d

section Calls

variable {a : Acknowledgement} {d : Draft} {α : Type} {call : Call} {admitted : Frame → Bool}

theorem expectTop_refused (h : admitted a.top = false) (f : Unit → Attempt Acknowledgement α) :
    (expectTop call admitted >>= f) a = .error (.framing (.notAllowed call a.top)) a := by
  refine Attempt.bind_error ?_
  rw [expectTop, Attempt.get_bind]
  simp [h]

theorem expectTop_admitted (h : admitted a.top = true) (f : Unit → Attempt Acknowledgement α) :
    (expectTop call admitted >>= f) a = f () a := by
  refine Attempt.bind_ok ?_
  rw [expectTop, Attempt.get_bind]
  simp [h]

theorem Writes.top (h : Writes a d) : a.top = d.frames.head?.getD .root := by
  rw [Acknowledgement.top, h.frames]

theorem Writes.refused (h : Writes a d) (hno : admitted (d.frames.head?.getD .root) = false)
    (f : Unit → Attempt Acknowledgement Unit) :
    Follows d none ((expectTop call admitted >>= f) a) :=
  ⟨_, a, expectTop_refused (by rw [h.top]; exact hno) f, h⟩

theorem Writes.written {d' : Draft} {ps : List Piece} {f : Attempt Acknowledgement Unit}
    (frames : List Frame → List Frame) (h : Writes a d)
    (hp : d.outline.pushAll ps = some d'.outline) (hps : ∀ p ∈ ps.dropLast, p.closes = false)
    (hf : ∀ w, w.Shows d'.outline → f ⟨w, a.frames⟩ = .ok () ⟨w, frames a.frames⟩)
    (hframes : frames d.frames = d'.frames) :
    Follows d (some d') ((write ps >>= fun _ => f) a) := by
  rcases write_cases h.writer hp hps with ⟨w, hw, hs⟩ | ⟨required, available, w, hw, hs⟩
  · refine .inl ⟨⟨w, frames a.frames⟩, ?_, hs, ?_⟩
    · rw [Attempt.bind_ok hw]
      exact hf w hs
    · rw [← hframes, ← h.frames]
  · exact .inr ⟨required, available, _, Attempt.bind_error hw, hs, h.frames⟩

/-- A call that is admitted writes its pieces and changes the frames, or there is no room. -/
theorem Writes.framed {d' : Draft} {ps : List Piece} {f : Attempt Acknowledgement Unit}
    (frames : List Frame → List Frame) (h : Writes a d)
    (hyes : admitted (d.frames.head?.getD .root) = true)
    (hp : d.outline.pushAll ps = some d'.outline) (hps : ∀ p ∈ ps.dropLast, p.closes = false)
    (hf : ∀ w, w.Shows d'.outline → f ⟨w, a.frames⟩ = .ok () ⟨w, frames a.frames⟩)
    (hframes : frames d.frames = d'.frames) :
    Follows d (some d') ((expectTop call admitted >>= fun _ => write ps >>= fun _ => f) a) := by
  rw [expectTop_admitted (by rw [h.top]; exact hyes)]
  exact h.written frames hp hps hf hframes

theorem Draft.outline_add (hd : d.block? = none) (m : String × Value) :
    (d.add m).outline = .object (d.level ++ [m]) d.outer := by
  obtain ⟨parts, component?, block?⟩ := d
  cases hd
  cases component? with
  | none => simp [add, outline, level, outer, members, Part.toMember]
  | some c => rfl

theorem Draft.frames_add (hd : d.block? = none) (m : String × Value) :
    (d.add m).frames = d.frames := by
  obtain ⟨parts, component?, block?⟩ := d
  cases hd
  cases component? with
  | none | some _ => rfl

theorem beginComponent_follows (h : Writes a d) (c : String) :
    Follows d (d.take? (.beginComponent c)) (beginComponent c a) := by
  obtain ⟨parts, component?, block?⟩ := d
  cases block? with
  | some _ => cases component? <;> exact h.refused rfl _
  | none =>
    cases component? with
    | some _ => exact h.refused rfl _
    | none =>
      exact h.framed (.component :: ·) rfl (pushAll_componentOpening _ _ c)
        (by simp [componentOpening, Piece.closes]) (fun _ _ => rfl) rfl

theorem endComponent_follows (h : Writes a d) :
    Follows d (d.take? .endComponent) (endComponent a) := by
  obtain ⟨parts, component?, block?⟩ := d
  cases block? with
  | some _ => cases component? <;> exact h.refused rfl _
  | none =>
    cases component? with
    | none => exact h.refused rfl _
    | some c =>
      refine h.framed List.tail rfl ?_ (by simp) (fun _ _ => rfl) rfl
      simp [Draft.outline, Draft.level, Draft.outer, Draft.members, pushAll_closing, Outline.fill,
        Part.toMember, wrapper]

theorem beginStatus_follows (h : Writes a d) (name : String) (code : Nat) (version : Int)
    (description : Option String) :
    Follows d (d.take? (.beginStatus name code version description))
      (beginStatus name code version description a) := by
  obtain ⟨parts, component?, block?⟩ := d
  cases block? with
  | some _ => exact h.refused rfl _
  | none =>
    refine h.framed (.statusBlock ((Draft.outer ⟨parts, component?, none⟩).length + 2) :: ·) ?_
      (pushAll_blockOpening _ _ ⟨name, code, version, description⟩) ?_ ?_ ?_
    · cases component? <;> rfl
    · cases description <;> simp [blockOpening, Piece.closes]
    · intro w hw
      have hdepth : w.depth = (Draft.outer ⟨parts, component?, none⟩).length + 2 := by
        rw [Writer.depth, hw.scopes]
        cases component? <;> rfl
      show EStateM.Result.ok () (⟨w, .statusBlock w.depth :: a.frames⟩ : Acknowledgement) = _
      rw [hdepth]
    · cases component? <;> rfl

theorem property_follows (h : Writes a d) (name : String) (v : Value) :
    Follows d (d.take? (.property name v)) (property name v a) := by
  obtain ⟨parts, component?, block?⟩ := d
  cases block? with
  | some _ => exact h.refused rfl _
  | none =>
    have hcall : property name v = expectTop .property (fun top => !top.isBlock) >>= fun _ =>
        write [.name name, .value v] >>= fun _ => pure () := by
      rw [bind_pure_unit, property_eq]
    rw [hcall]
    refine h.framed id ?_ ?_ (by simp [Piece.closes]) (fun _ _ => rfl) ?_
    · cases component? <;> rfl
    · rw [Draft.outline_add rfl]
      exact pushAll_member _ _ name v
    · exact (Draft.frames_add rfl _).symm

theorem valueComplete_eq {w : Writer} {parts : List Part} {component? : Option (String × Members)}
    {heading : Heading} {o : Outline}
    (hw : w.Shows (Draft.outline ⟨parts, component?, some (heading, o)⟩)) :
    valueComplete w ((Draft.outer ⟨parts, component?, some (heading, o)⟩).length + 2)
      = o.isWhole := by
  have hdepth : w.depth
      = (Draft.outline ⟨parts, component?, some (heading, o)⟩).scopes.length := by
    rw [Writer.depth, hw.scopes]
  rw [valueComplete, hdepth, hw.valueDue]
  cases o with
  | whole v | blank | named =>
    simp [Draft.outline, Outline.inside, Outline.scopes, Outline.valueDue, Outline.isWhole,
      Draft.outer]
  | array | object =>
    simp only [Draft.outline, Outline.inside, Outline.scopes, Outline.isWhole, List.length_cons,
      List.length_map, List.length_append, Draft.outer, Bool.and_eq_false_iff, decide_eq_false_iff_not]
    omega

theorem endStatus_follows (h : Writes a d) :
    Follows d (d.take? .endStatus) (endStatus a) := by
  obtain ⟨parts, component?, block?⟩ := d
  have htop := h.top
  rw [endStatus, Attempt.get_bind]
  cases block? with
  | none =>
    cases component? with
    | none | some _ =>
      rw [htop]
      exact ⟨_, a, rfl, h⟩
  | some b =>
    obtain ⟨heading, o⟩ := b
    have hcomplete := valueComplete_eq h.writer
    rw [htop]
    dsimp only [Draft.frames, List.cons_append, List.head?_cons, Option.getD_some]
    rw [hcomplete]
    cases o with
    | blank | array | object | named => exact ⟨_, a, rfl, h⟩
    | whole v =>
      refine h.written List.tail ?_ (by simp) (fun _ _ => rfl) ?_
      · rw [Draft.outline_add rfl]
        rfl
      · rw [Draft.frames_add rfl]
        cases component? <;> rfl

/-- A piece of the value of a block is appended, or refused, or there is no room for it. -/
theorem append_cases (h : Writes a d) (hd : d.isWriting = true) (p : Piece) :
    (∃ a' d', append p a = .ok () a' ∧ d.take? (.append p) = some d' ∧ Writes a' d') ∨
    ∃ e, append p a = .error e a := by
  obtain ⟨parts, component?, block?⟩ := d
  cases block? with
  | none => cases hd
  | some b =>
    obtain ⟨heading, o⟩ := b
    have hwhole : o.isWhole = false := by simpa [Draft.isWriting] using hd
    have happend := a.writer.append_eq p
    cases hp : o.push p with
    | none =>
      have hrefused := h.writer.refusal?_ne_none (Outline.isWhole_inside _ _ _ o)
        (Outline.push_inside_none _ _ _ hwhole hp)
      split at happend
      · exact .inr ⟨_, append_error happend⟩
      · next hnone => exact absurd hnone hrefused
    | some o' =>
      have hpush := Outline.push_inside heading.members valueKey
        (.member (Draft.level ⟨parts, component?, some (heading, o)⟩) heading.name
          :: Draft.outer ⟨parts, component?, some (heading, o)⟩) hp
      rw [h.writer.refusal?_eq_none hpush] at happend
      dsimp only at happend
      split at happend
      · exact .inl ⟨⟨a.writer.appended p, a.frames⟩, ⟨parts, component?, some (heading, o')⟩,
          append_ok happend, by simp [Draft.take?, hp], h.writer.appended hpush, h.frames⟩
      · exact .inr ⟨_, append_error happend⟩

theorem finish_cases (h : Writes a d) :
    (d.isClosed = false ∧ ∃ fault a', finish a = .error (.framing fault) a') ∨
    (d.isClosed = true ∧ ∃ a', finish a = .ok () a' ∧
      a'.writer.written = (Value.object d.members).bytes) ∨
    (d.isClosed = true ∧ ∃ required available a',
      finish a = .error (.insufficientBuffer required available) a') := by
  have hopen : d.isClosed = false → (d.frames.head?.getD .root).isRoot = false := by
    obtain ⟨parts, component?, block?⟩ := d
    intro hno
    cases block? with
    | some _ => rfl
    | none =>
      cases component? with
      | some _ => rfl
      | none => cases hno
  cases hd : d.isClosed with
  | false =>
    refine .inl ⟨rfl, .notAllowed .finish a.top, a, ?_⟩
    exact expectTop_refused (by rw [h.top]; exact hopen hd) _
  | true =>
    obtain ⟨parts, component?, block?⟩ := d
    obtain ⟨hcomponent, hblock⟩ := Bool.and_eq_true_iff.1 hd
    obtain rfl : component? = none := by simpa using hcomponent
    obtain rfl : block? = none := by simpa using hblock
    have hclose := write_cases h.writer (pushAll_closing _ _) (by simp)
    rw [finish, expectTop_admitted (by rw [h.top]; rfl)]
    rcases hclose with ⟨w, hw, hs⟩ | ⟨required, available, w, hw, -⟩
    · exact .inr (.inl ⟨rfl, _, hw, hs.written⟩)
    · exact .inr (.inr ⟨rfl, required, available, _, hw⟩)

/-- Ending a payload ends its draft, and the bytes are those of its tree. -/
theorem finish_ok {a' : Acknowledgement} (h : Writes a d) (hfinish : finish a = .ok () a') :
    d.isClosed = true ∧ a'.writer.written = (Value.object d.members).bytes := by
  rcases finish_cases h with ⟨-, _, _, herror⟩ | ⟨hclosed, a'', hok, hbytes⟩ | ⟨-, _, _, _, hfull⟩
  · cases hfinish.symm.trans herror
  · cases hfinish.symm.trans hok
    exact ⟨hclosed, hbytes⟩
  · cases hfinish.symm.trans hfull

end Calls

/-! ## Runs -/

theorem writes_start {region : Bytes} {a : Acknowledgement} {w : Writer}
    (h : start (Writer.ofRegion region) = .ok a w) : Writes a .empty := by
  have hblank : (Writer.ofRegion region).Shows .blank := ⟨rfl, rfl, rfl, rfl⟩
  cases happend : Writer.append (.opening .object) (Writer.ofRegion region) with
  | error e w' =>
    rw [start, Attempt.bind_error happend] at h
    cases h
  | ok _ w' =>
    rw [start, Attempt.bind_ok happend] at h
    cases h
    refine ⟨?_, rfl⟩
    rw [Writer.eq_appended happend]
    exact hblank.appended rfl

/-- A payload that is being written, and the calls on it that have succeeded. -/
structure Trial where
  payload : Acknowledgement
  succeeded : List Step

namespace Trial

def of (a : Acknowledgement) : Trial := ⟨a, []⟩

/-- What a call leaves behind, whether it succeeds or fails. -/
def after (t : Trial) (step : Step) : Trial :=
  match step.run t.payload with
  | .ok () a => ⟨a, t.succeeded ++ [step]⟩
  | .error _ a => ⟨a, t.succeeded⟩

def afterAll (t : Trial) : List Step → Trial
  | [] => t
  | step :: steps => (t.after step).afterAll steps

/-- Pieces are appended only within a block and until its value is complete. -/
def Careful (t : Trial) : List Step → Prop
  | [] => True
  | step :: steps =>
    (step.isAppend = true → ∃ d ∈ Draft.ofSteps t.succeeded, d.isWriting = true) ∧
    (t.after step).Careful steps

instance decidableCareful : (t : Trial) → (steps : List Step) → Decidable (t.Careful steps)
  | _, [] => isTrue trivial
  | t, step :: steps =>
    have := decidableCareful (t.after step) steps
    inferInstanceAs (Decidable ((_ → ∃ d ∈ Draft.ofSteps t.succeeded, _) ∧ _))

end Trial

theorem Draft.ofSteps_concat {steps : List Step} {step : Step} {d d' : Draft}
    (h : ofSteps steps = some d) (hd : d.take? step = some d') :
    ofSteps (steps ++ [step]) = some d' := by
  unfold ofSteps at h ⊢
  rw [List.foldlM_append, h]
  simpa using hd

/-- What a framing call does to a payload and to its draft. -/
theorem run_follows {a : Acknowledgement} {d : Draft} {step : Step} (h : Writes a d)
    (hstep : step.isAppend = false) : Follows d (d.take? step) (step.run a) := by
  cases step with
  | beginComponent c => exact beginComponent_follows h c
  | endComponent => exact endComponent_follows h
  | beginStatus name code version description =>
    exact beginStatus_follows h name code version description
  | endStatus => exact endStatus_follows h
  | property name v => exact property_follows h name v
  | append p => cases hstep

/-- A call that fails adds nothing to the draft, and one that succeeds adds what it says. -/
theorem run_cases {a : Acknowledgement} {d : Draft} {step : Step} (h : Writes a d)
    (hstep : step.isAppend = true → d.isWriting = true) :
    (∃ a' d', step.run a = .ok () a' ∧ d.take? step = some d' ∧ Writes a' d') ∨
    ∃ e a', step.run a = .error e a' ∧ Writes a' d := by
  cases happend : step.isAppend with
  | true =>
    cases step with
    | append p =>
      rcases append_cases h (hstep rfl) p with hok | ⟨e, herror⟩
      · exact .inl hok
      · exact .inr ⟨e, a, herror, h⟩
    | beginComponent | endComponent | beginStatus | endStatus | property => cases happend
  | false =>
    have hfollows := run_follows h happend
    unfold Follows at hfollows
    split at hfollows
    · obtain ⟨fault, a', heq, hw⟩ := hfollows
      exact .inr ⟨_, a', heq, hw⟩
    · next d' hd' =>
      rcases hfollows with ⟨a', heq, hw⟩ | ⟨required, available, a', heq, hw⟩
      · exact .inl ⟨a', d', heq, hd', hw⟩
      · exact .inr ⟨_, a', heq, hw⟩

/-- A framing call is refused exactly where the frame rules refuse it. -/
theorem framing_iff {a : Acknowledgement} {d : Draft} {step : Step} (h : Writes a d)
    (hstep : step.isAppend = false) :
    (∃ fault a', step.run a = .error (.framing fault) a') ↔ d.take? step = none := by
  have hfollows := run_follows h hstep
  unfold Follows at hfollows
  split at hfollows
  · next hnone =>
    obtain ⟨fault, a', heq, -⟩ := hfollows
    exact ⟨fun _ => hnone, fun _ => ⟨fault, a', heq⟩⟩
  · next d' hd' =>
    constructor
    · rintro ⟨fault, a', heq⟩
      rcases hfollows with ⟨_, hok, -⟩ | ⟨_, _, _, hfull, -⟩
      · cases heq.symm.trans hok
      · cases heq.symm.trans hfull
    · exact fun hno => absurd (hno.symm.trans hd') (by simp)

/-- Behind any calls the payload is that of the draft of the successful ones. -/
theorem writes_afterAll {t : Trial} {d : Draft} {steps : List Step} (h : Writes t.payload d)
    (hd : Draft.ofSteps t.succeeded = some d) (hsteps : t.Careful steps) :
    ∃ d', Draft.ofSteps (t.afterAll steps).succeeded = some d' ∧
      Writes (t.afterAll steps).payload d' := by
  induction steps generalizing t d with
  | nil => exact ⟨d, hd, h⟩
  | cons step steps ih =>
    obtain ⟨hstep, hsteps⟩ := hsteps
    have hwriting : step.isAppend = true → d.isWriting = true := by
      intro happend
      obtain ⟨d₁, hd₁, hyes⟩ := hstep happend
      rw [Option.mem_def, hd] at hd₁
      cases hd₁
      exact hyes
    rcases run_cases h hwriting with ⟨a', d', heq, hd', hw⟩ | ⟨e, a', heq, hw⟩
    · have hafter : t.after step = ⟨a', t.succeeded ++ [step]⟩ := by rw [Trial.after, heq]
      rw [Trial.afterAll, hafter]
      rw [hafter] at hsteps
      exact ih hw (Draft.ofSteps_concat hd hd') hsteps
    · have hafter : t.after step = ⟨a', t.succeeded⟩ := by rw [Trial.after, heq]
      rw [Trial.afterAll, hafter]
      rw [hafter] at hsteps
      exact ih hw hd hsteps

/-- A payload is what its calls say. Over any room and behind any calls, of which each may have
succeeded or failed, there is a draft of the successful ones: their effects by the frame rules, one
after the other. A framing call is refused exactly where these rules refuse it for that draft, and so
is the end of the payload where a component or a block is open. If the payload is ended, its bytes
are the text of the object of all parts of the draft. -/
theorem payload_of_steps (region : Bytes) (a : Acknowledgement) (w : Writer) (steps : List Step)
    (hstart : start (Writer.ofRegion region) = .ok a w) (hsteps : (Trial.of a).Careful steps) :
    ∃ d, Draft.ofSteps ((Trial.of a).afterAll steps).succeeded = some d ∧
      (∀ step : Step, step.isAppend = false →
        ((∃ fault a', step.run ((Trial.of a).afterAll steps).payload = .error (.framing fault) a')
          ↔ d.take? step = none)) ∧
      ((∃ fault a', finish ((Trial.of a).afterAll steps).payload = .error (.framing fault) a')
        ↔ d.isClosed = false) ∧
      ∀ a', finish ((Trial.of a).afterAll steps).payload = .ok () a' →
        d.isClosed = true ∧ a'.writer.written = (Value.object d.members).bytes := by
  obtain ⟨d, hd, hw⟩ := writes_afterAll (writes_start hstart) rfl hsteps
  refine ⟨d, hd, fun step hstep => framing_iff hw hstep, ?_, fun a' => finish_ok hw⟩
  rcases finish_cases hw with ⟨hopen, hrefused⟩ | ⟨hclosed, a', hok, -⟩ | ⟨hclosed, _, _, a', hfull⟩
  · exact ⟨fun _ => hopen, fun _ => hrefused⟩
  · refine ⟨fun ⟨fault, a'', herror⟩ => ?_, fun hno => absurd (hno.symm.trans hclosed) (by simp)⟩
    cases herror.symm.trans hok
  · refine ⟨fun ⟨fault, a'', herror⟩ => ?_, fun hno => absurd (hno.symm.trans hclosed) (by simp)⟩
    cases herror.symm.trans hfull

/-- Calls of which some break the frame rules and one does not fit. -/
def sampleSteps : List Step := [
  .beginComponent "heater", .beginComponent "fan", .beginStatus "target" 200 3 none,
  .append (.opening .array), .endStatus, .append (.value (.number (.integer 21))),
  .append (.closing .array), .property "mode" .null, .endStatus, .endComponent, .endComponent,
  .property "note" (.string "there is no room for a text of this length in the payload"),
  .property "mode" .null]

def sampleSuccesses : List Step := [
  .beginComponent "heater", .beginStatus "target" 200 3 none, .append (.opening .array),
  .append (.value (.number (.integer 21))), .append (.closing .array), .endStatus, .endComponent,
  .property "mode" .null]

def sampleParts : List Part := [
  .component "heater" [("target", block 200 3 none (.array [.number (.integer 21)]))],
  .member ("mode", .null)]

/-- A payload with room for 99 bytes behind its opening brace. -/
def sampleStart : Acknowledgement :=
  ⟨⟨Utf8.encode ['{'], List.replicate 99 0, [.object], false, false⟩, []⟩

theorem payload_of_steps_sample :
    start (Writer.ofRegion (List.replicate 100 0)) = .ok sampleStart sampleStart.writer ∧
      (Trial.of sampleStart).Careful sampleSteps ∧
      ((Trial.of sampleStart).afterAll sampleSteps).succeeded = sampleSuccesses ∧
      ∃ a', finish ((Trial.of sampleStart).afterAll sampleSteps).payload = .ok () a' ∧
        a'.writer.written = (Value.object (sampleParts.map Part.toMember)).bytes := by
  have hstart : start (Writer.ofRegion (List.replicate 100 0))
      = .ok sampleStart sampleStart.writer := rfl
  have hcareful : (Trial.of sampleStart).Careful sampleSteps := by decide +kernel
  have hsucceeded : ((Trial.of sampleStart).afterAll sampleSteps).succeeded = sampleSuccesses := by
    decide +kernel
  obtain ⟨d, hd, -, -, hfinish⟩ := payload_of_steps _ _ _ sampleSteps hstart hcareful
  have hdraft : Draft.ofSteps sampleSuccesses = some ⟨sampleParts, none, none⟩ := rfl
  rw [hsucceeded, hdraft] at hd
  cases hd
  have hends : (Attempt.outcome (finish ((Trial.of sampleStart).afterAll sampleSteps).payload)).isOk
      = true := by
    decide +kernel
  cases hend : finish ((Trial.of sampleStart).afterAll sampleSteps).payload with
  | error e a' =>
    rw [hend] at hends
    cases hends
  | ok _ a' => exact ⟨hstart, hcareful, hsucceeded, a', rfl, (hfinish a' hend).2⟩

end DeviceTwin.Acknowledgement
