import DeviceTwin.Proofs.Acknowledgement.AllOrNone

/-!
# What a call reports that finds too little room

A call writes its pieces one after the other, and the first of them that does not fit ends it. The
error is the one of that piece: it tells what the piece takes, and what was left in front of it at that
moment. What the call had written until then is taken back and counts in neither number, and of the
pieces behind nothing is known. So whoever makes the region larger by the difference of the numbers
may be told again that there is too little room.

Results:
* `run_full`: which piece a call reports.
* `admits_pieces`: a call whose first piece is admitted fails for want of room only.
* `roomier_afterAll`: calls that succeeded do so again in a larger region, and write the same.
* `shortage_of_step`: what the reported numbers are, and in which larger regions the call succeeds.
* `shortage_misreported`: a call that fails again in a region larger by the difference.
-/
namespace DeviceTwin

/-! ## More room for writers -/

namespace Writer

variable {more : Nat} {w w' w₁ : Writer}

theorem Roomier.append_ok (h : w.Roomier more w') {p : Piece} (hp : append p w = .ok () w₁) :
    ∃ w₁', append p w' = .ok () w₁' ∧ w₁.Roomier more w₁' := by
  obtain ⟨hnone, hfits, rfl⟩ := append_eq_ok_iff.1 hp
  have hroom : (w'.needed p).length ≤ w'.remaining := by
    rw [h.needed_eq, h.remaining]
    omega
  exact ⟨_, append_eq_ok_iff.2 ⟨h.refusal?_eq p ▸ hnone, hroom, rfl⟩, h.appended hfits⟩

theorem roomier_ofRegion {region region' : Bytes} (h : region.length ≤ region'.length) :
    (ofRegion region).Roomier (region'.length - region.length) (ofRegion region') :=
  ⟨region', by simp only [ofRegion]; omega, rfl⟩

theorem Roomier.of_alike {size : Nat} (h : w.Roomier more w') (halike : w.Alike size w₁) :
    w₁.Roomier more w' := by
  obtain ⟨spare, hspare, rfl⟩ := h
  obtain ⟨-, other, hother, rfl⟩ := halike
  exact ⟨spare, by rw [hspare, ← hother], rfl⟩

end Writer

namespace Acknowledgement

/-! ## The piece that does not fit -/

/-- Whether the call begins with the name of a member. -/
def Step.isNamed : Step → Bool
  | .beginComponent _ | .beginStatus _ _ _ _ | .property _ _ => true
  | .endComponent | .endStatus | .append _ => false

/-- Only a call that begins with a name writes more than one piece. -/
theorem length_pieces_iff (s : Step) : s.pieces.length = 1 ↔ s.isNamed = false := by
  cases s with
  | beginComponent name => simp [Step.pieces, Step.isNamed, componentOpening]
  | beginStatus name code version description =>
    cases description <;> simp [Step.pieces, Step.isNamed, blockOpening]
  | endComponent | endStatus | property name v | append p => simp [Step.pieces, Step.isNamed]

/-- A call that finds too little room reports the piece that does not fit. -/
theorem run_full {s : Step} {a a' : Acknowledgement} {required available : Nat}
    (h : s.run a = .error (.insufficientBuffer required available) a') :
    s.refusal? a = none ∧ ∃ before p behind, s.pieces = before ++ p :: behind ∧
      a.writer.Admits (before ++ [p]) ∧
      required = ((a.writer.appendedAll before).needed p).length ∧
      available + (a.writer.neededAll before).length = a.writer.remaining ∧
      available < required := by
  rcases run_outcomes s a with ⟨fault, -, hrun⟩ | ⟨hnone, e, b, hwrite, hrun⟩ | ⟨-, w, -, hrun⟩
  · cases h.symm.trans hrun
  · cases h.symm.trans hrun
    obtain ⟨w, hall⟩ := write_eq_error hwrite
    exact ⟨hnone, Writer.appendAll_full hall⟩
  · cases h.symm.trans hrun

/-- Where the first piece of a call is admitted all of them are. -/
theorem admits_pieces {s : Step} {w : Writer} (h : ∀ p ∈ s.pieces.head?, w.refusal? p = none) :
    w.Admits s.pieces := by
  -- Behind its first name a call puts values behind names and names directly into objects.
  cases s with
  | beginComponent name =>
    have hname := h (.name name) rfl
    simpa [Step.pieces, componentOpening, Writer.refusal?] using hname
  | beginStatus name code version description =>
    have hname := h (.name name) rfl
    cases description with
    | none | some text => simpa [Step.pieces, blockOpening, Writer.refusal?] using hname
  | property name v =>
    have hname := h (.name name) rfl
    simpa [Step.pieces, Writer.refusal?] using hname
  | endComponent | endStatus => exact ⟨h (.closing .object) rfl, trivial⟩
  | append p => exact ⟨h p rfl, trivial⟩

/-! ## More room for payloads -/

/-- The second payload has the same text and frames in a region that is larger by so many bytes. -/
def Roomier (more : Nat) (a b : Acknowledgement) : Prop :=
  b.frames = a.frames ∧ a.writer.Roomier more b.writer

namespace Roomier

variable {more : Nat} {a b : Acknowledgement} (h : a.Roomier more b)
include h

theorem refusal?_eq (s : Step) : s.refusal? b = s.refusal? a := by
  obtain ⟨hframes, spare, -, hwriter⟩ := h
  have htop : b.top = a.top := by rw [top, top, hframes]
  have hcomplete : ∀ depth, valueComplete b.writer depth = valueComplete a.writer depth := by
    intro depth
    rw [hwriter]
    rfl
  cases s with
  | endStatus => simp only [Step.refusal?, htop, hcomplete]
  | beginComponent | endComponent | beginStatus | property | append =>
    simp only [Step.refusal?, htop]

theorem behind {s : Step} (hfits : (a.writer.neededAll s.pieces).length ≤ a.writer.remaining) :
    (s.behind a).Roomier more (s.behind b) := by
  have hwriter := h.2.appendedAll hfits
  refine ⟨?_, hwriter⟩
  have hdepth : (b.writer.appendedAll s.pieces).depth = (a.writer.appendedAll s.pieces).depth := by
    obtain ⟨spare, -, heq⟩ := hwriter
    rw [heq]
    rfl
  show s.framesBehind _ b.frames = s.framesBehind _ a.frames
  rw [h.1]
  cases s with
  | beginStatus => simp only [Step.framesBehind, hdepth]
  | beginComponent | endComponent | endStatus | property | append => rfl

/-- A call succeeds with more room if the frames and the writer admit it and there is as much room as
its pieces take. -/
theorem run_ok_iff {s : Step} {b' : Acknowledgement} :
    s.run b = .ok () b' ↔ s.refusal? a = none ∧ a.writer.Admits s.pieces ∧
      (a.writer.neededAll s.pieces).length ≤ a.writer.remaining + more ∧ b' = s.behind b := by
  rw [Acknowledgement.run_ok_iff, h.refusal?_eq, h.2.admits_iff, h.2.neededAll_eq, h.2.remaining]

theorem run_ok {s : Step} {a' : Acknowledgement} (hrun : s.run a = .ok () a') :
    ∃ b', s.run b = .ok () b' ∧ a'.Roomier more b' := by
  obtain ⟨hnone, hadmits, hfits, rfl⟩ := Acknowledgement.run_ok_iff.1 hrun
  exact ⟨s.behind b, h.run_ok_iff.2 ⟨hnone, hadmits, by omega, rfl⟩, h.behind hfits⟩

theorem run_error {s : Step} {a' : Acknowledgement} {e : PropertyError}
    (hrun : s.run a = .error e a') : a'.Roomier more b := by
  obtain ⟨hframes, halike⟩ := recovers_step s a e a' hrun
  exact ⟨h.1.trans hframes.symm, h.2.of_alike halike⟩

end Roomier

/-! ## Making calls again -/

/-- Makes calls one after the other and ends with the first that fails. -/
def runAll : List Step → Attempt Acknowledgement Unit
  | [] => return ()
  | s :: ss => do
    s.run
    runAll ss

theorem runAll_concat {ss : List Step} {a b : Acknowledgement} (h : runAll ss a = .ok () b)
    (s : Step) : runAll (ss ++ [s]) a = s.run b := by
  induction ss generalizing a with
  | nil =>
    cases h
    have hlast : runAll [s] = s.run := by
      unfold runAll runAll
      exact bind_pure_unit
    exact congrFun hlast _
  | cons s' ss ih =>
    rw [runAll] at h
    rw [List.cons_append, runAll]
    cases hs' : s'.run a with
    | error e a' =>
      rw [Attempt.bind_error hs'] at h
      cases h
    | ok _ a' =>
      rw [Attempt.bind_ok hs'] at h ⊢
      exact ih h

/-- Calls that succeeded do so again in a larger region, and write the same. -/
theorem roomier_afterAll {more : Nat} {t : Trial} {a₀ b : Acknowledgement}
    (hruns : runAll t.succeeded a₀ = .ok () b) (h : t.payload.Roomier more b)
    (steps : List Step) :
    ∃ b', runAll (t.afterAll steps).succeeded a₀ = .ok () b' ∧
      (t.afterAll steps).payload.Roomier more b' := by
  refine Trial.afterAll_of_run (motive := fun t => ∃ b, runAll t.succeeded a₀ = .ok () b ∧
    t.payload.Roomier more b) ?_ ?_ ⟨b, hruns, h⟩ steps
  · rintro t s a' ⟨b, hruns, h⟩ hrun
    obtain ⟨b', hrun', h'⟩ := h.run_ok hrun
    exact ⟨b', by rw [runAll_concat hruns, hrun'], h'⟩
  · rintro t s e a' ⟨b, hruns, h⟩ hrun
    exact ⟨b, hruns, h.run_error hrun⟩

theorem roomier_start {region region' : Bytes} {a : Acknowledgement} {w : Writer}
    (h : start (Writer.ofRegion region) = .ok a w) (hlarger : region.length ≤ region'.length) :
    ∃ a' w', start (Writer.ofRegion region') = .ok a' w' ∧
      a.Roomier (region'.length - region.length) a' := by
  obtain ⟨hopen, rfl⟩ := start_eq_ok_iff.1 h
  obtain ⟨w', hopen', hw'⟩ := (Writer.roomier_ofRegion hlarger).append_ok hopen
  exact ⟨⟨w', []⟩, w', start_eq_ok_iff.2 ⟨hopen', rfl⟩, rfl, hw'⟩

theorem within_of_start {capacity : Nat} {a : Acknowledgement} {w : Writer}
    (h : start (Writer.ofRegion (List.replicate capacity 0)) = .ok a w)
    (x : Attempt Acknowledgement Unit) (bytes : Bytes) :
    within capacity x = .ok bytes ↔ ∃ b, x a = .ok () b ∧ bytes = b.writer.written := by
  rw [within, h]
  dsimp only
  cases x a with
  | error e b => simp
  | ok _ b => simp [eq_comm]

section Again

variable {region : Bytes} {a : Acknowledgement} {w : Writer} {capacity : Nat}
variable (hstart : start (Writer.ofRegion region) = .ok a w) (hlarger : region.length ≤ capacity)
variable (steps : List Step)
include hstart hlarger

theorem exists_again :
    ∃ a₀ w₀ b, start (Writer.ofRegion (List.replicate capacity 0)) = .ok a₀ w₀ ∧
      runAll ((Trial.of a).afterAll steps).succeeded a₀ = .ok () b ∧
      ((Trial.of a).afterAll steps).payload.Roomier (capacity - region.length) b := by
  have hlength : (List.replicate capacity (0 : UInt8)).length = capacity := List.length_replicate
  obtain ⟨a₀, w₀, hstart₀, hroomier⟩ := roomier_start hstart (hlength.symm ▸ hlarger)
  rw [hlength] at hroomier
  obtain ⟨b, hruns, hb⟩ := roomier_afterAll (t := Trial.of a) rfl hroomier steps
  exact ⟨a₀, w₀, b, hstart₀, hruns, hb⟩

/-- Calls that succeeded write the same in a larger region. -/
theorem within_again : within capacity (runAll ((Trial.of a).afterAll steps).succeeded)
    = .ok ((Trial.of a).afterAll steps).payload.writer.written := by
  obtain ⟨a₀, w₀, b, hstart₀, hruns, hb⟩ := exists_again hstart hlarger steps
  exact (within_of_start hstart₀ _ _).2 ⟨b, hruns, hb.2.written_eq.symm⟩

/-- When a further call succeeds behind them, and what is written then. -/
theorem within_concat (step : Step) (bytes : Bytes) (t : Trial)
    (ht : (Trial.of a).afterAll steps = t) :
    within capacity (runAll (t.succeeded ++ [step])) = .ok bytes ↔
      step.refusal? t.payload = none ∧ t.payload.writer.Admits step.pieces ∧
      region.length + (t.payload.writer.neededAll step.pieces).length
        ≤ capacity + t.payload.writer.remaining ∧
      bytes = t.payload.writer.written ++ t.payload.writer.neededAll step.pieces := by
  obtain ⟨a₀, w₀, b, hstart₀, hruns, hb⟩ := exists_again hstart hlarger steps
  rw [ht] at hruns hb
  have hwritten : (step.behind b).writer.written
      = t.payload.writer.written ++ t.payload.writer.neededAll step.pieces := by
    show (b.writer.appendedAll step.pieces).written = _
    rw [Writer.written_appendedAll, hb.2.neededAll_eq, hb.2.written_eq]
  rw [within_of_start hstart₀, runAll_concat hruns]
  constructor
  · rintro ⟨b', hrun, rfl⟩
    obtain ⟨hnone, hadmits, hfits, rfl⟩ := hb.run_ok_iff.1 hrun
    exact ⟨hnone, hadmits, by omega, hwritten⟩
  · rintro ⟨hnone, hadmits, hfits, rfl⟩
    exact ⟨step.behind b, hb.run_ok_iff.2 ⟨hnone, hadmits, by omega, rfl⟩, hwritten.symm⟩

end Again

/-! ## What is reported -/

/-- A call that begins with a name never reports all that it takes, since each of its pieces takes
some room. -/
theorem required_eq_iff {s : Step} {before behind : List Piece} {p : Piece} (w : Writer)
    (hpieces : s.pieces = before ++ p :: behind) :
    ((w.appendedAll before).needed p).length = (w.neededAll s.pieces).length ↔
      s.isNamed = false := by
  have hbefore := w.neededAll_eq_nil_iff before
  have hbehind := ((w.appendedAll before).appended p).neededAll_eq_nil_iff behind
  rw [← List.length_eq_zero_iff] at hbefore hbehind
  have hlength := congrArg List.length hpieces
  rw [← length_pieces_iff, hpieces, Writer.neededAll_append, Writer.neededAll_cons]
  simp only [List.length_append, List.length_cons] at hlength ⊢
  constructor
  · intro h
    have hno : before = [] := hbefore.1 (by omega)
    have hnone : behind = [] := hbehind.1 (by omega)
    rw [hno, hnone]
    rfl
  · intro h
    have hno : before = [] := List.eq_nil_of_length_eq_zero (by omega)
    have hnone : behind = [] := List.eq_nil_of_length_eq_zero (by omega)
    have hzero := hbefore.2 hno
    have hzero' := hbehind.2 hnone
    omega

/-- What the numbers of an error are. Over any region and behind any calls, of which each may have
succeeded or failed, let a call fail for want of room. The room behind it is the room in front of it.
The numbers are those of one piece of the call: what this piece takes with its comma, and what the
pieces in front of it leave of the room. So the second number is the room exactly where the first
piece is the one that does not fit, and the first one is the size of the call exactly where the call
has no other piece, which is true of none that begins with a name. Make the calls that succeeded
again, and then this one, in a region that is no smaller. They all succeed exactly where the room
there is enough for the size of the call, and then they append as much. A region that is larger by
the difference of the numbers is enough exactly where no piece of the call stands behind the
reported one. -/
theorem shortage_of_step (region : Bytes) (a : Acknowledgement) (w : Writer) (steps : List Step)
    (t : Trial) (step : Step) (required available : Nat) (a' : Acknowledgement)
    (hstart : start (Writer.ofRegion region) = .ok a w) (ht : (Trial.of a).afterAll steps = t)
    (h : step.run t.payload = .error (.insufficientBuffer required available) a') :
    a'.writer.remaining = t.payload.writer.remaining ∧
    ∃ before p behind, step.pieces = before ++ p :: behind ∧
      required = ((t.payload.writer.appendedAll before).needed p).length ∧
      available + (t.payload.writer.neededAll before).length = a'.writer.remaining ∧
      available < required ∧
      (available = a'.writer.remaining ↔ before = []) ∧
      (required = (t.payload.writer.neededAll step.pieces).length ↔ step.isNamed = false) ∧
      (∀ capacity, region.length ≤ capacity →
        within capacity (runAll t.succeeded) = .ok t.payload.writer.written ∧
        ∀ bytes, within capacity (runAll (t.succeeded ++ [step])) = .ok bytes ↔
          region.length + (t.payload.writer.neededAll step.pieces).length
            ≤ capacity + a'.writer.remaining ∧
          bytes = t.payload.writer.written ++ t.payload.writer.neededAll step.pieces) ∧
      ((∃ bytes, within (region.length + (required - available)) (runAll (t.succeeded ++ [step]))
        = .ok bytes) ↔ behind = []) := by
  have hroom : a'.writer.remaining = t.payload.writer.remaining := by
    obtain ⟨-, -, spare, hspare, hwriter⟩ := recovers_step step _ _ _ h
    rw [hwriter]
    exact hspare
  obtain ⟨hnone, before, p, behind, hpieces, hfirst, hrequired, havailable, hless⟩ := run_full h
  have hadmits : t.payload.writer.Admits step.pieces := by
    refine admits_pieces fun q hq => ?_
    rw [hpieces] at hq
    cases before with
    | nil | cons => cases hq; exact hfirst.1
  -- Made again, the calls that succeeded leave as much more room as the region is larger.
  have hconcat : ∀ capacity, region.length ≤ capacity → ∀ bytes,
      within capacity (runAll (t.succeeded ++ [step])) = .ok bytes ↔
        region.length + (t.payload.writer.neededAll step.pieces).length
          ≤ capacity + a'.writer.remaining ∧
        bytes = t.payload.writer.written ++ t.payload.writer.neededAll step.pieces := by
    intro capacity hlarger bytes
    rw [within_concat hstart hlarger steps step bytes t ht, and_iff_right hnone,
      and_iff_right hadmits, hroom]
  have hsize : (t.payload.writer.neededAll step.pieces).length
      = (t.payload.writer.neededAll before).length + required
        + (((t.payload.writer.appendedAll before).appended p).neededAll behind).length := by
    rw [hpieces, Writer.neededAll_append, Writer.neededAll_cons, List.length_append,
      List.length_append, hrequired, Nat.add_assoc]
  -- Every piece takes some bytes, so the sizes tell on which side of `p` there are pieces.
  have hbefore := t.payload.writer.neededAll_eq_nil_iff before
  have hbehind := ((t.payload.writer.appendedAll before).appended p).neededAll_eq_nil_iff behind
  rw [← List.length_eq_zero_iff] at hbefore hbehind
  refine ⟨hroom, before, p, behind, hpieces, hrequired, hroom ▸ havailable, hless, ?_, ?_, ?_, ?_⟩
  · rw [← hbefore]
    omega
  · rw [hrequired]
    exact required_eq_iff _ hpieces
  · intro capacity hlarger
    have hwithin := within_again hstart hlarger steps
    rw [ht] at hwithin
    exact ⟨hwithin, hconcat capacity hlarger⟩
  · rw [← hbehind]
    constructor
    · rintro ⟨bytes, hbytes⟩
      have hfits := ((hconcat _ (Nat.le_add_right _ _) bytes).1 hbytes).1
      omega
    · intro hlast
      exact ⟨_, (hconcat _ (Nat.le_add_right _ _) _).2 ⟨by omega, rfl⟩⟩

/-- A payload with room for 47 bytes behind its opening brace. -/
def shortStart : Acknowledgement :=
  ⟨⟨Utf8.encode ['{'], List.replicate 47 0, [.object], false, false⟩, []⟩

def shortSteps : List Step := [.beginComponent "heater", .endStatus]

/-- A call that takes 45 bytes behind them. -/
def shortCall : Step := .beginStatus "target" 200 3 (some "ok")

theorem shortage_of_step_sample :
    ∃ a', shortCall.run ((Trial.of shortStart).afterAll shortSteps).payload
        = .error (.insufficientBuffer 6 2) a' ∧
      a'.writer.remaining = 28 ∧
      (∀ bytes, within 64 (runAll [.beginComponent "heater", shortCall]) ≠ .ok bytes) ∧
      ∃ bytes, within 65 (runAll [.beginComponent "heater", shortCall]) = .ok bytes := by
  have hstart : start (Writer.ofRegion (List.replicate 48 0)) = .ok shortStart shortStart.writer :=
    rfl
  have hfails : Attempt.failure? (shortCall.run ((Trial.of shortStart).afterAll shortSteps).payload)
      = some (.insufficientBuffer 6 2) := by
    decide +kernel
  have hrun := Attempt.eq_error_of_failure? hfails
  have hsucceeded : ((Trial.of shortStart).afterAll shortSteps).succeeded
      = [.beginComponent "heater"] := by
    decide +kernel
  have hroom : ((Trial.of shortStart).afterAll shortSteps).payload.writer.remaining = 28 := by
    decide +kernel
  have hsize : (((Trial.of shortStart).afterAll shortSteps).payload.writer.neededAll
      shortCall.pieces).length = 45 := by
    decide +kernel
  obtain ⟨hleft, _, _, _, -, -, -, -, -, -, hagain, -⟩ :=
    shortage_of_step _ _ _ shortSteps _ shortCall _ _ _ hstart rfl hrun
  have hregion : (List.replicate 48 (0 : UInt8)).length = 48 := List.length_replicate
  rw [hsucceeded, hregion, hsize, hleft, hroom] at hagain
  have henough := ((hagain 65 (by omega)).2 _).2 ⟨by omega, rfl⟩
  refine ⟨_, hrun, hleft.trans hroom, ?_, _, henough⟩
  intro bytes hbytes
  have hfits := (((hagain 64 (by omega)).2 bytes).1 hbytes).1
  omega

/-- A component that takes 24 bytes finds room for 15. The error tells of 6 bytes and of none that are
left: those of a name within the component, and what its opening has left. In a region that is larger
by 6 bytes there is too little room again. -/
theorem shortage_misreported :
    ∃ a w a', start (Writer.ofRegion (List.replicate 16 0)) = .ok a w ∧
      beginComponent "thermostat1" a = .error (.insufficientBuffer 6 0) a' ∧
      a'.writer.remaining = 15 ∧
      (a.writer.neededAll (componentOpening "thermostat1")).length = 24 ∧
      within (16 + (6 - 0)) (beginComponent "thermostat1") = .error (.insufficientBuffer 3 0) :=
  ⟨_, _, _, rfl, rfl, rfl, rfl, rfl⟩

end Acknowledgement
end DeviceTwin
