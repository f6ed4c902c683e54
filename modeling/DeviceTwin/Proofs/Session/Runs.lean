import DeviceTwin.Proofs.Session.Steps

/-!
# Runs of a session

A device is driven from outside by three calls. A run is any sequence of them, over any transport,
and goes on where a call fails. The revisions that a run receives are told by its polls: each
message counts with the state in which it arrives, since that decides whether it is a document.

Results:
* `becomes_publish`, `becomes_handle`: what one step changes of a device.
* `becomes_after`: a call takes up the revision that it receives, and the settings stay.
* `store_afterAll`: behind a run the store has taken up the revisions of the run, in their order.
-/
namespace DeviceTwin

open Attempt (final)

/-- The device `d` in a later state `d'`, with the store `store`: its settings are the same, and no
number is used again. -/
def Device.Becomes (d : Device) (store : Store) (d' : Device) : Prop :=
  ∃ n pending, d.nextRequest ≤ n ∧
    d' = { d with nextRequest := n, pending := pending, store := store }

theorem Device.Becomes.trans {d d' d'' : Device} {store store' : Store} (h : d.Becomes store d')
    (h' : d'.Becomes store' d'') : d.Becomes store' d'' := by
  obtain ⟨n, pending, hn, rfl⟩ := h
  obtain ⟨n', pending', hn', rfl⟩ := h'
  exact ⟨n', pending', Nat.le_trans hn hn', rfl⟩

theorem Device.becomes_self (d : Device) : d.Becomes d.store d :=
  ⟨d.nextRequest, d.pending, Nat.le_refl _, rfl⟩

namespace Session

variable {τ : Type}

/-- What the session becomes by a message: the revision in it, if there is one, is taken up. -/
def storeAfter (s : Session τ) (m : Message) : Store :=
  Store.absorbAll (s.device.revision? m).toList s.device.store

variable [Transport τ]

/-! ## Single steps -/

theorem becomes_publish (request : Request) (payload : Bytes) (s : Session τ) :
    s.device.Becomes s.device.store (final (publish request payload s)).device := by
  rw [publish_eq]
  split
  · split
    · exact ⟨_, _, Nat.le_succ _, rfl⟩
    · exact ⟨_, _, Nat.le_succ _, rfl⟩
  · exact ⟨_, _, Nat.le_succ _, rfl⟩

theorem becomes_acknowledge (version : Int) (accepted : List Acknowledgement.Accepted)
    (s : Session τ) :
    s.device.Becomes s.device.store (final (acknowledge version accepted s)).device := by
  rcases acknowledge_cases version accepted s with heq | ⟨required, available, heq⟩ | heq <;>
    rw [heq]
  · exact Device.becomes_self _
  · exact Device.becomes_self _
  · exact becomes_publish _ _ s

/-- The store takes up the revision of a message, whether or not it can be acknowledged. -/
theorem becomes_handle (m : Message) (s : Session τ) :
    s.device.Becomes (s.storeAfter m) (final (handle m s)).device := by
  rw [storeAfter]
  rcases handle_cases m s with ⟨hnone, pending, ⟨e, heq⟩ | ⟨warnings, heq⟩⟩ | ⟨r, pending, hr, heq⟩
  · rw [hnone, heq]
    exact ⟨_, _, Nat.le_refl _, rfl⟩
  · rw [hnone, heq]
    exact ⟨_, _, Nat.le_refl _, rfl⟩
  · rw [hr, heq]
    have htaken : s.device.Becomes (s.device.store.absorb r)
        ((s.answered pending s.warnings).holding (s.device.store.absorb r)).device :=
      ⟨_, _, Nat.le_refl _, rfl⟩
    exact htaken.trans (becomes_acknowledge _ _ _)

theorem handleOrWarn_final (m : Message) (s : Session τ) :
    ∃ warnings, final (handleOrWarn m s) = { final (handle m s) with warnings := warnings } := by
  rw [handleOrWarn]
  cases handle m s with
  | ok _ s' => exact ⟨s'.warnings, rfl⟩
  | error e s' => cases e <;> exact ⟨_, rfl⟩

/-! ## Calls -/

/-- A call on a device from outside. -/
inductive Act where
  | start
  | requestDocument
  | poll
  deriving DecidableEq, Repr

def Act.perform : Act → Action τ Unit
  | start => Session.start
  | requestDocument => Session.requestDocument
  | poll => do let _ ← Session.poll

/-- The session behind a call, whether it succeeded or not. -/
def after (act : Act) (s : Session τ) : Session τ := final (act.perform s)

def Act.message? : Act → Session τ → Option Message
  | poll, s =>
    match Transport.receive s.transport with
    | .ok m _ => m
    | .error _ _ => none
  | _, _ => none

def Act.revision? (act : Act) (s : Session τ) : Option Revision :=
  (act.message? s).bind s.device.revision?

theorem start_cases (s : Session τ) : ∃ t t',
    t = final (Transport.subscribe s.device.scheme.responseFilter .atLeastOnce s.transport) ∧
    t' = final (Transport.subscribe s.device.scheme.desiredPatchFilter .atLeastOnce t) ∧
    ((∃ e, start s = .error (.transport e) { s with transport := t }) ∨
      (∃ e, start s = .error (.transport e) { s with transport := t' }) ∨
      start s = publish .documentGet [] { s with transport := t' }) := by
  refine ⟨_, _, rfl, rfl, ?_⟩
  unfold start
  rw [Attempt.get_bind]
  cases hanswers : Transport.subscribe s.device.scheme.responseFilter .atLeastOnce s.transport with
  | error e t => exact .inl ⟨e, Attempt.bind_error (onTransport_error hanswers)⟩
  | ok _ t =>
    rw [Attempt.bind_ok (onTransport_ok hanswers), Attempt.final_ok]
    cases hpatches : Transport.subscribe s.device.scheme.desiredPatchFilter .atLeastOnce t with
    | error e t' =>
      have hfailed := onTransport_error (s := { s with transport := t }) hpatches
      exact .inr (.inl ⟨e, Attempt.bind_error hfailed⟩)
    | ok _ t' =>
      have hdone := onTransport_ok (s := { s with transport := t }) hpatches
      exact .inr (.inr (Attempt.bind_ok hdone))

theorem becomes_start (s : Session τ) :
    s.device.Becomes s.device.store (final (start s)).device := by
  obtain ⟨t, t', -, -, ⟨e, heq⟩ | ⟨e, heq⟩ | heq⟩ := start_cases s <;> rw [heq]
  · exact Device.becomes_self _
  · exact Device.becomes_self _
  · exact becomes_publish .documentGet [] { s with transport := t' }

theorem after_poll (s : Session τ) :
    after .poll s = match Transport.receive s.transport with
      | .ok (some m) t => final (handleOrWarn m { s with transport := t })
      | .ok none t => { s with transport := t }
      | .error _ t => { s with transport := t } := by
  rw [after, Act.perform, Attempt.final_bind_pure, poll]
  cases hreceive : Transport.receive s.transport with
  | error e t => rw [Attempt.bind_error (onTransport_error hreceive)]; rfl
  | ok m t =>
    rw [Attempt.bind_ok (onTransport_ok hreceive)]
    cases m with
    | none => rfl
    | some m => exact Attempt.final_bind_pure _ _ _

/-- A call takes up the revision that it receives, and the settings stay. -/
theorem becomes_after (act : Act) (s : Session τ) :
    s.device.Becomes (Store.absorbAll (act.revision? s).toList s.device.store)
      (after act s).device := by
  cases act with
  | start => exact becomes_start s
  | requestDocument => exact becomes_publish .documentGet [] s
  | poll =>
    rw [after_poll, Act.revision?, Act.message?]
    cases Transport.receive s.transport with
    | error e t => exact Device.becomes_self _
    | ok m t =>
      cases m with
      | none => exact Device.becomes_self _
      | some m =>
        obtain ⟨warnings, heq⟩ := handleOrWarn_final m { s with transport := t }
        dsimp only
        rw [heq]
        exact becomes_handle m { s with transport := t }

/-! ## Runs -/

def afterAll (acts : List Act) (s : Session τ) : Session τ :=
  acts.foldl (fun s act => after act s) s

/-- The messages that calls receive, each with the device that it arrives at. -/
def arrivals : (acts : List Act) → Session τ → List (Message × Device)
  | [], _ => []
  | act :: acts, s => ((act.message? s).map (·, s.device)).toList ++ arrivals acts (after act s)

/-- The revisions that calls receive: those of the messages that are handled as documents and name a
version. -/
def revisions (acts : List Act) (s : Session τ) : List Revision :=
  (arrivals acts s).filterMap fun a => a.2.revision? a.1

theorem revisions_cons (act : Act) (acts : List Act) (s : Session τ) :
    revisions (act :: acts) s = (act.revision? s).toList ++ revisions acts (after act s) := by
  rw [revisions, arrivals, List.filterMap_append, Act.revision?]
  congr 1
  cases act.message? s with
  | none => rfl
  | some m => cases h : s.device.revision? m <;> simp [h]

theorem afterAll_append (acts more : List Act) (s : Session τ) :
    afterAll (acts ++ more) s = afterAll more (afterAll acts s) :=
  List.foldl_append

/-- Behind a run the store has taken up the revisions of the run, and the settings stay. -/
theorem becomes_afterAll (acts : List Act) (s : Session τ) :
    s.device.Becomes (Store.absorbAll (revisions acts s) s.device.store)
      (afterAll acts s).device := by
  induction acts generalizing s with
  | nil => exact Device.becomes_self _
  | cons act acts ih =>
    have hfirst := becomes_after act s
    have hrest := ih (after act s)
    have hstore : (after act s).device.store
        = Store.absorbAll (act.revision? s).toList s.device.store := by
      obtain ⟨n, pending, -, heq⟩ := hfirst
      rw [heq]
    rw [hstore, ← Store.absorbAll_append, ← revisions_cons] at hrest
    exact hfirst.trans hrest

theorem store_afterAll (acts : List Act) (s : Session τ) :
    (afterAll acts s).device.store = Store.absorbAll (revisions acts s) s.device.store := by
  obtain ⟨n, pending, -, heq⟩ := becomes_afterAll acts s
  rw [heq]

def opened (scheme : TopicScheme) (registry : ComponentRegistry)
    (topicCapacity payloadCapacity : Nat) (transport : τ) : Session τ :=
  ofDevice (Device.new scheme registry topicCapacity payloadCapacity) transport

end Session
end DeviceTwin
