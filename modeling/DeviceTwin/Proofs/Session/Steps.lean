import DeviceTwin.Proofs.Acknowledgement.Text
import DeviceTwin.Proofs.Store.History
import DeviceTwin.Proofs.Topic.Numbered
import DeviceTwin.Session

/-!
# What a session does with one message

A message is a document, an answer, or nothing to the device. What a document brings is known from
its bytes, so the whole step can be said at once: the store takes up the revision, and what was
accepted of it is acknowledged.

Results:
* `publish_eq`: a request is sent under the next number, if its topic fits.
* `acknowledge_cases`: what is accepted is published, unless there is nothing or too little room.
* `handle_answer`: an answer changes the pending requests and the warnings, and nothing else.
* `handle_cases`: all that handling a message can do.
-/
namespace DeviceTwin

open Acknowledgement (Accepted acceptedValue)
open Json (Value)

namespace Device

/-- The kind under which a message is handled, if its topic is one of properties. -/
def route? (d : Device) (m : Message) : Option ResponseKind :=
  match d.scheme.classify m.topic with
  | .ok (some response) => some (effectiveKind response.kind
      ((response.correlationId.bind number?).bind d.pending.get?))
  | _ => none

/-- The number of the request that a message answers. -/
def answered? (d : Device) (m : Message) : Option Nat :=
  match d.scheme.classify m.topic with
  | .ok (some response) => response.correlationId.bind number?
  | _ => none

/-- The revision that a message brings, if it is handled as a document with a version. -/
def revision? (d : Device) (m : Message) : Option Revision :=
  match d.route? m with
  | some kind => if kind.hasDocument then Document.revision? d.registry kind m.payload else none
  | none => none

/-- The properties that the device does not hold in a newer version. -/
def fresh (d : Device) (r : Revision) : List Accepted :=
  r.properties.filter fun q => !d.store.isStale q.1 r.version

end Device

namespace Session

variable {τ : Type}

/-! ## Parts of a session -/

/-- The session with another store. -/
def holding (s : Session τ) (store : Store) : Session τ :=
  { s with device := { s.device with store := store } }

def answered (s : Session τ) (pending : Pending) (warnings : List Warning) : Session τ :=
  { s with
    device := { s.device with pending := pending }
    warnings := warnings }

theorem takeAnswer_ok (response : Response) (number : Option Nat) (request : Option Request)
    (s : Session τ) :
    ∃ warnings, takeAnswer response number request s = .ok () (s.answered
      ((if request = some .reportedPatch then number else none).elim s.device.pending
        s.device.pending.forgetPatches) warnings) := by
  have hnote : ∃ warnings, noteAnswer response request s
      = .ok () (s.answered s.device.pending warnings) := by
    unfold noteAnswer
    split
    · exact ⟨_, rfl⟩
    split
    · exact ⟨s.warnings, rfl⟩
    · exact ⟨_, rfl⟩
  obtain ⟨warnings, hnote⟩ := hnote
  refine ⟨warnings, ?_⟩
  unfold takeAnswer
  rw [Attempt.bind_ok hnote]
  split
  · rfl
  · next hnot =>
    cases number with
    | none => simp [answered]
    | some k =>
      have hother : request ≠ some .reportedPatch := fun he => hnot k rfl he
      simp [answered, hother]

/-! ## Publishing -/

def counted (s : Session τ) : Session τ :=
  { s with device := { s.device with nextRequest := s.device.nextRequest + 1 } }

/-- The session with a request on its way, and the transport behind it. -/
def awaiting (s : Session τ) (request : Request) (t : τ) : Session τ :=
  let pending := s.device.pending ++ [(s.device.nextRequest, request)]
  { device := { s.device with nextRequest := s.device.nextRequest + 1, pending := pending.trim }
    transport := t
    warnings := s.warnings ++ pending.surplus.map fun (n, r) => .requestDropped n r }

def nextTopic (s : Session τ) (request : Request) : String :=
  s.device.scheme.numbered request s.device.nextRequest

def TopicFits (s : Session τ) (request : Request) : Prop :=
  (Utf8.ofText (s.nextTopic request)).length ≤ s.device.topicCapacity

instance (s : Session τ) (request : Request) : Decidable (s.TopicFits request) :=
  inferInstanceAs (Decidable (_ ≤ _))

theorem onTransport_ok {α : Type} {x : EStateM TransportError τ α} {s : Session τ} {a : α} {t : τ}
    (h : x s.transport = .ok a t) : onTransport x s = .ok a { s with transport := t } := by
  rw [onTransport, h]

theorem onTransport_error {α : Type} {x : EStateM TransportError τ α} {s : Session τ}
    {e : TransportError} {t : τ} (h : x s.transport = .error e t) :
    onTransport x s = .error (.transport e) { s with transport := t } := by
  rw [onTransport, h]

variable [Transport τ]

theorem publish_eq (request : Request) (payload : Bytes) (s : Session τ) :
    publish request payload s =
      if s.TopicFits request then
        match Transport.publish (s.nextTopic request) payload .atLeastOnce s.transport with
        | .ok () t => .ok () (s.awaiting request t)
        | .error e t => .error (.transport e) { s.counted with transport := t }
      else .error (.property (.insufficientBuffer (Utf8.ofText (s.nextTopic request)).length
        s.device.topicCapacity)) s.counted := by
  show (ofExcept (s.device.scheme.topicWithin s.device.topicCapacity request
    (Integer.ofNat s.device.nextRequest)) >>= fun topic => _) s.counted = _
  rw [TopicScheme.topicWithin_ofNat]
  by_cases hfits : s.TopicFits request
  · have hlength : (Utf8.ofText (s.device.scheme.numbered request s.device.nextRequest)).length
        ≤ s.device.topicCapacity := hfits
    rw [if_pos hfits, if_pos hlength]
    show (onTransport (Transport.publish (s.nextTopic request) payload .atLeastOnce) >>= fun _ => _)
      s.counted = _
    cases hsend : Transport.publish (s.nextTopic request) payload .atLeastOnce s.transport with
    | ok _ t =>
      exact Attempt.bind_ok (onTransport_ok (s := s.counted) hsend)
    | error e t =>
      exact Attempt.bind_error (onTransport_error (s := s.counted) hsend)
  · have hlength : ¬ (Utf8.ofText (s.device.scheme.numbered request s.device.nextRequest)).length
        ≤ s.device.topicCapacity := hfits
    rw [if_neg hfits, if_neg hlength]
    rfl

/-! ## Acknowledging -/

def ackPayload (version : Int) (accepted : List Accepted) : Bytes :=
  (acceptedValue version accepted).bytes

section Acknowledge

variable {version : Int} {accepted : List Accepted} (s : Session τ)

theorem acknowledge_nil : acknowledge version [] s = .ok () s := rfl

theorem acknowledge_of_le (hne : accepted ≠ [])
    (h : (ackPayload version accepted).length ≤ s.device.payloadCapacity) :
    acknowledge version accepted s
      = publish .reportedPatch (ackPayload version accepted) s := by
  have hp := Acknowledgement.payload_ok s.device.payloadCapacity version accepted h
  obtain ⟨q, rest, rfl⟩ := List.exists_cons_of_ne_nil hne
  show (ofExcept (Acknowledgement.payload s.device.payloadCapacity version (q :: rest))
    >>= publish .reportedPatch) s = _
  rw [hp]
  rfl

theorem acknowledge_of_lt (hne : accepted ≠ [])
    (h : s.device.payloadCapacity < (ackPayload version accepted).length) :
    ∃ required available, acknowledge version accepted s
      = .error (.property (.insufficientBuffer required available)) s := by
  obtain ⟨required, available, hp⟩ :=
    Acknowledgement.payload_full s.device.payloadCapacity version accepted h
  obtain ⟨q, rest, rfl⟩ := List.exists_cons_of_ne_nil hne
  refine ⟨required, available, ?_⟩
  show (ofExcept (Acknowledgement.payload s.device.payloadCapacity version (q :: rest))
    >>= publish .reportedPatch) s = _
  rw [hp]
  rfl

/-- All that acknowledging can do. -/
theorem acknowledge_cases (version : Int) (accepted : List Accepted) (s : Session τ) :
    acknowledge version accepted s = .ok () s ∨
    (∃ required available, acknowledge version accepted s
      = .error (.property (.insufficientBuffer required available)) s) ∨
    acknowledge version accepted s
      = publish .reportedPatch (ackPayload version accepted) s := by
  by_cases hne : accepted = []
  · subst hne
    exact .inl rfl
  by_cases hfits : (ackPayload version accepted).length ≤ s.device.payloadCapacity
  · exact .inr (.inr (acknowledge_of_le s hne hfits))
  · exact .inr (.inl (acknowledge_of_lt s hne (Nat.lt_of_not_le hfits)))

end Acknowledge

/-! ## Documents -/

section Documents

variable {kind : ResponseKind} {payload : Bytes} (s : Session τ)

theorem takeDocument_error {e : PropertyError}
    (h : Document.payloadVersion kind payload = .error e) :
    takeDocument kind payload s = .error (.property e) s := by
  rw [takeDocument, h]
  rfl

/-- The store takes up the revision, and what is accepted of it is acknowledged. -/
theorem takeDocument_ok {r : Revision} (hk : kind.hasDocument = true)
    (h : Document.revision? s.device.registry kind payload = some r) :
    takeDocument kind payload s
      = acknowledge r.version (s.device.fresh r) (s.holding (s.device.store.absorb r)) := by
  obtain ⟨hversion, c, stop, hcursor, hyields, hlength⟩ := Document.yields_of_revision? hk h
  have haccept := Device.acceptAll_ok r.version hyields (Nat.lt_succ_of_le hlength) s.device.store
  rw [Store.accept_fst r.nodup] at haccept
  have hstore : onStore (Device.acceptAll r.version (c.stream.ahead.length + 1) c) s
      = .ok (s.device.fresh r) (s.holding (s.device.store.absorb r)) := by
    rw [onStore, haccept]
    rfl
  rw [takeDocument, hversion]
  show (ofExcept (Document.payloadCursor kind .writeableOnly s.device.registry payload)
    >>= fun c => _) s = _
  rw [hcursor]
  exact Attempt.bind_ok hstore

end Documents

/-! ## Messages -/

section Messages

variable (m : Message) (s : Session τ)

theorem handle_none (h : s.device.scheme.classify m.topic = .ok none) :
    handle m s = .ok () s := by
  show (ofExcept (s.device.scheme.classify m.topic) >>= fun response => _) s = _
  rw [h]
  rfl

theorem handle_error {e : PropertyError} (h : s.device.scheme.classify m.topic = .error e) :
    handle m s = .error (.property e) s := by
  show (ofExcept (s.device.scheme.classify m.topic) >>= fun response => _) s = _
  rw [h]
  rfl

/-- A message on a property topic is a document or an answer. The request that it answers no longer
waits. -/
theorem handle_route {kind : ResponseKind} (h : s.device.route? m = some kind) :
    ∃ response, handle m s = (if kind.hasDocument then takeDocument kind m.payload
      else takeAnswer response (s.device.answered? m)
        ((s.device.answered? m).bind s.device.pending.get?))
      (s.answered ((s.device.answered? m).elim s.device.pending s.device.pending.erase)
        s.warnings) := by
  unfold Device.route? at h
  unfold Device.answered?
  split at h
  · next response hclassify =>
    cases h
    refine ⟨response, ?_⟩
    have helim : ∀ number : Option Nat, number.elim s.device.pending s.device.pending.erase
        = (number.map s.device.pending.erase).getD s.device.pending := by
      intro number
      cases number <;> rfl
    rw [helim]
    show (ofExcept (s.device.scheme.classify m.topic) >>= fun response => _) s = _
    rw [hclassify]
    rfl
  · cases h

theorem handle_answer (h : s.device.route? m = some .reportedAck) :
    ∃ pending warnings, handle m s = .ok () (s.answered pending warnings) := by
  obtain ⟨response, heq⟩ := handle_route m s h
  obtain ⟨warnings, hanswer⟩ := takeAnswer_ok response (s.device.answered? m)
    ((s.device.answered? m).bind s.device.pending.get?)
    (s.answered ((s.device.answered? m).elim s.device.pending s.device.pending.erase) s.warnings)
  exact ⟨_, warnings, heq.trans hanswer⟩

/-- All that handling a message can do. Without a revision, the pending requests and the warnings
may change, and in a failure only the former. A revision is taken up and acknowledged. -/
theorem handle_cases :
    (s.device.revision? m = none ∧ ∃ pending,
      (∃ e, handle m s = .error (.property e) (s.answered pending s.warnings)) ∨
      ∃ warnings, handle m s = .ok () (s.answered pending warnings)) ∨
    ∃ r pending, s.device.revision? m = some r ∧ handle m s
      = acknowledge r.version (s.device.fresh r)
          ((s.answered pending s.warnings).holding (s.device.store.absorb r)) := by
  cases hroute : s.device.route? m with
  | none =>
    refine .inl ⟨by rw [Device.revision?, hroute], s.device.pending, ?_⟩
    unfold Device.route? at hroute
    cases hclassify : s.device.scheme.classify m.topic with
    | error e => exact .inl ⟨e, handle_error m s hclassify⟩
    | ok response =>
      cases response with
      | none => exact .inr ⟨s.warnings, handle_none m s hclassify⟩
      | some response => rw [hclassify] at hroute; cases hroute
  | some kind =>
    cases hk : kind.hasDocument with
    | false =>
      have hack : kind = .reportedAck := by
        cases kind with
        | reportedAck => rfl
        | documentGet | desiredPatch => cases hk
      obtain ⟨pending, warnings, heq⟩ := handle_answer m s (hack ▸ hroute)
      exact .inl ⟨by rw [Device.revision?, hroute]; simp [hk], pending, .inr ⟨warnings, heq⟩⟩
    | true =>
      obtain ⟨response, heq⟩ := handle_route m s hroute
      rw [if_pos hk] at heq
      have hrevision : s.device.revision? m
          = Document.revision? s.device.registry kind m.payload := by
        rw [Device.revision?, hroute]
        exact if_pos hk
      cases hversion : Document.payloadVersion kind m.payload with
      | error e =>
        refine .inl ⟨hrevision.trans (Document.revision?_of_error hversion),
          (s.device.answered? m).elim s.device.pending s.device.pending.erase, .inl ⟨e, ?_⟩⟩
        exact heq.trans (takeDocument_error _ hversion)
      | ok version =>
        obtain ⟨r, hr, -⟩ := Document.revision?_of_payloadVersion s.device.registry hversion
        exact .inr ⟨r, _, hrevision.trans hr, heq.trans (takeDocument_ok _ hk hr)⟩

end Messages

end Session
end DeviceTwin
