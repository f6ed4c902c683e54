import DeviceTwin.Proofs.Acknowledgement.Region
import DeviceTwin.Proofs.Session.Runs

/-!
# A device with its regions

A session hands a text and bytes to its transport. A device writes both into regions of fixed size
and hands over the front of each, as long as it was told on writing. Here a device is run with its
regions. Taking more of a region than it has, or a topic that is no text, is an error of its own, so
that neither happens is a theorem and no assumption.

Results:
* `Carries.bind`: computations with and without regions agree if their parts do.
* `takeTopic_cases`, `fill_cases`: what is written into a region is taken from it, whatever the
  region held before.
* `publish_carried`: what is published stood in the regions.
* `carries_poll`: with its regions a device does what a session does without them.
-/
namespace DeviceTwin

open Acknowledgement (Accepted)
open Attempt (final)
open Session (Action ofExcept onDevice onStore onTransport takeNumber warn)

/-- The regions that a device writes what it sends into. -/
structure Regions where
  topic : Bytes
  payload : Bytes

def Regions.new (topicCapacity payloadCapacity : Nat) : Regions :=
  ⟨List.replicate topicCapacity 0, List.replicate payloadCapacity 0⟩

/-- The regions have the sizes that the device was given. -/
structure Regions.Fit (b : Regions) (d : Device) : Prop where
  topic : b.topic.length = d.topicCapacity
  payload : b.payload.length = d.payloadCapacity

theorem Regions.fit_new (d : Device) : (new d.topicCapacity d.payloadCapacity).Fit d :=
  ⟨List.length_replicate, List.length_replicate⟩

inductive Halt where
  | failed (error : DeviceError)
  /-- More was taken of a region than it has. -/
  | overrun
  /-- What was taken for a topic is no text. -/
  | garbled
  deriving DecidableEq, Repr

/-- A computation in a session, with regions. -/
abbrev InRegions (τ : Type) := EStateM Halt (Session τ × Regions)

namespace InRegions

variable {τ α β : Type}

/-- The result of a computation in the session, with the regions behind it. -/
def carried (b : Regions) : EStateM.Result DeviceError (Session τ) α →
    EStateM.Result Halt (Session τ × Regions) α
  | .ok a s => .ok a (s, b)
  | .error e s => .error (.failed e) (s, b)

/-- What does not touch the regions. -/
def lift (x : Action τ α) : InRegions τ α := fun (s, b) => carried b (x s)

def device : InRegions τ Device := do return (← get).1.device

def front (region : Bytes) (length : Nat) : InRegions τ Bytes :=
  if length ≤ region.length then return region.take length else throw .overrun

/-- Writes a topic into its region and takes it from there. -/
def takeTopic (request : Request) (number : Nat) : InRegions τ String := do
  let (s, b) ← get
  let (written, topic) := s.device.scheme.writeTopic request (Integer.ofNat number) b.topic
  set (s, { b with topic := topic })
  let bytes ← front topic (← lift (ofExcept written))
  match Utf8.toText? bytes with
  | some text => return text
  | none => throw .garbled

/-- Writes a payload into its region and tells its length. -/
def fill (write : Attempt Acknowledgement Unit) : InRegions τ Nat := do
  let (s, b) ← get
  let (written, payload) := Acknowledgement.writeIn b.payload write
  set (s, { b with payload := payload })
  lift (ofExcept written)

/-- Notes that a request waits for its answer. -/
def await (request : Request) (number : Nat) : Action τ Unit := do
  let pending := (← get).device.pending ++ [(number, request)]
  onDevice fun d => { d with pending := pending.trim }
  warn (pending.surplus.map fun (n, r) => .requestDropped n r)

section Calls

variable [Transport τ]

/-- Publishes a request under a new number, with the first bytes of the payload region. -/
def publish (request : Request) (length : Nat) : InRegions τ Unit := do
  let number ← lift takeNumber
  let topic ← takeTopic request number
  let payload ← front (← get).2.payload length
  lift (onTransport (Transport.publish topic payload .atLeastOnce))
  lift (await request number)

/-- Acknowledges accepted properties, if there are any, from the payload region. -/
def acknowledge (version : Int) (accepted : List Accepted) : InRegions τ Unit := do
  if accepted.isEmpty then return ()
  publish .reportedPatch (← fill (Acknowledgement.writePayload version accepted))

def takeDocument (kind : ResponseKind) (payload : Bytes) : InRegions τ Unit := do
  let version ← lift (ofExcept (Document.payloadVersion kind payload))
  let cursor ← lift (ofExcept
    (Document.payloadCursor kind .writeableOnly (← device).registry payload))
  let accepted ← lift (onStore (Device.acceptAll version (cursor.stream.ahead.length + 1) cursor))
  acknowledge version accepted

def takeResponse (response : Response) (payload : Bytes) : InRegions τ Unit := do
  let number := response.correlationId.bind Device.number?
  let pending := (← device).pending
  let request := number.bind pending.get?
  lift (onDevice fun d => { d with pending := (number.map pending.erase).getD pending })
  let kind := Device.effectiveKind response.kind request
  if kind.hasDocument then takeDocument kind payload
  else lift (Session.takeAnswer response number request)

def handle (m : Message) : InRegions τ Unit := do
  match ← lift (ofExcept ((← device).scheme.classify m.topic)) with
  | none => return ()
  | some response => takeResponse response m.payload

/-- Handles a message; where that fails for the sake of the message, this is only noted. -/
def handleOrWarn (m : Message) : InRegions τ Unit := fun s =>
  match handle m s with
  | .error (.failed (.property e)) s => lift (warn [.handlingFailed m.topic e]) s
  | outcome => outcome

def poll : InRegions τ Bool := do
  match ← lift (onTransport Transport.receive) with
  | none => return false
  | some m =>
    handleOrWarn m
    return true

end Calls

/-! ## Computations with and without regions -/

/-- With regions that fit, `y` does what `x` does without them, and the regions still fit. -/
def Carries (y : InRegions τ α) (x : Action τ α) : Prop :=
  ∀ (s : Session τ) (b : Regions), b.Fit s.device →
    ∃ b', b'.Fit (final (x s)).device ∧ y (s, b) = carried b' (x s)

theorem Carries.bind {y : InRegions τ α} {x : Action τ α} {g : α → InRegions τ β}
    {f : α → Action τ β} (hx : Carries y x) (hf : ∀ a, Carries (g a) (f a)) :
    Carries (y >>= g) (x >>= f) := by
  intro s b hb
  obtain ⟨b', hb', heq⟩ := hx s b hb
  cases h : x s with
  | ok a t =>
    rw [h] at hb' heq
    rw [Attempt.bind_ok h, Attempt.bind_ok heq]
    exact hf a t b' hb'
  | error e t =>
    rw [h] at hb' heq
    rw [Attempt.bind_error h, Attempt.bind_error heq]
    exact ⟨b', hb', rfl⟩

theorem carries_pure (a : α) : Carries (pure a) (pure a : Action τ α) :=
  fun _ b hb => ⟨b, hb, rfl⟩

theorem lift_ok {x : Action τ α} {s s' : Session τ} {a : α} (b : Regions) (h : x s = .ok a s') :
    lift x (s, b) = .ok a (s', b) := congrArg (carried b) h

theorem lift_error {x : Action τ α} {s s' : Session τ} {e : DeviceError} (b : Regions)
    (h : x s = .error e s') : lift x (s, b) = .error (.failed e) (s', b) := congrArg (carried b) h

theorem carries_lift {x : Action τ α}
    (h : ∀ s, (final (x s)).device.topicCapacity = s.device.topicCapacity ∧
      (final (x s)).device.payloadCapacity = s.device.payloadCapacity) : Carries (lift x) x :=
  fun s b hb => ⟨b, ⟨hb.topic.trans (h s).1.symm, hb.payload.trans (h s).2.symm⟩, rfl⟩

theorem carries_ofExcept (r : Except PropertyError α) :
    Carries (lift (ofExcept r)) (ofExcept r : Action τ α) := by
  refine carries_lift fun s => ?_
  cases r <;> exact ⟨rfl, rfl⟩

theorem carries_onTransport (x : EStateM TransportError τ α) :
    Carries (lift (onTransport x)) (onTransport x) := by
  refine carries_lift fun s => ?_
  rw [onTransport]
  cases x s.transport <;> exact ⟨rfl, rfl⟩

theorem carries_onStore (x : Attempt Store α) :
    Carries (lift (onStore x)) (onStore x : Action τ α) := by
  refine carries_lift fun s => ?_
  rw [onStore]
  cases x s.device.store <;> exact ⟨rfl, rfl⟩

theorem carries_takeAnswer (response : Response) (number : Option Nat) (request : Option Request) :
    Carries (lift (Session.takeAnswer response number request))
      (Session.takeAnswer response number request : Action τ Unit) := by
  refine carries_lift fun s => ?_
  obtain ⟨warnings, heq⟩ := Session.takeAnswer_ok response number request s
  rw [heq]
  exact ⟨rfl, rfl⟩

theorem carries_device {g : Device → InRegions τ α} {f : Device → Action τ α}
    (h : ∀ d, Carries (g d) (f d)) : Carries (device >>= g) (get >>= fun s => f s.device) :=
  fun s b hb => h s.device s b hb

/-! ## Publishing -/

section Publish

variable {request : Request} {s : Session τ} {b : Regions}

theorem front_append (bytes rest : Bytes) (s : Session τ × Regions) :
    front (bytes ++ rest) bytes.length s = .ok bytes s := by
  have hlength : bytes.length ≤ (bytes ++ rest).length := by simp
  rw [front, if_pos hlength, List.take_left]
  rfl

/-- A topic that fits is taken from its region as it was written there, and one that does not is
not taken. -/
theorem takeTopic_cases (request : Request) (n : Nat) (hb : b.Fit s.device) :
    let text := s.device.scheme.numbered request n
    let length := (Utf8.ofText text).length
    (length ≤ s.device.topicCapacity ∧ ∃ topic, topic.length = b.topic.length ∧
      takeTopic request n (s, b) = .ok text (s, { b with topic := topic })) ∨
    (¬ length ≤ s.device.topicCapacity ∧ takeTopic request n (s, b) = .error
      (.failed (.property (.insufficientBuffer length s.device.topicCapacity))) (s, b)) := by
  intro text length
  have hwrite := s.device.scheme.writeTopic_ofNat request n b.topic
  rw [hb.topic] at hwrite
  by_cases hfits : length ≤ s.device.topicCapacity
  · let topic := Utf8.ofText text ++ b.topic.drop length
    refine .inl ⟨hfits, topic, ?_, ?_⟩
    · rw [← hb.topic] at hfits
      rw [List.length_append, List.length_drop, Nat.add_sub_cancel' hfits]
    · rw [takeTopic, Attempt.get_bind]
      dsimp only
      rw [hwrite.trans (if_pos hfits), Attempt.set_bind]
      show (front topic length >>= fun bytes => _) _ = _
      rw [Attempt.bind_ok (front_append (Utf8.ofText text) _ _), Utf8.toText?_ofText]
      rfl
  · refine .inr ⟨hfits, ?_⟩
    rw [takeTopic, Attempt.get_bind]
    dsimp only
    rw [hwrite.trans (if_neg hfits)]
    rfl

theorem fill_cases {write : Attempt Acknowledgement Unit}
    (hwrite : Attempt.Respects (Acknowledgement.Alike s.device.payloadCapacity) write)
    (hb : b.Fit s.device) :
    (∃ bytes rest, Acknowledgement.within s.device.payloadCapacity write = .ok bytes ∧
      (bytes ++ rest).length = s.device.payloadCapacity ∧
      fill write (s, b) = .ok bytes.length (s, { b with payload := bytes ++ rest })) ∨
    ∃ e region, Acknowledgement.within s.device.payloadCapacity write = .error e ∧
      region.length = s.device.payloadCapacity ∧
      fill write (s, b) = .error (.failed (.property e)) (s, { b with payload := region }) := by
  have hfill : fill write (s, b) = lift (ofExcept (Acknowledgement.writeIn b.payload write).1)
      (s, { b with payload := (Acknowledgement.writeIn b.payload write).2 }) := rfl
  rw [hfill]
  rw [← hb.payload] at hwrite ⊢
  rcases Acknowledgement.writeIn_cases b.payload hwrite with
    ⟨bytes, rest, hwithin, hregion, hlength⟩ | ⟨e, region, hwithin, hregion, hlength⟩ <;>
    rw [hregion]
  · exact .inl ⟨bytes, rest, hwithin, hlength, rfl⟩
  · exact .inr ⟨e, region, hwithin, hlength, rfl⟩

variable [Transport τ]

theorem publish_carried (request : Request) {payload rest : Bytes} (hb : b.Fit s.device)
    (hpayload : b.payload = payload ++ rest) :
    ∃ b', b'.Fit (final (Session.publish request payload s)).device ∧
      publish request payload.length (s, b) = carried b' (Session.publish request payload s) := by
  have hcounted : b.Fit s.counted.device := ⟨hb.topic, hb.payload⟩
  have hnumber : lift takeNumber (s, b) = .ok s.device.nextRequest (s.counted, b) := rfl
  rw [publish, Attempt.bind_ok hnumber]
  rcases takeTopic_cases request s.device.nextRequest hcounted with
    ⟨hfits, topic, htopic, htake⟩ | ⟨hfull, htake⟩
  · have htopicFits : s.TopicFits request := hfits
    let b' : Regions := { b with topic := topic }
    have hfront : front b'.payload payload.length (s.counted, b') = .ok payload (s.counted, b') :=
      hpayload ▸ front_append payload rest (s.counted, b')
    rw [Attempt.bind_ok htake, Attempt.get_bind, Attempt.bind_ok hfront, Session.publish_eq,
      if_pos htopicFits]
    refine ⟨b', ?_⟩
    cases hsend : Transport.publish (s.nextTopic request) payload .atLeastOnce s.transport with
    | ok _ t =>
      have hsent := lift_ok b' (Session.onTransport_ok (s := s.counted) hsend)
      exact ⟨⟨htopic.trans hb.topic, hb.payload⟩, Attempt.bind_ok hsent⟩
    | error e t =>
      have hfailed := lift_error b' (Session.onTransport_error (s := s.counted) hsend)
      exact ⟨⟨htopic.trans hb.topic, hb.payload⟩, Attempt.bind_error hfailed⟩
  · have htopicFull : ¬ s.TopicFits request := hfull
    rw [Attempt.bind_error htake, Session.publish_eq, if_neg htopicFull]
    exact ⟨b, hcounted, rfl⟩

/-- The payload region is written over and its front published, as long as the payload is. -/
theorem carries_acknowledge (version : Int) (accepted : List Accepted) :
    Carries (acknowledge version accepted)
      (Session.acknowledge version accepted : Action τ Unit) := by
  intro s b hb
  cases accepted with
  | nil => exact ⟨b, hb, rfl⟩
  | cons q rest =>
    have hsession : Session.acknowledge version (q :: rest) s
        = (ofExcept (Acknowledgement.within s.device.payloadCapacity
          (Acknowledgement.writePayload version (q :: rest)))
            >>= Session.publish .reportedPatch) s := rfl
    have hregions : acknowledge version (q :: rest) (s, b)
        = (fill (Acknowledgement.writePayload version (q :: rest)) >>= publish .reportedPatch)
            (s, b) := rfl
    rw [hsession, hregions]
    rcases fill_cases (Acknowledgement.respects_writePayload version (q :: rest)) hb with
      ⟨bytes, spare, hwithin, hlength, hfill⟩ | ⟨e, region, hwithin, hlength, hfill⟩ <;>
      rw [hwithin]
    · rw [Attempt.bind_ok hfill]
      exact publish_carried .reportedPatch ⟨hb.topic, hlength⟩ rfl
    · rw [Attempt.bind_error hfill]
      exact ⟨{ b with payload := region }, ⟨hb.topic, hlength⟩, rfl⟩

end Publish

/-! ## Messages -/

section Messages

variable [Transport τ]

theorem carries_takeDocument (kind : ResponseKind) (payload : Bytes) :
    Carries (takeDocument kind payload) (Session.takeDocument kind payload : Action τ Unit) := by
  refine (carries_ofExcept _).bind fun version => ?_
  refine carries_device fun d => (carries_ofExcept _).bind fun cursor => ?_
  exact (carries_onStore _).bind fun accepted => carries_acknowledge version accepted

theorem carries_takeResponse (response : Response) (payload : Bytes) :
    Carries (takeResponse response payload)
      (Session.takeResponse response payload : Action τ Unit) := by
  intro s b hb
  let number := response.correlationId.bind Device.number?
  let request := number.bind s.device.pending.get?
  let pending := (number.map s.device.pending.erase).getD s.device.pending
  let kind := Device.effectiveKind response.kind request
  have htaken : Carries (lift (onDevice fun d => { d with pending := pending }))
      (onDevice fun d => { d with pending := pending } : Action τ Unit) :=
    carries_lift fun _ => ⟨rfl, rfl⟩
  have hrest : Carries
      (if kind.hasDocument then takeDocument kind payload
        else lift (Session.takeAnswer response number request))
      (if kind.hasDocument then Session.takeDocument kind payload
        else Session.takeAnswer response number request : Action τ Unit) := by
    split
    · exact carries_takeDocument kind payload
    · exact carries_takeAnswer response number request
  exact (htaken.bind fun _ => hrest) s b hb

theorem carries_handle (m : Message) :
    Carries (handle m) (Session.handle m : Action τ Unit) := by
  refine carries_device fun d => (carries_ofExcept _).bind fun response => ?_
  cases response with
  | none => exact carries_pure ()
  | some response => exact carries_takeResponse response m.payload

theorem carries_handleOrWarn (m : Message) :
    Carries (handleOrWarn m) (Session.handleOrWarn m : Action τ Unit) := by
  intro s b hb
  obtain ⟨b', hb', heq⟩ := carries_handle m s b hb
  refine ⟨b', ?_⟩
  rw [handleOrWarn, Session.handleOrWarn, heq]
  cases h : Session.handle m s with
  | ok _ s' => rw [h] at hb'; exact ⟨hb', rfl⟩
  | error e s' =>
    rw [h] at hb'
    cases e with
    | transport e => exact ⟨hb', rfl⟩
    | property e => exact ⟨⟨hb'.topic, hb'.payload⟩, rfl⟩

/-- With its regions a device does what a session does without them. -/
theorem carries_poll : Carries poll (Session.poll : Action τ Bool) := by
  refine (carries_onTransport Transport.receive).bind fun m => ?_
  cases m with
  | none => exact carries_pure false
  | some m => exact (carries_handleOrWarn m).bind fun _ => carries_pure true

end Messages

end InRegions
end DeviceTwin
