import DeviceTwin.Proofs.Session.Regions
import DeviceTwin.Proofs.Session.Requests

/-!
# What stops a device

A message may be anything: its topic and its payload come from outside. Whatever it is, a device
that waits for it can only be stopped by its transport. To tell what was asked of the transport and
what it answered, any transport can be watched.

Results:
* `sends_handle`: a message makes the device publish once at most, and only this stops it.
* `poll_cases`: all that waiting for a message asks of the transport.
* `poll_stopped_by_transport`: a device that waits for a message fails exactly with its transport.
-/
namespace DeviceTwin

open Acknowledgement (Accepted)
open Attempt (final outcome)

/-! ## Watching a transport -/

inductive TransportCall where
  | subscribe (filter : String) (qos : QoS)
  | publish (topic : String) (payload : Bytes) (qos : QoS)
  | receive
  deriving DecidableEq, Repr

/-- A transport with all that was asked of it, and why it failed where it did. -/
structure Watched (τ : Type) where
  inner : τ
  calls : List (TransportCall × Option TransportError)

namespace Watched

variable {τ : Type}

def call {α : Type} (c : TransportCall) (x : EStateM TransportError τ α) :
    EStateM TransportError (Watched τ) α := fun w =>
  match x w.inner with
  | .ok a t => .ok a ⟨t, w.calls ++ [(c, none)]⟩
  | .error e t => .error e ⟨t, w.calls ++ [(c, some e)]⟩

instance [Transport τ] : Transport (Watched τ) where
  subscribe filter qos := call (.subscribe filter qos) (Transport.subscribe filter qos)
  publish topic payload qos :=
    call (.publish topic payload qos) (Transport.publish topic payload qos)
  receive := call .receive Transport.receive

theorem calls_call {α : Type} (c : TransportCall) (x : EStateM TransportError τ α) (w : Watched τ) :
    (final (call c x w)).calls = w.calls ++ [(c, Attempt.failure? (call c x w))] := by
  rw [call]
  cases x w.inner <;> rfl

def fresh (t : τ) : Watched τ := ⟨t, []⟩

end Watched

namespace Noted

open Attempt (failure?)

variable {τ : Type} [Transport τ] (n : Noted (Watched τ))

theorem calls_receive : (final (Transport.receive n)).inner.calls
    = n.inner.calls ++ [(.receive, failure? (Transport.receive n))] := by
  have h : (final (Transport.receive n.inner)).calls
      = n.inner.calls ++ [(.receive, failure? (Transport.receive n.inner))] :=
    Watched.calls_call .receive Transport.receive n.inner
  show (final (call Transport.receive n)).inner.calls
    = n.inner.calls ++ [(.receive, failure? (call Transport.receive n))]
  rw [call]
  cases hreceive : Transport.receive n.inner <;> rw [hreceive] at h <;> exact h

theorem calls_publish (topic : String) (payload : Bytes) (qos : QoS) :
    (final (Transport.publish topic payload qos n)).inner.calls = n.inner.calls
      ++ [(.publish topic payload qos, failure? (Transport.publish topic payload qos n))] := by
  have h : (final (Transport.publish topic payload qos n.inner)).calls = n.inner.calls
      ++ [(.publish topic payload qos, failure? (Transport.publish topic payload qos n.inner))] :=
    Watched.calls_call _ (Transport.publish topic payload qos) n.inner
  rw [publish_eq]
  cases hsend : Transport.publish topic payload qos n.inner <;> rw [hsend] at h <;> exact h

end Noted

namespace Session

variable {τ : Type} [Transport τ]

/-! ## What a message makes a device ask -/

/-- A computation publishes nothing and may fail for the sake of the message, or it publishes once
and fails as the transport does. -/
inductive Sends (t : τ) : EStateM.Result DeviceError (Session τ) Unit → Prop where
  | silent {s : Session τ} (h : s.transport = t) : Sends t (.ok () s)
  | refused {s : Session τ} (e : PropertyError) (h : s.transport = t) :
    Sends t (.error (.property e) s)
  | sent {s : Session τ} {topic : String} {payload : Bytes}
    (h : Transport.publish topic payload .atLeastOnce t = .ok () s.transport) : Sends t (.ok () s)
  | failed {s : Session τ} {topic : String} {payload : Bytes} {e : TransportError}
    (h : Transport.publish topic payload .atLeastOnce t = .error e s.transport) :
    Sends t (.error (.transport e) s)

theorem sends_publish (request : Request) (payload : Bytes) (s : Session τ) :
    Sends s.transport (publish request payload s) := by
  rw [publish_eq]
  split
  · cases h : Transport.publish (s.nextTopic request) payload .atLeastOnce s.transport with
    | ok _ t => exact .sent (s := s.awaiting request t) h
    | error e t => exact .failed (s := { s.counted with transport := t }) h
  · exact .refused _ rfl

theorem sends_acknowledge (version : Int) (accepted : List Accepted) (s : Session τ) :
    Sends s.transport (acknowledge version accepted s) := by
  rcases acknowledge_cases version accepted s with heq | ⟨required, available, heq⟩ | heq <;>
    rw [heq]
  · exact .silent rfl
  · exact .refused _ rfl
  · exact sends_publish _ _ s

/-- A message makes the device publish once at most, and only this stops it. -/
theorem sends_handle (m : Message) (s : Session τ) : Sends s.transport (handle m s) := by
  rcases handle_cases m s with ⟨-, pending, ⟨e, heq⟩ | ⟨warnings, heq⟩⟩ | ⟨r, pending, -, heq⟩ <;>
    rw [heq]
  · exact .refused e rfl
  · exact .silent rfl
  · exact sends_acknowledge r.version (s.device.fresh r)
      ((s.answered pending s.warnings).holding (s.device.store.absorb r))

/-- However a message is handled, the device fails only with its transport. -/
theorem handleOrWarn_cases (m : Message) (s : Session τ) :
    (∃ s', s'.transport = s.transport ∧ handleOrWarn m s = .ok () s') ∨
    ∃ s' topic payload,
      (Transport.publish topic payload .atLeastOnce s.transport = .ok () s'.transport ∧
        handleOrWarn m s = .ok () s') ∨
      ∃ e, Transport.publish topic payload .atLeastOnce s.transport = .error e s'.transport ∧
        handleOrWarn m s = .error (.transport e) s' := by
  have hsends := sends_handle m s
  rw [handleOrWarn]
  cases h : handle m s with
  | ok _ s' =>
    rw [h] at hsends
    cases hsends with
    | silent ht => exact .inl ⟨s', ht, rfl⟩
    | sent hsend => exact .inr ⟨s', _, _, .inl ⟨hsend, rfl⟩⟩
  | error e s' =>
    rw [h] at hsends
    cases hsends with
    | refused e ht =>
      exact .inl ⟨{ s' with warnings := s'.warnings ++ [.handlingFailed m.topic e] }, ht, rfl⟩
    | failed hsend => exact .inr ⟨s', _, _, .inr ⟨_, hsend, rfl⟩⟩

/-- All that waiting for a message asks of the transport. Where nothing fails, the device tells
whether a message came. -/
theorem poll_cases (s : Session τ) :
    (∃ e t, Transport.receive s.transport = .error e t ∧
      poll s = .error (.transport e) { s with transport := t }) ∨
    (∃ t, Transport.receive s.transport = .ok none t ∧
      poll s = .ok false { s with transport := t }) ∨
    ∃ m t s', Transport.receive s.transport = .ok (some m) t ∧
      ((s'.transport = t ∧ poll s = .ok true s') ∨
      ∃ topic payload,
        (Transport.publish topic payload .atLeastOnce t = .ok () s'.transport ∧
          poll s = .ok true s') ∨
        ∃ e, Transport.publish topic payload .atLeastOnce t = .error e s'.transport ∧
          poll s = .error (.transport e) s') := by
  unfold poll
  cases hreceive : Transport.receive s.transport with
  | error e t => exact .inl ⟨e, t, rfl, Attempt.bind_error (onTransport_error hreceive)⟩
  | ok received t =>
    rw [Attempt.bind_ok (onTransport_ok hreceive)]
    cases received with
    | none => exact .inr (.inl ⟨t, rfl, rfl⟩)
    | some m =>
      refine .inr (.inr ?_)
      rcases handleOrWarn_cases m { s with transport := t } with
        ⟨s', ht, heq⟩ | ⟨s', topic, payload, ⟨hsend, heq⟩ | ⟨e, hsend, heq⟩⟩
      · exact ⟨m, t, s', rfl, .inl ⟨ht, Attempt.bind_ok heq⟩⟩
      · exact ⟨m, t, s', rfl, .inr ⟨topic, payload, .inl ⟨hsend, Attempt.bind_ok heq⟩⟩⟩
      · exact ⟨m, t, s', rfl, .inr ⟨topic, payload, .inr ⟨e, hsend, Attempt.bind_error heq⟩⟩⟩

/-- What a device asks of its transport while it waits for a message, and what becomes of it: the
device fails where a call fails, with the error of this call, and otherwise tells whether a message
came. -/
theorem calls_of_poll (s : Session (Noted (Watched τ))) : ∃ calls,
    (final (poll s)).transport.inner.calls = s.transport.inner.calls ++ calls ∧
    (calls.map Prod.fst = [.receive] ∨
      ∃ topic payload, calls.map Prod.fst = [.receive, .publish topic payload .atLeastOnce]) ∧
    (∀ e, outcome (poll s) = .error e ↔
      ∃ c failure, (c, some failure) ∈ calls ∧ e = .transport failure) ∧
    ((∀ c ∈ calls, c.2 = none) → outcome (poll s) = .ok (Act.poll.message? s).isSome) := by
  have hreceived := Noted.calls_receive s.transport
  rw [Act.message?]
  rcases poll_cases s with ⟨e, t, hreceive, heq⟩ | ⟨t, hreceive, heq⟩ |
      ⟨m, t, s', hreceive, ⟨ht, heq⟩ | ⟨topic, payload, hsends⟩⟩
  · rw [hreceive] at hreceived ⊢
    rw [heq]
    refine ⟨[(.receive, some e)], hreceived, .inl rfl, fun e' => ?_, fun hnone => ?_⟩
    · simp [eq_comm]
    · exact absurd (hnone _ (List.mem_singleton.2 rfl)) (by simp)
  · rw [hreceive] at hreceived ⊢
    rw [heq]
    exact ⟨[(.receive, none)], hreceived, .inl rfl, by simp, fun _ => rfl⟩
  · rw [hreceive] at hreceived ⊢
    rw [heq]
    subst ht
    exact ⟨[(.receive, none)], hreceived, .inl rfl, by simp, fun _ => rfl⟩
  · rw [hreceive] at hreceived ⊢
    have hcame : t.inner.calls = s.transport.inner.calls ++ [(.receive, none)] := hreceived
    have hcalls := Noted.calls_publish t topic payload .atLeastOnce
    rw [hcame, List.append_assoc] at hcalls
    rcases hsends with ⟨hsend, heq⟩ | ⟨e, hsend, heq⟩ <;> rw [hsend] at hcalls <;> rw [heq]
    · exact ⟨_, hcalls, .inr ⟨topic, payload, rfl⟩, by simp, fun _ => rfl⟩
    · refine ⟨_, hcalls, .inr ⟨topic, payload, rfl⟩, fun e' => ?_, fun hnone => ?_⟩
      · simp [eq_comm]
      · exact absurd (hnone _ (List.mem_cons_of_mem _ (List.mem_singleton.2 rfl))) (by simp)

/-! ## Waiting for any message -/

theorem after_eq_final_poll (s : Session τ) : after .poll s = final (poll s) :=
  Attempt.final_bind_pure _ _ s

/-- Only its transport stops a device that waits for messages. Whatever the message and the
capacities are, the device asks its transport for a message, and to publish one at most. It fails
exactly where one of these calls does, with the error of this call, and otherwise tells whether a
message came. Where it takes what it publishes from its regions it does the same, so that it takes
neither more than a region has nor a topic that is no text, and the regions keep their sizes.

The device can go on in any case. The requests that wait are in their order, no more than may wait,
and each of them was published; the store has taken up the revision in the message, if there is one,
and nothing else, so that no version in it goes back. -/
theorem poll_stopped_by_transport {scheme : TopicScheme} {registry : ComponentRegistry}
    {topicCapacity payloadCapacity : Nat} {s : Session (Noted (Watched τ))}
    (hs : Reachable scheme registry topicCapacity payloadCapacity s) {b : Regions}
    (hb : b.Fit s.device) :
    let s' := final (poll s)
    (∃ calls, s'.transport.inner.calls = s.transport.inner.calls ++ calls ∧
      (calls.map Prod.fst = [.receive] ∨
        ∃ topic payload, calls.map Prod.fst = [.receive, .publish topic payload .atLeastOnce]) ∧
      (∀ e, outcome (poll s) = .error e ↔
        ∃ c failure, (c, some failure) ∈ calls ∧ e = .transport failure) ∧
      ((∀ c ∈ calls, c.2 = none) → outcome (poll s) = .ok (Act.poll.message? s).isSome)) ∧
    (∃ b', b'.Fit s'.device ∧ InRegions.poll (s, b) = InRegions.carried b' (poll s)) ∧
    Reachable scheme registry topicCapacity payloadCapacity s' ∧
    s'.device.Ordered ∧ (∃ sent, s'.device.Keeps s'.transport.published sent) ∧
    s'.device.store = Store.absorbAll (Act.poll.revision? s).toList s.device.store ∧
    ∀ p e, s.device.store.get? p = some e →
      ∃ e', s'.device.store.get? p = some e' ∧ e.version ≤ e'.version := by
  intro s'
  have hs' : Reachable scheme registry topicCapacity payloadCapacity s' := by
    have hafter := Reachable.after .poll hs
    rwa [after_eq_final_poll] at hafter
  have hstore : s'.device.store
      = Store.absorbAll (Act.poll.revision? s).toList s.device.store := by
    obtain ⟨n, pending, -, hdevice⟩ := becomes_after .poll s
    rw [after_eq_final_poll] at hdevice
    exact congrArg Device.store hdevice
  refine ⟨calls_of_poll s, InRegions.carries_poll s b hb, hs', ordered_of_reachable hs',
    kept_of_reachable hs', hstore, fun p e he => ?_⟩
  rw [hstore]
  exact Store.le_version_absorbAll _ he

/-- A device whose transport is watched, in front of a change of one property. -/
def watchedRun (payloadCapacity : Nat) (refusePublish : Bool) :
    Session (Noted (Watched Loopback)) :=
  opened ⟨TopicScheme.standardRoot⟩ .empty 64 payloadCapacity (Noted.fresh (Watched.fresh {
    Loopback.empty with
    inbound := [patchOf [("fan", .bool true), ("$version", .number (.integer 1))]]
    refusePublish := refusePublish }))

theorem reachable_watchedRun (payloadCapacity : Nat) (refusePublish : Bool) :
    Reachable ⟨TopicScheme.standardRoot⟩ .empty 64 payloadCapacity
      (watchedRun payloadCapacity refusePublish) :=
  Reachable.opened _

theorem poll_stopped_by_transport_sample :
    outcome (poll (watchedRun 256 true)) = .error (.transport ⟨"publish refused"⟩) ∧
    ∃ s b, InRegions.poll (watchedRun 0 false, .new 64 0) = .ok true (s, b) := by
  have hnew : ∀ payloadCapacity refusePublish,
      (watchedRun payloadCapacity refusePublish).transport.inner.calls = [] := fun _ _ => rfl
  constructor
  · obtain ⟨⟨calls, hcalls, -, herror, -⟩, -⟩ := poll_stopped_by_transport
      (reachable_watchedRun 256 true) (Regions.fit_new _)
    rw [hnew, List.nil_append] at hcalls
    refine (herror _).2 ⟨.publish "$iothub/twin/PATCH/properties/reported/?$rid=1"
      (ackPayload 1 [(⟨none, "fan"⟩, .bool true)]) .atLeastOnce, _, ?_, rfl⟩
    rw [← hcalls]
    decide +kernel
  · obtain ⟨⟨calls, hcalls, -, -, hok⟩, ⟨b, -, hregions⟩, -⟩ := poll_stopped_by_transport
      (reachable_watchedRun 0 false) (Regions.fit_new _)
    rw [hnew, List.nil_append] at hcalls
    have hnone : ∀ c ∈ calls, c.2 = none := by
      rw [← hcalls]
      decide +kernel
    have hcame : (Act.poll.message? (watchedRun 0 false)).isSome = true := by decide +kernel
    have houtcome := hok hnone
    rw [hcame] at houtcome
    cases h : poll (watchedRun 0 false) with
    | ok came s =>
      rw [h] at houtcome hregions
      cases houtcome
      exact ⟨s, b, hregions⟩
    | error e s => rw [h] at houtcome; cases houtcome

end Session
end DeviceTwin
