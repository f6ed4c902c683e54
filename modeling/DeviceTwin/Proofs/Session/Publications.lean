import DeviceTwin.Proofs.Session.Runs
import DeviceTwin.Transport.Loopback

/-!
# What a session publishes

To tell what was published, any transport can be given a note of it. Requests take their numbers
from a counter that never goes back, so each topic that is noted has a number of its own. A document
is acknowledged by one message at most, and what the device held before determines it.

Results:
* `numbered_of_reachable`: all that was published has a number that was counted already.
* `published_acknowledge`: one message is published if something was accepted and it fits.
* `published_handle`: what is published for a document, and under which topic.
-/
namespace DeviceTwin

open Acknowledgement (Accepted Acknowledges acceptedMembers)
open Attempt (final)
open Json (Value)

/-! ## Noting what is published -/

/-- A transport with a note of all that was published. -/
structure Noted (τ : Type) where
  inner : τ
  published : List (String × Bytes × QoS)

namespace Noted

variable {τ : Type}

/-- A call that publishes nothing. -/
def call {α : Type} (x : EStateM TransportError τ α) : EStateM TransportError (Noted τ) α :=
  fun n =>
    match x n.inner with
    | .ok a t => .ok a { n with inner := t }
    | .error e t => .error e { n with inner := t }

instance [Transport τ] : Transport (Noted τ) where
  subscribe filter qos := call (Transport.subscribe filter qos)
  publish topic payload qos := fun n =>
    match Transport.publish topic payload qos n.inner with
    | .ok () t => .ok () ⟨t, n.published ++ [(topic, payload, qos)]⟩
    | .error e t => .error e { n with inner := t }
  receive := call Transport.receive

def fresh (t : τ) : Noted τ := ⟨t, []⟩

theorem published_call {α : Type} (x : EStateM TransportError τ α) (n : Noted τ) :
    (final (call x n)).published = n.published := by
  rw [call]
  cases x n.inner <;> rfl

variable [Transport τ]

theorem published_subscribe (filter : String) (qos : QoS) (n : Noted τ) :
    (final (Transport.subscribe filter qos n)).published = n.published :=
  published_call _ n

theorem published_receive (n : Noted τ) :
    (final (Transport.receive n)).published = n.published :=
  published_call _ n

section Publish

variable {topic : String} {payload : Bytes} {qos : QoS} {n : Noted τ}

theorem publish_eq : Transport.publish topic payload qos n =
    match Transport.publish topic payload qos n.inner with
    | .ok () t => .ok () ⟨t, n.published ++ [(topic, payload, qos)]⟩
    | .error e t => .error e { n with inner := t } := rfl

theorem publish_ok {t : τ} (h : Transport.publish topic payload qos n.inner = .ok () t) :
    Transport.publish topic payload qos n
      = .ok () (⟨t, n.published ++ [(topic, payload, qos)]⟩ : Noted τ) := by
  rw [publish_eq, h]

theorem publish_error {e : TransportError} {t : τ}
    (h : Transport.publish topic payload qos n.inner = .error e t) :
    Transport.publish topic payload qos n = .error e { n with inner := t } := by
  rw [publish_eq, h]

end Publish

end Noted

namespace Session

variable {τ : Type}

/-! ## Numbers -/

/-- All that was published has a number that was counted already. -/
def Numbered (s : Session (Noted τ)) : Prop :=
  ∀ p ∈ s.transport.published, ∃ request n, TopicScheme.isSent request = true ∧
    n < s.device.nextRequest ∧ p.1 = s.device.scheme.numbered request n

theorem Numbered.becomes {s s' : Session (Noted τ)} {store : Store} (h : s.Numbered)
    (hdevice : s.device.Becomes store s'.device)
    (hpublished : s'.transport.published = s.transport.published) : s'.Numbered := by
  obtain ⟨n, pending, hn, heq⟩ := hdevice
  intro p hp
  rw [hpublished] at hp
  obtain ⟨request, k, hsent, hk, htopic⟩ := h p hp
  rw [heq]
  exact ⟨request, k, hsent, Nat.lt_of_lt_of_le hk hn, htopic⟩

theorem Numbered.transported {s : Session (Noted τ)} {t : Noted τ} (h : s.Numbered)
    (ht : t.published = s.transport.published) : ({ s with transport := t }).Numbered :=
  h.becomes s.device.becomes_self ht

variable [Transport τ]

theorem nextRequest_publish (request : Request) (payload : Bytes) (s : Session τ) :
    (final (publish request payload s)).device.nextRequest = s.device.nextRequest + 1 := by
  rw [publish_eq]
  split
  · split <;> rfl
  · rfl

section Publish

variable {request : Request} {payload : Bytes} {s : Session (Noted τ)}

theorem published_publish_ok {t : τ} (hfits : s.TopicFits request)
    (h : Transport.publish (s.nextTopic request) payload .atLeastOnce s.transport.inner
      = .ok () t) :
    (final (publish request payload s)).transport.published
      = s.transport.published ++ [(s.nextTopic request, payload, .atLeastOnce)] := by
  rw [publish_eq, if_pos hfits, Noted.publish_ok h]
  rfl

theorem published_publish_error {e : TransportError} {t : τ}
    (h : Transport.publish (s.nextTopic request) payload .atLeastOnce s.transport.inner
      = .error e t) :
    (final (publish request payload s)).transport.published = s.transport.published := by
  rw [publish_eq, Noted.publish_error h]
  split <;> rfl

theorem published_publish_full (hfits : ¬ s.TopicFits request) :
    (final (publish request payload s)).transport.published = s.transport.published := by
  rw [publish_eq, if_neg hfits]
  rfl

theorem numbered_publish (hsent : TopicScheme.isSent request = true) (h : s.Numbered) :
    (final (publish request payload s)).Numbered := by
  have hdevice := becomes_publish request payload s
  by_cases hfits : s.TopicFits request
  · cases hsend : Transport.publish (s.nextTopic request) payload .atLeastOnce
        s.transport.inner with
    | error e t => exact h.becomes hdevice (published_publish_error hsend)
    | ok _ t =>
      intro p hp
      rw [published_publish_ok hfits hsend] at hp
      rw [nextRequest_publish]
      obtain ⟨n, pending, -, heq⟩ := hdevice
      rw [heq]
      rcases List.mem_append.1 hp with hp | hp
      · obtain ⟨request', k, hsent', hk, htopic⟩ := h p hp
        exact ⟨request', k, hsent', Nat.lt_succ_of_lt hk, htopic⟩
      · cases List.mem_singleton.1 hp
        exact ⟨request, s.device.nextRequest, hsent, Nat.lt_succ_self _, rfl⟩
  · exact h.becomes hdevice (published_publish_full hfits)

end Publish

theorem numbered_acknowledge (version : Int) (accepted : List Accepted) {s : Session (Noted τ)}
    (h : s.Numbered) : (final (acknowledge version accepted s)).Numbered := by
  rcases acknowledge_cases version accepted s with heq | ⟨required, available, heq⟩ | heq <;>
    rw [heq]
  · exact h
  · exact h
  · exact numbered_publish rfl h

theorem numbered_handle (m : Message) {s : Session (Noted τ)} (h : s.Numbered) :
    (final (handle m s)).Numbered := by
  rcases handle_cases m s with ⟨-, pending, ⟨e, heq⟩ | ⟨warnings, heq⟩⟩ | ⟨r, pending, -, heq⟩
  · rw [heq]
    exact h
  · rw [heq]
    exact h
  · rw [heq]
    exact numbered_acknowledge _ _ h

theorem numbered_start {s : Session (Noted τ)} (h : s.Numbered) : (final (start s)).Numbered := by
  obtain ⟨t, t', rfl, rfl, hcases⟩ := start_cases s
  have hanswers := Noted.published_subscribe s.device.scheme.responseFilter .atLeastOnce
    s.transport
  have hpatches := (Noted.published_subscribe s.device.scheme.desiredPatchFilter .atLeastOnce
    _).trans hanswers
  rcases hcases with ⟨e, heq⟩ | ⟨e, heq⟩ | heq <;> rw [heq]
  · exact h.transported hanswers
  · exact h.transported hpatches
  · exact numbered_publish rfl (h.transported hpatches)

theorem numbered_after (act : Act) {s : Session (Noted τ)} (h : s.Numbered) :
    (after act s).Numbered := by
  cases act with
  | start => exact numbered_start h
  | requestDocument => exact numbered_publish rfl h
  | poll =>
    have hreceived := Noted.published_receive s.transport
    rw [after_poll]
    cases hreceive : Transport.receive s.transport with
    | error e t =>
      rw [hreceive] at hreceived
      exact h.transported hreceived
    | ok m t =>
      rw [hreceive] at hreceived
      cases m with
      | none => exact h.transported hreceived
      | some m =>
        obtain ⟨warnings, heq⟩ := handleOrWarn_final m { s with transport := t }
        dsimp only
        rw [heq]
        exact numbered_handle m (h.transported hreceived)

/-! ## Reachable sessions -/

/-- What a session can be, from a device that was just made. Between two calls the transport may
change in any way, but what was published stays so. -/
inductive Reachable (scheme : TopicScheme) (registry : ComponentRegistry)
    (topicCapacity payloadCapacity : Nat) : Session (Noted τ) → Prop where
  | opened (t : τ) : Reachable scheme registry topicCapacity payloadCapacity
      (opened scheme registry topicCapacity payloadCapacity (Noted.fresh t))
  | after {s : Session (Noted τ)} (act : Act)
      (h : Reachable scheme registry topicCapacity payloadCapacity s) :
      Reachable scheme registry topicCapacity payloadCapacity (after act s)
  | transported {s : Session (Noted τ)} (t : τ)
      (h : Reachable scheme registry topicCapacity payloadCapacity s) :
      Reachable scheme registry topicCapacity payloadCapacity
        { s with transport := { s.transport with inner := t } }

section Reachable

variable {scheme : TopicScheme} {registry : ComponentRegistry} {topicCapacity payloadCapacity : Nat}
  {s : Session (Noted τ)} (h : Reachable scheme registry topicCapacity payloadCapacity s)

include h

/-- All that was published has a number that was counted already. -/
theorem numbered_of_reachable : s.Numbered := by
  induction h with
  | opened t => intro p hp; cases hp
  | after act _ ih => exact numbered_after act ih
  | transported t _ ih => exact ih.transported rfl

theorem settings_of_reachable : s.device.scheme = scheme ∧ s.device.registry = registry ∧
    s.device.topicCapacity = topicCapacity ∧ s.device.payloadCapacity = payloadCapacity := by
  induction h with
  | opened t => exact ⟨rfl, rfl, rfl, rfl⟩
  | @after s act _ ih =>
    obtain ⟨n, pending, -, heq⟩ := becomes_after act s
    rw [heq]
    exact ih
  | transported t _ ih => exact ih

end Reachable

/-! ## Acknowledgements -/

/-- Whether the transport takes whatever is published next. -/
def Accepts (t : τ) : Prop :=
  ∀ topic payload qos, ∃ t', Transport.publish topic payload qos t = .ok () t'

/-- One message is published if there is something to acknowledge and it fits. -/
theorem published_acknowledge (version : Int) (accepted : List Accepted) {s : Session (Noted τ)}
    (haccepts : Accepts s.transport.inner) :
    (final (acknowledge version accepted s)).transport.published = s.transport.published ++
      if accepted ≠ [] ∧ (ackPayload version accepted).length ≤ s.device.payloadCapacity ∧
        s.TopicFits .reportedPatch
      then [(s.nextTopic .reportedPatch, ackPayload version accepted, .atLeastOnce)] else [] := by
  by_cases hne : accepted = []
  · subst hne
    simp [acknowledge_nil]
  by_cases hpayload : (ackPayload version accepted).length ≤ s.device.payloadCapacity
  · rw [acknowledge_of_le s hne hpayload]
    by_cases htopic : s.TopicFits .reportedPatch
    · obtain ⟨t, ht⟩ := haccepts (s.nextTopic .reportedPatch) (ackPayload version accepted)
        .atLeastOnce
      rw [if_pos ⟨hne, hpayload, htopic⟩]
      exact published_publish_ok htopic ht
    · rw [if_neg (fun h => htopic h.2.2), List.append_nil]
      exact published_publish_full htopic
  · obtain ⟨required, available, heq⟩ := acknowledge_of_lt s hne (Nat.lt_of_not_le hpayload)
    rw [if_neg (fun h => hpayload h.2.1), heq, List.append_nil]
    rfl

theorem fresh_eq (d : Device) (r : Revision) :
    d.fresh r = r.properties.filter fun q =>
      (d.store.get? q.1).all fun e => e.version ≤ r.version := by
  refine List.filter_congr fun q _ => ?_
  rw [Store.isStale]
  cases d.store.get? q.1 with
  | none => rfl
  | some e =>
    rw [Option.any_some, Option.all_some, ← decide_not]
    exact decide_eq_decide.2 Int.not_lt

/-- What is published for a document. Of its properties, in their order, those are accepted that the
device does not hold in a greater version. Where there are some, and the text that acknowledges them
and its topic fit, this text is published once, under the topic of a patch with a number that was
never published before. Otherwise nothing is published. -/
theorem published_handle {scheme : TopicScheme} {registry : ComponentRegistry}
    {topicCapacity payloadCapacity : Nat} {s : Session (Noted τ)}
    (hs : Reachable scheme registry topicCapacity payloadCapacity s)
    (haccepts : Accepts s.transport.inner) (m : Message) {kind : ResponseKind} {version : Int}
    (hroute : s.device.route? m = some kind)
    (hkind : kind.hasDocument = true)
    (hversion : Document.payloadVersion kind m.payload = .ok version) :
    ∃ document walked members, Json.read m.payload = .ok document ∧
      Document.walked? kind .writeableOnly document = some walked ∧
      let accepted := (Document.properties registry walked).filter fun q =>
        (s.device.store.get? q.1).all fun e => e.version ≤ version
      let text := (Value.object members).bytes
      let id := Integer.ofNat s.device.nextRequest
      ∃ topic, scheme.topic .reportedPatch id = .ok topic ∧
        Acknowledges version accepted members ∧
        (∀ p ∈ s.transport.published, ∀ request, scheme.topic request id ≠ .ok p.1) ∧
        (final (handle m s)).transport.published = s.transport.published ++
          if accepted ≠ [] ∧ text.length ≤ payloadCapacity ∧
            (Utf8.ofText topic).length ≤ topicCapacity
          then [(topic, text, .atLeastOnce)] else [] := by
  obtain ⟨r, hr, rfl⟩ := Document.revision?_of_payloadVersion s.device.registry hversion
  obtain ⟨document, walked, hread, -, hw, hproperties⟩ := Document.revision?_eq_some hr
  obtain ⟨rfl, rfl, rfl, rfl⟩ := settings_of_reachable hs
  have hrevision : s.device.revision? m = some r := by
    rw [Device.revision?, hroute]
    exact (if_pos hkind).trans hr
  have haccepted : s.device.fresh r
      = (Document.properties s.device.registry walked).filter fun q =>
        (s.device.store.get? q.1).all fun e => e.version ≤ r.version := by
    rw [fresh_eq, hproperties]
  have hnames : (Json.Members.names walked).Nodup :=
    ((Value.distinct_object walked).1
      (Document.distinct_of_walked? (Json.distinct_of_read hread) hw)).1
  refine ⟨document, walked, acceptedMembers r.version (s.device.fresh r), hread, hw,
    s.nextTopic .reportedPatch, TopicScheme.topic_ofNat _ _ _, ?_,
    fun p hp request htopic => ?_, ?_⟩
  · rw [haccepted]
    exact Acknowledgement.acknowledges_properties r.version s.device.registry _ hnames
  · obtain ⟨request', n, hsent, hn, heq⟩ := numbered_of_reachable hs p hp
    rw [TopicScheme.topic_ofNat, heq] at htopic
    have := TopicScheme.numbered_unique hsent (Except.ok.inj htopic).symm
    omega
  · rcases handle_cases m s with ⟨hnone, -⟩ | ⟨r', pending, hr', heq⟩
    · rw [hnone] at hrevision
      cases hrevision
    · rw [hrevision] at hr'
      cases hr'
      rw [heq, ← haccepted]
      exact published_acknowledge r.version (s.device.fresh r)
        (s := (s.answered pending s.warnings).holding (s.device.store.absorb r)) haccepts

theorem accepts_loopback {l : Loopback} (h : l.refusePublish = false) : Accepts l :=
  fun _ _ _ => ⟨_, if_neg (by simp [h])⟩

def patchOf (members : Json.Members) : Message where
  topic := "$iothub/twin/PATCH/properties/desired/?$version=1"
  payload := (Value.object members).bytes

/-- A device with a component, which has got its fan in version 5. -/
def fanSession : Session (Noted Loopback) :=
  after .poll (opened ⟨TopicScheme.standardRoot⟩ ⟨["heater"], by decide⟩ 64 256 (Noted.fresh {
    Loopback.empty with
    inbound := [patchOf [("fan", .bool true), ("$version", .number (.integer 5))]] }))

/-- Members of version 3, which come late for the fan but not for the rest. -/
def lateMembers : Json.Members := [
  ("$version", .number (.integer 3)), ("fan", .bool false),
  ("heater", .object [("__t", .string "c"), ("target", .number (.integer 21))]),
  ("mode", .string "eco")]

theorem published_handle_sample :
    ∃ members, Acknowledges 3 [(⟨some "heater", "target"⟩, .number (.integer 21)),
        (⟨none, "mode"⟩, .string "eco")] members ∧
      (final (handle (patchOf lateMembers) fanSession)).transport.published
        = fanSession.transport.published ++
          [("$iothub/twin/PATCH/properties/reported/?$rid=2", (Value.object members).bytes,
            .atLeastOnce)] := by
  have hs : Reachable ⟨TopicScheme.standardRoot⟩ ⟨["heater"], by decide⟩ 64 256 fanSession :=
    Reachable.after .poll (Reachable.opened _)
  have hroute : fanSession.device.route? (patchOf lateMembers) = some .desiredPatch := by
    decide +kernel
  have hversion : Document.payloadVersion .desiredPatch (patchOf lateMembers).payload = .ok 3 := by
    decide +kernel
  obtain ⟨document, walked, members, hread, hw, topic, htopic, hacknowledges, -, hpublished⟩ :=
    published_handle hs (accepts_loopback (by decide +kernel)) _ hroute rfl hversion
  have hdocument : Json.read (patchOf lateMembers).payload = .ok (.object lateMembers) := by
    decide +kernel
  rw [hdocument] at hread
  cases hread
  cases hw
  have htopic' : topic = "$iothub/twin/PATCH/properties/reported/?$rid=2" := by
    have hnext : TopicScheme.topic ⟨TopicScheme.standardRoot⟩ .reportedPatch
        (Integer.ofNat fanSession.device.nextRequest)
        = .ok "$iothub/twin/PATCH/properties/reported/?$rid=2" := by decide +kernel
    rw [hnext] at htopic
    exact (Except.ok.inj htopic).symm
  have haccepted : (Document.properties ⟨["heater"], by decide⟩ lateMembers).filter (fun q =>
      (fanSession.device.store.get? q.1).all fun e => e.version ≤ 3)
      = [(⟨some "heater", "target"⟩, .number (.integer 21)), (⟨none, "mode"⟩, .string "eco")] := by
    decide +kernel
  rw [haccepted] at hacknowledges
  refine ⟨members, hacknowledges, ?_⟩
  split at hpublished
  · rw [hpublished, htopic']
  · -- A second message was published, so the condition holds.
    have hlength : (final (handle (patchOf lateMembers) fanSession)).transport.published.length
        ≠ fanSession.transport.published.length := by decide +kernel
    rw [hpublished, List.append_nil] at hlength
    exact absurd rfl hlength

end Session
end DeviceTwin
