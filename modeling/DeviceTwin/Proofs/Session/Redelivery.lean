import DeviceTwin.Proofs.Session.Publications

/-!
# Messages that are delivered twice

A service may deliver a message more than once. Taking up a revision a second time changes nothing,
since under each property the store then holds either this very version or a greater one. So the
second delivery is fresh in exactly the properties in which the first one was, and the device
acknowledges it once more, in the same words.

Results:
* `absorb_absorb`: a store has taken up a revision for good.
* `fresh_absorb`: what was fresh in a revision is still so behind it.
* `published_of_arrival`: what is published for a document that arrives.
* `redelivery_harmless`: a document that arrives twice in a row leaves the store that it leaves if
  it arrives once, and is acknowledged the second time as it was the first time.
-/
namespace DeviceTwin

open Acknowledgement (Accepted)
open Attempt (final)

/-! ## Revisions that are taken up again -/

namespace Store

variable {r : Revision} {p : Property}

/-- What was not stale is not stale once it is stored. -/
theorem isStale_absorb (h : r.Carries p) (s : Store) :
    (s.absorb r).isStale p r.version = s.isStale p r.version := by
  obtain ⟨v, hv⟩ := h
  rw [isStale, get?_absorb_of_mem hv]
  cases hstale : s.isStale p r.version with
  | true => exact hstale
  | false => simp

/-- A store has taken up a revision for good. -/
theorem absorb_absorb (s : Store) (r : Revision) : (s.absorb r).absorb r = s.absorb r := by
  refine eq_of_get? fun p => ?_
  by_cases hc : r.Carries p
  · have hstale := isStale_absorb hc s
    obtain ⟨v, hv⟩ := hc
    rw [get?_absorb_of_mem hv, hstale, get?_absorb_of_mem hv]
    split <;> rfl
  · exact get?_absorb_of_not_carries hc _

end Store

namespace Device

/-- What was fresh in a revision is still so behind it. -/
theorem fresh_absorb {d d' : Device} {r : Revision} (h : d'.store = d.store.absorb r) :
    d'.fresh r = d.fresh r := by
  refine List.filter_congr fun q hq => ?_
  rw [h, Store.isStale_absorb ⟨q.2, hq⟩]

theorem kind_of_route? {d : Device} {m : Message} {kind : ResponseKind}
    (h : d.route? m = some kind) (hk : kind.hasDocument = true) :
    ∃ response, d.scheme.classify m.topic = .ok (some response) ∧ response.kind = kind := by
  unfold route? at h
  split at h
  · next response hclassify =>
    refine ⟨response, hclassify, ?_⟩
    obtain rfl := Option.some.inj h
    unfold effectiveKind at hk ⊢
    split
    · next hpatch => rw [if_pos hpatch] at hk; cases hk
    · rfl
  · cases h

/-- The requests that wait decide whether a message is taken for a document, and nothing else. -/
theorem revision?_eq {d d' : Device} {m : Message} {kind kind' : ResponseKind}
    (hscheme : d'.scheme = d.scheme) (hregistry : d'.registry = d.registry)
    (h : d.route? m = some kind) (hk : kind.hasDocument = true)
    (h' : d'.route? m = some kind') (hk' : kind'.hasDocument = true) :
    d'.revision? m = d.revision? m := by
  obtain ⟨response, hclassify, rfl⟩ := kind_of_route? h hk
  obtain ⟨response', hclassify', rfl⟩ := kind_of_route? h' hk'
  rw [hscheme, hclassify] at hclassify'
  cases hclassify'
  rw [revision?, revision?, h, h', hregistry]

/-- The text that acknowledges accepted properties, if there are some and the text fits. -/
def ackText? (d : Device) (version : Int) (accepted : List Accepted) : Option Bytes :=
  if accepted ≠ [] ∧ (Session.ackPayload version accepted).length ≤ d.payloadCapacity then
    some (Session.ackPayload version accepted)
  else none

def answerTo? (d : Device) (m : Message) : Option Bytes :=
  (d.revision? m).bind fun r => d.ackText? r.version (d.fresh r)

end Device

namespace Session

variable {τ : Type} [Transport τ]

def patchNote (s : Session (Noted τ)) (text : Bytes) : String × Bytes × QoS :=
  (s.nextTopic .reportedPatch, text, .atLeastOnce)

theorem nextRequest_acknowledge (version : Int) (accepted : List Accepted) (s : Session τ) :
    (final (acknowledge version accepted s)).device.nextRequest
      = s.device.nextRequest + (s.device.ackText? version accepted).toList.length := by
  rw [Device.ackText?]
  by_cases hne : accepted = []
  · subst hne
    rfl
  by_cases hfits : (ackPayload version accepted).length ≤ s.device.payloadCapacity
  · rw [if_pos ⟨hne, hfits⟩, acknowledge_of_le s hne hfits]
    exact nextRequest_publish _ _ s
  · obtain ⟨required, available, heq⟩ := acknowledge_of_lt s hne (Nat.lt_of_not_le hfits)
    rw [if_neg fun h => hfits h.2, heq]
    rfl

/-- A message comes next and is taken for a document, and the transport will take what is published
for it. -/
structure Arrives (m : Message) (s : Session (Noted τ)) : Prop where
  message : Act.poll.message? s = some m
  document : ∃ kind, s.device.route? m = some kind ∧ kind.hasDocument = true
  accepts : Accepts (final (Transport.receive s.transport.inner))

section Arrival

variable {s : Session (Noted τ)} {m : Message} (h : Arrives m s)

include h

theorem after_of_arrival : ∃ t warnings, t.published = s.transport.published ∧ Accepts t.inner ∧
    after .poll s = { final (handle m { s with transport := t }) with warnings := warnings } := by
  have hnote := Noted.published_receive s.transport
  have hinner : (final (Transport.receive s.transport)).inner
      = final (Transport.receive s.transport.inner) := by
    show (final (Noted.call Transport.receive s.transport)).inner = _
    rw [Noted.call]
    cases Transport.receive s.transport.inner <;> rfl
  have haccepts := h.accepts
  rw [← hinner] at haccepts
  have hmessage := h.message
  rw [Act.message?] at hmessage
  rw [after_poll]
  cases hreceive : Transport.receive s.transport with
  | error e t => rw [hreceive] at hmessage; cases hmessage
  | ok received t =>
    rw [hreceive] at hmessage hnote haccepts
    dsimp only at hmessage
    subst hmessage
    obtain ⟨warnings, heq⟩ := handleOrWarn_final m { s with transport := t }
    exact ⟨t, warnings, hnote, haccepts, heq⟩

theorem store_of_arrival : (after .poll s).device.store = s.storeAfter m := by
  obtain ⟨n, pending, -, heq⟩ := becomes_after .poll s
  rw [heq, Act.revision?, h.message]
  rfl

/-- A document that arrives is acknowledged once, if something of it is accepted and there is room.
Otherwise no number is taken. -/
theorem published_of_arrival (hfits : s.TopicFits .reportedPatch) :
    (after .poll s).transport.published
        = s.transport.published ++ (s.device.answerTo? m).toList.map s.patchNote ∧
      (after .poll s).device.nextRequest
        = s.device.nextRequest + (s.device.answerTo? m).toList.length := by
  obtain ⟨t, warnings, ht, haccepts, heq⟩ := after_of_arrival h
  have hsame : ∀ d : Device, d.revision? m = none → d.answerTo? m = none := fun d hnone => by
    rw [Device.answerTo?, hnone]
    rfl
  rw [heq, ← ht]
  rcases handle_cases m { s with transport := t } with
    ⟨hnone, pending, ⟨e, hhandle⟩ | ⟨warnings', hhandle⟩⟩ | ⟨r, pending, hr, hhandle⟩
  · rw [hhandle, hsame _ hnone]
    exact ⟨(List.append_nil _).symm, rfl⟩
  · rw [hhandle, hsame _ hnone]
    exact ⟨(List.append_nil _).symm, rfl⟩
  · have hanswer : s.device.answerTo? m = s.device.ackText? r.version (s.device.fresh r) := by
      rw [Device.answerTo?, show s.device.revision? m = some r from hr]
      rfl
    rw [hhandle, hanswer]
    let s' := (({ s with transport := t }).answered pending s.warnings).holding
      (s.device.store.absorb r)
    refine ⟨?_, nextRequest_acknowledge r.version (s.device.fresh r) s'⟩
    refine (published_acknowledge r.version (s.device.fresh r) (s := s') haccepts).trans ?_
    have hfits' : s'.TopicFits .reportedPatch := hfits
    have hcapacity : s'.device.payloadCapacity = s.device.payloadCapacity := rfl
    refine congrArg (t.published ++ ·) ?_
    rw [Device.ackText?, hcapacity]
    by_cases hsent : s.device.fresh r ≠ [] ∧
        (ackPayload r.version (s.device.fresh r)).length ≤ s.device.payloadCapacity
    · rw [if_pos hsent, if_pos ⟨hsent.1, hsent.2, hfits'⟩]
      rfl
    · rw [if_neg hsent, if_neg fun h => hsent ⟨h.1, h.2.1⟩]
      rfl

end Arrival

/-! ## Two deliveries -/

section Twice

variable {s s' : Session (Noted τ)} {m : Message} (h : Arrives m s) (h' : Arrives m s')
  (hdevice : s'.device = (after .poll s).device)

include h h' hdevice

theorem revision?_again : s'.device.revision? m = s.device.revision? m := by
  obtain ⟨kind, hroute, hk⟩ := h.document
  obtain ⟨kind', hroute', hk'⟩ := h'.document
  obtain ⟨n, pending, -, heq⟩ := becomes_after .poll s
  rw [← hdevice] at heq
  exact Device.revision?_eq (by rw [heq]) (by rw [heq]) hroute hk hroute' hk'

theorem store_again : (after .poll s').device.store = (after .poll s).device.store := by
  rw [store_of_arrival h', storeAfter, revision?_again h h' hdevice, hdevice, store_of_arrival h,
    storeAfter]
  cases s.device.revision? m with
  | none => rfl
  | some r => exact Store.absorb_absorb s.device.store r

theorem answerTo?_again : s'.device.answerTo? m = s.device.answerTo? m := by
  have hstore := store_of_arrival h
  rw [← hdevice] at hstore
  obtain ⟨n, pending, -, heq⟩ := becomes_after .poll s
  have hcapacity : s'.device.payloadCapacity = s.device.payloadCapacity := by rw [hdevice, heq]
  rw [Device.answerTo?, Device.answerTo?, revision?_again h h' hdevice]
  cases hr : s.device.revision? m with
  | none => rfl
  | some r =>
    rw [storeAfter, hr] at hstore
    have hfresh : s'.device.fresh r = s.device.fresh r := Device.fresh_absorb hstore
    simp only [Option.bind_some, hfresh, Device.ackText?, hcapacity]

end Twice

/-- A document may be delivered twice in a row. Whatever the transport does between the two
deliveries, the second one leaves the store that the first one left. Where the first one was
acknowledged the second one is as well, by the same text and under a number that no request before
it had; where the first one was not, the second one is not either. -/
theorem redelivery_harmless {scheme : TopicScheme} {registry : ComponentRegistry}
    {topicCapacity payloadCapacity : Nat} {s : Session (Noted τ)}
    (hs : Reachable scheme registry topicCapacity payloadCapacity s) {m : Message} {t : τ}
    (hfirst : Arrives m s) (hfits : s.TopicFits .reportedPatch)
    (hfits' : s.counted.TopicFits .reportedPatch) :
    let s₁ := after .poll s
    let again : Session (Noted τ) := { s₁ with transport := { s₁.transport with inner := t } }
    Arrives m again →
      let s₂ := after .poll again
      let sent := (s.device.answerTo? m).toList
      s₂.device.store = s₁.device.store ∧
      s₁.transport.published = s.transport.published ++ sent.map s.patchNote ∧
      s₂.transport.published = s₁.transport.published ++ sent.map s₁.patchNote ∧
      ∀ p ∈ s₁.transport.published, ∀ request, p.1 ≠ s₁.nextTopic request := by
  intro s₁ again hsecond s₂ sent
  obtain ⟨hpublished, hnumber⟩ := published_of_arrival hfirst hfits
  have hfitsAgain : again.TopicFits .reportedPatch := by
    obtain ⟨n, pending, -, heq⟩ := becomes_after .poll s
    have hscheme : again.device.scheme = s.device.scheme :=
      (congrArg Device.scheme heq : (after .poll s).device.scheme = _)
    have hcapacity : again.device.topicCapacity = s.device.topicCapacity :=
      (congrArg Device.topicCapacity heq : (after .poll s).device.topicCapacity = _)
    have hnext : again.device.nextRequest = s.device.nextRequest + sent.length := hnumber
    rw [TopicFits, nextTopic, hscheme, hcapacity, hnext]
    -- The first delivery took one number at most.
    show (Utf8.ofText (s.device.scheme.numbered .reportedPatch
      (s.device.nextRequest + (s.device.answerTo? m).toList.length))).length ≤ _
    cases s.device.answerTo? m with
    | none => exact hfits
    | some text => exact hfits'
  have hanswer := (published_of_arrival hsecond hfitsAgain).1
  rw [answerTo?_again hfirst hsecond rfl] at hanswer
  refine ⟨store_again hfirst hsecond rfl, hpublished, hanswer, fun p hp request htopic => ?_⟩
  obtain ⟨request', n, hsent, hn, heq⟩ := numbered_of_reachable (Reachable.after .poll hs) p hp
  rw [heq] at htopic
  have hn' : n = s₁.device.nextRequest := TopicScheme.numbered_unique hsent htopic
  exact Nat.lt_irrefl _ (hn' ▸ hn)

/-- A device that holds its fan in version 5, in front of the same late members twice. -/
def redeliveredRun : Session (Noted Loopback) :=
  after .poll (opened ⟨TopicScheme.standardRoot⟩ (.ofList ["heater"]) 64 256 (Noted.fresh {
    Loopback.empty with
    inbound := [patchOf [("fan", .bool true), ("$version", .number (.integer 5))],
      patchOf lateMembers, patchOf lateMembers] }))

theorem redelivery_harmless_sample :
    let text := ackPayload 3 [(⟨some "heater", "target"⟩, .number (.integer 21)),
      (⟨none, "mode"⟩, .string "eco")]
    (afterAll [.poll, .poll] redeliveredRun).device.store
        = (after .poll redeliveredRun).device.store ∧
      (afterAll [.poll, .poll] redeliveredRun).transport.published
        = redeliveredRun.transport.published ++
          [("$iothub/twin/PATCH/properties/reported/?$rid=2", text, .atLeastOnce),
            ("$iothub/twin/PATCH/properties/reported/?$rid=3", text, .atLeastOnce)] := by
  intro text
  have hs : Reachable ⟨TopicScheme.standardRoot⟩ (.ofList ["heater"]) 64 256 redeliveredRun :=
    Reachable.after .poll (Reachable.opened _)
  -- The runs are evaluated once for all that is needed of them.
  have hfacts : (Act.poll.message? redeliveredRun = some (patchOf lateMembers) ∧
        redeliveredRun.device.route? (patchOf lateMembers) = some .desiredPatch ∧
        (final (Transport.receive redeliveredRun.transport.inner)).refusePublish = false) ∧
      (Act.poll.message? (after .poll redeliveredRun) = some (patchOf lateMembers) ∧
        (after .poll redeliveredRun).device.route? (patchOf lateMembers) = some .desiredPatch ∧
        (final (Transport.receive (after .poll redeliveredRun).transport.inner)).refusePublish
          = false) ∧
      redeliveredRun.device.answerTo? (patchOf lateMembers) = some text ∧
      redeliveredRun.TopicFits .reportedPatch ∧
      redeliveredRun.counted.TopicFits .reportedPatch ∧
      redeliveredRun.nextTopic .reportedPatch
        = "$iothub/twin/PATCH/properties/reported/?$rid=2" ∧
      (after .poll redeliveredRun).nextTopic .reportedPatch
        = "$iothub/twin/PATCH/properties/reported/?$rid=3" := by
    decide +kernel
  obtain ⟨⟨hm, hr, ha⟩, ⟨hm', hr', ha'⟩, hanswer, hfits, hfits', htopic, htopic'⟩ := hfacts
  obtain ⟨hstore, hpublished, hagain, -⟩ := redelivery_harmless hs
    (t := (after .poll redeliveredRun).transport.inner)
    ⟨hm, ⟨_, hr, rfl⟩, accepts_loopback ha⟩ hfits hfits' ⟨hm', ⟨_, hr', rfl⟩, accepts_loopback ha'⟩
  refine ⟨hstore, hagain.trans ?_⟩
  rw [hpublished, hanswer, List.append_assoc]
  simp only [Option.toList_some, List.map_cons, List.map_nil, patchNote, htopic, htopic',
    List.cons_append, List.nil_append]

end Session
end DeviceTwin
