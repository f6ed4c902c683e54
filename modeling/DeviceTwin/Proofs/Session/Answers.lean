import DeviceTwin.Proofs.Session.Requests
import DeviceTwin.Proofs.Text.Numerals

/-!
# Messages that answer a request

A message answers the request whose number its correlation id is read as, and is asked for nothing
else: neither for its kind, nor for the text of the number. So a change of desired properties that
names a correlation id takes the request of that number with it, and so does an answer that spells
the number with zeros or a plus sign. Otherwise the requests that wait go on waiting.

Results:
* `number?_eq_some_iff`: the correlation ids that are read as a number.
* `answered?_iff_names`: a message answers the request that it names.
* `request_of_message`: what a message makes the device publish is a patch.
* `waiting_of_patch`: which requests wait on behind a change of desired properties.
* `waiting_of_answer`: which requests wait on behind an answer.
* `patch_takes_request`, `padded_takes_request`: a request is lost to a message that should not
  touch it.
-/
namespace DeviceTwin

open Attempt (final)

/-- The correlation ids that are read as a number are its texts. -/
theorem Device.number?_eq_some_iff {id : String} {n : Nat} :
    number? id = some n ↔ n ≤ maxNumber ∧ Integer.Spells id.toList n := by
  rw [← Integer.readNatural_eq_ok_iff, number?]
  cases Integer.readNatural maxNumber id.toList with
  | error fault => simp [Except.toOption]
  | ok k => simp [Except.toOption]

/-- Whether a message has a correlation id that is a text of this number. -/
def TopicScheme.Names (scheme : TopicScheme) (m : Message) (n : Nat) : Prop :=
  ∃ response id, scheme.classify m.topic = .ok (some response) ∧ response.correlationId = some id ∧
    n ≤ Device.maxNumber ∧ Integer.Spells id.toList n

theorem TopicScheme.names_iff {scheme : TopicScheme} {m : Message} {response : Response} {n : Nat}
    (h : scheme.classify m.topic = .ok (some response)) :
    scheme.Names m n ↔ response.correlationId.bind Device.number? = some n := by
  simp only [Option.bind_eq_some_iff, Device.number?_eq_some_iff]
  constructor
  · rintro ⟨response', id, h', hid, hspells⟩
    rw [h] at h'
    cases h'
    exact ⟨id, hid, hspells⟩
  · rintro ⟨id, hid, hspells⟩
    exact ⟨response, id, h, hid, hspells⟩

theorem TopicScheme.forall_of_classify {scheme : TopicScheme} {topic : String}
    {response : Response} {p : Response → Prop} (h : scheme.classify topic = .ok (some response))
    (hp : p response) :
    ∀ response', scheme.classify topic = .ok (some response') → p response' := by
  rw [h]
  rintro _ ⟨⟩
  exact hp

namespace Device

variable {d : Device} {m : Message}

/-- The request that a message answers is the one that it names. -/
theorem answered?_iff_names {n : Nat} : d.answered? m = some n ↔ d.scheme.Names m n := by
  rw [answered?_eq_some]
  constructor
  · rintro ⟨response, hclassify, hnumber⟩
    exact (TopicScheme.names_iff hclassify).2 hnumber
  · rintro ⟨response, id, hclassify, hid, hspells⟩
    exact ⟨response, hclassify, by rw [hid, Option.bind_some, number?_eq_some_iff]; exact hspells⟩

theorem settled?_of_patch (hkind : ∀ response, d.scheme.classify m.topic = .ok (some response) →
    response.kind = .desiredPatch) : d.settled? m = none := by
  rw [settled?, if_neg]
  rintro ⟨hroute, -⟩
  rw [route?] at hroute
  split at hroute
  · next response hclassify => simp [effectiveKind, hkind response hclassify] at hroute
  · cases hroute

/-- Any other message settles the patch that it answers. -/
theorem settled?_of_answer (hkind : ∀ response, d.scheme.classify m.topic = .ok (some response) →
    response.kind ≠ .desiredPatch) {r : Nat} : d.settled? m = some r ↔
      d.answered? m = some r ∧ d.pending.get? r = some .reportedPatch := by
  cases hanswered : d.answered? m with
  | none => simp [settled?, hanswered]
  | some n =>
    obtain ⟨response, hclassify, hnumber⟩ := answered?_eq_some.1 hanswered
    rw [settled?_eq_some hclassify (hkind response hclassify), hnumber]

/-- A message that names no request that waits leaves all of them. -/
theorem waitingAfter_of_unnamed (ho : d.Ordered)
    (hnone : ∀ e ∈ d.pending, d.answered? m ≠ some e.1) : d.waitingAfter m = d.pending := by
  have hunsettled : d.settled? m = none := by
    rw [settled?, if_neg]
    rintro ⟨-, hpatch⟩
    obtain ⟨n, hanswered, hget⟩ := Option.bind_eq_some_iff.1 hpatch
    exact hnone _ ((Pending.get?_eq_some_iff ho.1).1 hget) hanswered
  rw [waitingAfter, hunsettled, Option.elim_none]
  cases hanswered : d.answered? m with
  | none => rfl
  | some k =>
    refine List.filter_eq_self.2 fun e he => decide_eq_true fun hk => ?_
    exact hnone e he (hk ▸ hanswered)

end Device

namespace Session

variable {τ : Type} [Transport τ]

/-! ## What a message makes the device publish -/

theorem published_publish (request : Request) (payload : Bytes) (s : Session (Noted τ)) :
    (final (publish request payload s)).transport.published = s.transport.published ∨
      (final (publish request payload s)).transport.published
        = s.transport.published ++ [(s.nextTopic request, payload, .atLeastOnce)] := by
  by_cases hfits : s.TopicFits request
  · cases hsend : Transport.publish (s.nextTopic request) payload .atLeastOnce
        s.transport.inner with
    | ok _ t => exact .inr (published_publish_ok hfits hsend)
    | error e t => exact .inl (published_publish_error hsend)
  · exact .inl (published_publish_full hfits)

/-- Behind a message nothing new is published but one patch. -/
theorem published_handle_cases (m : Message) (s : Session (Noted τ)) :
    (final (handle m s)).transport.published = s.transport.published ∨
      ∃ payload, (final (handle m s)).transport.published
        = s.transport.published ++ [(s.nextTopic .reportedPatch, payload, .atLeastOnce)] := by
  rcases handle_cases m s with ⟨-, pending, ⟨e, heq⟩ | ⟨warnings, heq⟩⟩ | ⟨r, pending, -, heq⟩
  · rw [heq]
    exact .inl rfl
  · rw [heq]
    exact .inl rfl
  · rw [heq]
    let s' := (s.answered pending s.warnings).holding (s.device.store.absorb r)
    rcases acknowledge_cases r.version (s.device.fresh r) s' with
      hdone | ⟨required, available, hfull⟩ | hsent
    · rw [hdone]
      exact .inl rfl
    · rw [hfull]
      exact .inl rfl
    · rw [hsent]
      exact (published_publish .reportedPatch _ s').imp_right fun h => ⟨_, h⟩

theorem request_of_message {act : Act} {s : Session (Noted τ)} {m : Message} {request : Request}
    {payload : Bytes} (hm : act.message? s = some m)
    (hpublished : (after act s).transport.published
      = s.transport.published ++ [(s.nextTopic request, payload, .atLeastOnce)]) :
    request = .reportedPatch := by
  obtain ⟨t, warnings, ht, heq⟩ := after_of_message? hm
  have hnew : (final (handle m { s with transport := t })).transport.published
      = s.transport.published ++ [(s.nextTopic request, payload, .atLeastOnce)] := by
    rw [heq] at hpublished
    exact hpublished
  rcases published_handle_cases m { s with transport := t } with hquiet | ⟨payload', hpatch⟩
  · rw [hquiet, ht] at hnew
    simp at hnew
  · rw [hpatch, ht] at hnew
    have htopic := List.append_cancel_left hnew
    simp only [List.cons.injEq, Prod.mk.injEq, and_true] at htopic
    exact (TopicScheme.request_unique rfl htopic.1).symm

section Reachable

variable {scheme : TopicScheme} {registry : ComponentRegistry} {topicCapacity payloadCapacity : Nat}
  {s : Session (Noted τ)} (hs : Reachable scheme registry topicCapacity payloadCapacity s)
  {m : Message} (hm : Act.poll.message? s = some m)

include hs hm

/-- A request that waited leaves by the message, or for want of room for the patch behind it. -/
theorem not_mem_pending_poll {e : Nat × Request} (he : e ∈ s.device.pending) :
    e ∉ (after .poll s).device.pending ↔
      e ∉ s.device.waitingAfter m ∨ GivesUp .reportedPatch s (after .poll s) e.1 := by
  rw [not_mem_pending_after hs he, Act.waitingAfter, hm, Option.elim_some]
  refine or_congr_right ⟨?_, fun h => ⟨_, h⟩⟩
  rintro ⟨request, h⟩
  obtain ⟨payload, hpublished⟩ := h.published
  rwa [request_of_message hm hpublished] at h

/-- Where the message names no request that waits, all wait on, but for want of room for the patch
behind it. -/
theorem pending_poll_of_unnamed (hnone : ∀ e ∈ s.device.pending, s.device.answered? m ≠ some e.1) :
    (after .poll s).device.pending = s.device.pending ∨
      ∃ (x : Sent) (evicted : Pending), x.request = .reportedPatch ∧
        (after .poll s).transport.published
          = s.transport.published ++ [x.note s.device.scheme] ∧
        s.device.pending ++ [x.entry] = evicted ++ (after .poll s).device.pending ∧
        ∀ e ∈ evicted, GivesUp .reportedPatch s (after .poll s) e.1 := by
  have hwaiting : Act.poll.waitingAfter s = s.device.pending := by
    rw [Act.waitingAfter, hm, Option.elim_some]
    exact Device.waitingAfter_of_unnamed (ordered_of_reachable hs) hnone
  rcases published_after hs .poll with ⟨-, hpending⟩ | ⟨x, evicted, hnumber, hpublished, -, hsplit,
    hgiven⟩
  · exact .inl (hpending.trans hwaiting)
  · have hpatch : x.request = .reportedPatch := by
      rw [Sent.note, hnumber] at hpublished
      exact request_of_message hm hpublished
    rw [hwaiting] at hsplit
    exact .inr ⟨x, evicted, hpatch, hpublished, hsplit, hpatch ▸ hgiven⟩

end Reachable

/-! ## Changes of desired properties -/

/-- Which requests wait on behind a change of desired properties. One leaves if the topic names its
number as correlation id. Another leaves only for want of room: when the patch that acknowledges
this very change is published, and 32 later requests wait then. -/
theorem waiting_of_patch {scheme : TopicScheme} {registry : ComponentRegistry}
    {topicCapacity payloadCapacity : Nat} {s : Session (Noted τ)}
    (hs : Reachable scheme registry topicCapacity payloadCapacity s) {m : Message}
    (hm : Act.poll.message? s = some m)
    (hkind : ∀ response, scheme.classify m.topic = .ok (some response) →
      response.kind = .desiredPatch) {e : Nat × Request} (he : e ∈ s.device.pending) :
    e ∉ (after .poll s).device.pending ↔
      scheme.Names m e.1 ∨ GivesUp .reportedPatch s (after .poll s) e.1 := by
  obtain ⟨rfl, -⟩ := settings_of_reachable hs
  rw [not_mem_pending_poll hs hm he, Device.mem_waitingAfter_iff, Device.settled?_of_patch hkind,
    ← Device.answered?_iff_names]
  simp [he]

/-- A change of one property that names a correlation id. -/
def namedPatch (id : String) : Message :=
  { patchOf [("fan", .bool true), ("$version", .number (.integer 1))] with
    topic := "$iothub/twin/PATCH/properties/desired/?$rid=" ++ id }

/-- A device that has asked for the document, in front of such a change. -/
def namedRun (id : String) : Session (Noted Loopback) :=
  after .start (opened ⟨TopicScheme.standardRoot⟩ .empty 64 256
    (Noted.fresh { Loopback.empty with inbound := [namedPatch id] }))

theorem reachable_namedRun (id : String) :
    Reachable ⟨TopicScheme.standardRoot⟩ .empty 64 256 (namedRun id) :=
  Reachable.after .start (Reachable.opened _)

theorem waiting_of_patch_sample :
    (1, .documentGet) ∈ (after .poll (namedRun "7")).device.pending := by
  obtain ⟨hm, hmem, hroom⟩ : Act.poll.message? (namedRun "7") = some (namedPatch "7") ∧
      (1, .documentGet) ∈ (namedRun "7").device.pending ∧
      (after .poll (namedRun "7")).device.pending.length ≠ Pending.maxSize := by decide +kernel
  have hclassify : TopicScheme.classify ⟨TopicScheme.standardRoot⟩ (namedPatch "7").topic
      = .ok (some ⟨.desiredPatch, some "7", none, none⟩) := by decide +kernel
  have hkind := TopicScheme.forall_of_classify (p := (·.kind = .desiredPatch)) hclassify rfl
  by_contra hnot
  rcases (waiting_of_patch (reachable_namedRun "7") hm hkind hmem).1 hnot with hnamed | hgiven
  · exact absurd ((TopicScheme.names_iff hclassify).1 hnamed) (by decide +kernel)
  · exact hroom hgiven.full

/-- A change that names the number of a request takes it with it, although there is room. -/
theorem patch_takes_request :
    ¬ ∀ (s : Session (Noted Loopback)) (m : Message) (response : Response),
      Reachable ⟨TopicScheme.standardRoot⟩ .empty 64 256 s → Act.poll.message? s = some m →
      TopicScheme.classify ⟨TopicScheme.standardRoot⟩ m.topic = .ok (some response) →
      response.kind = .desiredPatch → ∀ e ∈ s.device.pending,
        e ∈ (after .poll s).device.pending ∨ GivesUp .reportedPatch s (after .poll s) e.1 := by
  intro hclaim
  obtain ⟨hm, hmem, hgone, hroom⟩ : Act.poll.message? (namedRun "1") = some (namedPatch "1") ∧
      (1, .documentGet) ∈ (namedRun "1").device.pending ∧
      (1, .documentGet) ∉ (after .poll (namedRun "1")).device.pending ∧
      (after .poll (namedRun "1")).device.pending.length ≠ Pending.maxSize := by decide +kernel
  have hclassify : TopicScheme.classify ⟨TopicScheme.standardRoot⟩ (namedPatch "1").topic
      = .ok (some ⟨.desiredPatch, some "1", none, none⟩) := by decide +kernel
  rcases hclaim _ _ _ (reachable_namedRun "1") hm hclassify rfl _ hmem with hstays | hgiven
  · exact hgone hstays
  · exact hroom hgiven.full

/-! ## Answers -/

/-- Which requests wait on behind any message but a change of desired properties. The request that
is answered is the one that the correlation id of the message spells: by the text that the request
was sent with, behind any zeros and perhaps a plus sign. Others leave only as patches in favour of a
later one that is answered, or for want of room. Where the message spells the number of no request
that waits, all wait on, but for want of room for the patch that it makes the device publish. -/
theorem waiting_of_answer {scheme : TopicScheme} {registry : ComponentRegistry}
    {topicCapacity payloadCapacity : Nat} {s : Session (Noted τ)}
    (hs : Reachable scheme registry topicCapacity payloadCapacity s) {m : Message}
    (hm : Act.poll.message? s = some m)
    (hkind : ∀ response, scheme.classify m.topic = .ok (some response) →
      response.kind ≠ .desiredPatch) :
    let s' := after .poll s
    (∀ e ∈ s.device.pending, e ∉ s'.device.pending ↔
      scheme.Names m e.1 ∨
      (e.2 = .reportedPatch ∧ ∃ r, e.1 < r ∧ (r, .reportedPatch) ∈ s.device.pending ∧
        scheme.Names m r) ∨
      GivesUp .reportedPatch s s' e.1) ∧
    ((∀ e ∈ s.device.pending, ¬ scheme.Names m e.1) →
      s'.device.pending = s.device.pending ∨
      ∃ (x : Sent) (evicted : Pending), x.request = .reportedPatch ∧
        s'.transport.published = s.transport.published ++ [x.note scheme] ∧
        s.device.pending ++ [x.entry] = evicted ++ s'.device.pending ∧
        ∀ e ∈ evicted, GivesUp .reportedPatch s s' e.1) := by
  intro s'
  obtain ⟨rfl, -⟩ := settings_of_reachable hs
  have ho := ordered_of_reachable hs
  have hsettled : ∀ r, s.device.settled? m = some r ↔
      s.device.scheme.Names m r ∧ (r, .reportedPatch) ∈ s.device.pending := by
    intro r
    rw [Device.settled?_of_answer hkind, Device.answered?_iff_names, Pending.get?_eq_some_iff ho.1]
  refine ⟨fun e he => ?_, fun hnone => ?_⟩
  · rw [not_mem_pending_poll hs hm he, Device.mem_waitingAfter_iff, ← or_assoc]
    refine or_congr_left ?_
    constructor
    · intro hnot
      by_cases hnamed : s.device.scheme.Names m e.1
      · exact .inl hnamed
      · -- It is a patch, and a later one was answered.
        have hunanswered : s.device.answered? m ≠ some e.1 :=
          fun h => hnamed (Device.answered?_iff_names.1 h)
        have hvoid : ¬ ∀ k, s.device.settled? m = some k → k < e.1 ∨ e.2 ≠ .reportedPatch :=
          fun hall => hnot ⟨he, hunanswered, hall⟩
        push Not at hvoid
        obtain ⟨k, hk, hle, hpatch⟩ := hvoid
        obtain ⟨hlater, hmem⟩ := (hsettled k).1 hk
        have hne : e.1 ≠ k := fun heq => hnamed (heq ▸ hlater)
        exact .inr ⟨hpatch, k, Nat.lt_of_le_of_ne hle hne, hmem, hlater⟩
    · rintro (hnamed | ⟨hpatch, r, hlater, hmem, hnamed⟩) ⟨-, hunanswered, hkept⟩
      · exact hunanswered (Device.answered?_iff_names.2 hnamed)
      · rcases hkept r ((hsettled r).2 ⟨hnamed, hmem⟩) with hlt | hother
        · exact Nat.lt_asymm hlater hlt
        · exact hother hpatch
  · exact pending_poll_of_unnamed hs hm fun e he h =>
      hnone e he (Device.answered?_iff_names.1 h)

def answerTo (id : String) : Message := ⟨"$iothub/twin/res/204/?$rid=" ++ id, []⟩

/-- A device that has sent a patch, in front of such an answer. -/
def patchedRun (id : String) : Session (Noted Loopback) :=
  after .poll (opened ⟨TopicScheme.standardRoot⟩ .empty 64 256 (Noted.fresh {
    Loopback.empty with
    inbound := [patchOf [("fan", .bool true), ("$version", .number (.integer 1))],
      answerTo id] }))

theorem reachable_patchedRun (id : String) :
    Reachable ⟨TopicScheme.standardRoot⟩ .empty 64 256 (patchedRun id) :=
  Reachable.after .poll (Reachable.opened _)

theorem waiting_of_answer_sample :
    (1, .reportedPatch) ∉ (after .poll (patchedRun "+01")).device.pending ∧
      (after .poll (patchedRun "1x")).device.pending = (patchedRun "1x").device.pending := by
  constructor
  · obtain ⟨hm, hmem⟩ : Act.poll.message? (patchedRun "+01") = some (answerTo "+01") ∧
        (1, .reportedPatch) ∈ (patchedRun "+01").device.pending := by decide +kernel
    have hclassify : TopicScheme.classify ⟨TopicScheme.standardRoot⟩ (answerTo "+01").topic
        = .ok (some ⟨.reportedAck, some "+01", some 204, none⟩) := by decide +kernel
    have hkind := TopicScheme.forall_of_classify (p := (·.kind ≠ .desiredPatch)) hclassify
      (by decide)
    have hspells : Integer.Spells "+01".toList 1 := ⟨1, .inr (by decide +kernel)⟩
    have hall := (waiting_of_answer (reachable_patchedRun "+01") hm hkind).1
    exact (hall (1, .reportedPatch) hmem).2
      (.inl ⟨_, "+01", hclassify, rfl, by decide, hspells⟩)
  · obtain ⟨hm, hpending, hquiet⟩ :
        Act.poll.message? (patchedRun "1x") = some (answerTo "1x") ∧
        (patchedRun "1x").device.pending = [(1, .reportedPatch)] ∧
        (after .poll (patchedRun "1x")).transport.published
          = (patchedRun "1x").transport.published := by decide +kernel
    have hclassify : TopicScheme.classify ⟨TopicScheme.standardRoot⟩ (answerTo "1x").topic
        = .ok (some ⟨.reportedAck, some "1x", some 204, none⟩) := by decide +kernel
    have hkind := TopicScheme.forall_of_classify (p := (·.kind ≠ .desiredPatch)) hclassify
      (by decide)
    have hnone : ∀ e ∈ (patchedRun "1x").device.pending,
        ¬ TopicScheme.Names ⟨TopicScheme.standardRoot⟩ (answerTo "1x") e.1 := by
      rw [hpending]
      intro e he hnamed
      rw [List.mem_singleton.1 he] at hnamed
      exact absurd ((TopicScheme.names_iff hclassify).1 hnamed) (by decide)
    rcases (waiting_of_answer (reachable_patchedRun "1x") hm hkind).2 hnone with
      hstay | ⟨x, evicted, -, hpublished, -⟩
    · exact hstay
    · rw [hquiet] at hpublished
      simp at hpublished

/-- An answer takes the request with number 1 with it although its correlation id is another text
than the one that the request was sent with. -/
theorem padded_takes_request :
    ¬ ∀ (s : Session (Noted Loopback)) (m : Message) (response : Response) (id : String),
      Reachable ⟨TopicScheme.standardRoot⟩ .empty 64 256 s → Act.poll.message? s = some m →
      TopicScheme.classify ⟨TopicScheme.standardRoot⟩ m.topic = .ok (some response) →
      response.kind ≠ .desiredPatch → response.correlationId = some id →
      (∀ e ∈ s.device.pending, id ≠ Integer.ofNat e.1) → ∀ e ∈ s.device.pending,
        e ∈ (after .poll s).device.pending ∨ GivesUp .reportedPatch s (after .poll s) e.1 := by
  intro hclaim
  obtain ⟨hm, hpending, hgone⟩ : Act.poll.message? (patchedRun "01") = some (answerTo "01") ∧
      (patchedRun "01").device.pending = [(1, .reportedPatch)] ∧
      (after .poll (patchedRun "01")).device.pending = [] := by decide +kernel
  have hclassify : TopicScheme.classify ⟨TopicScheme.standardRoot⟩ (answerTo "01").topic
      = .ok (some ⟨.reportedAck, some "01", some 204, none⟩) := by decide +kernel
  have hother : ∀ e ∈ (patchedRun "01").device.pending, "01" ≠ Integer.ofNat e.1 := by
    rw [hpending]
    decide +kernel
  rcases hclaim _ _ _ _ (reachable_patchedRun "01") hm hclassify (by decide) rfl hother
    (1, .reportedPatch) (by simp [hpending]) with hstays | hgiven
  · rw [hgone] at hstays
    cases hstays
  · have hfull := hgiven.full
    rw [hgone] at hfull
    cases hfull

end Session
end DeviceTwin
