import DeviceTwin.Proofs.Session.Pending

/-!
# Confirmed patches

A message with status 200 answers a request for the whole document or a patch of reported
properties, and only the device knows which: by the requests that wait. While a patch waits, its
confirmation is never taken for a document. Once the patch was answered, or given up in favour of a
later one, or pushed out by 32 later requests, a confirmation that comes again or late is read as a
whole document.

Results:
* `route?_of_confirms`: a confirmation is an answer exactly while its patch waits.
* `confirmation_of_patch`: for how long a patch that was published is known to be one.
* `confirmation_again`: after that its confirmation changes the store.
-/
namespace DeviceTwin

open Attempt (final)

/-- Whether a message answers with status 200 the request of this number, by the id that the request
was sent with. -/
def TopicScheme.Confirms (scheme : TopicScheme) (m : Message) (n : Nat) : Prop :=
  ∃ version, scheme.classify m.topic
    = .ok (some ⟨.documentGet, some (Integer.ofNat n), some Status.ok, version⟩)

theorem Device.number?_ofNat {n : Nat} (hn : n ≤ maxNumber) :
    number? (Integer.ofNat n) = some n := by
  rw [number?, Integer.ofNat, String.toList_ofList, Integer.readNatural_natural hn]
  rfl

/-- A confirmation is an answer exactly while its patch waits, and else a whole document. -/
theorem Device.route?_of_confirms {d : Device} {m : Message} {n : Nat} (hn : n ≤ maxNumber)
    (hm : d.scheme.Confirms m n) :
    d.route? m = some (if d.pending.get? n = some .reportedPatch then .reportedAck
      else .documentGet) := by
  obtain ⟨version, hclassify⟩ := hm
  rw [route?, hclassify]
  simp only [Option.bind_some, number?_ofNat hn, effectiveKind, true_and]

namespace Session

variable {τ : Type} [Transport τ]

/-- A confirmation of the patch with number `n` is taken for its answer as long as the patch waits,
and for a whole document otherwise. From the call that publishes the patch on, that holds at least
until a message answers `n` or settles a later patch, or more than 31 numbers were taken behind `n`:
up to there a confirmation changes neither the store nor what was published, whatever it carries. -/
theorem confirmation_of_patch {scheme : TopicScheme} {registry : ComponentRegistry}
    {topicCapacity payloadCapacity : Nat} {s : Session (Noted τ)}
    (hs : Reachable scheme registry topicCapacity payloadCapacity s) {n : Nat}
    (hn : n ≤ Device.maxNumber) :
    (∀ m, scheme.Confirms m n → s.device.route? m
      = some (if s.device.pending.get? n = some .reportedPatch then .reportedAck
          else .documentGet)) ∧
    ∀ act payload, (after act s).transport.published
        = s.transport.published ++ [(scheme.numbered .reportedPatch n, payload, .atLeastOnce)] →
      ∀ acts, (∀ a ∈ arrivals acts (after act s), a.2.answered? a.1 ≠ some n ∧
          ∀ k, a.2.settled? a.1 = some k → k < n) →
        (afterAll acts (after act s)).device.nextRequest ≤ n + Pending.maxSize →
        ∀ m, scheme.Confirms m n →
          let s' := afterAll acts (after act s)
          (final (handle m s')).device.store = s'.device.store ∧
            (final (handle m s')).transport.published = s'.transport.published := by
  refine ⟨fun m hm => ?_, fun act payload hpublished acts hnone hroom m hm => ?_⟩
  · obtain ⟨rfl, -⟩ := settings_of_reachable hs
    exact Device.route?_of_confirms hn hm
  · have hafter := Reachable.after act hs
    have hreach := reachable_afterAll hafter acts
    have hwaits := waits_afterAll hafter (waits_of_published hs rfl hpublished) hnone hroom
    have hpending : (afterAll acts (after act s)).device.pending.get? n = some .reportedPatch :=
      (Pending.get?_eq_some_iff (ordered_of_reachable hreach).1).2 hwaits
    refine quiet_of_answer ?_
    obtain ⟨rfl, -⟩ := settings_of_reachable hreach
    rw [Device.route?_of_confirms hn hm, if_pos hpending]

/-- A confirmation of the first request, with a document in it. -/
def confirmation : Message where
  topic := "$iothub/twin/res/200/?$rid=1"
  payload := (Json.Value.object [("desired", .object [("fan", .bool false),
    ("$version", .number (.integer 2))])]).bytes

/-- A device that receives a patch, a topic of no interest and a confirmation twice. -/
def confirmedRun : Session (Noted Loopback) :=
  opened ⟨TopicScheme.standardRoot⟩ .empty 64 256 (Noted.fresh {
    Loopback.empty with
    inbound := [patchOf [("fan", .bool true), ("$version", .number (.integer 1))],
      ⟨"other", []⟩, confirmation, confirmation] })

theorem confirms_confirmation :
    TopicScheme.Confirms ⟨TopicScheme.standardRoot⟩ confirmation 1 :=
  ⟨none, by decide +kernel⟩

theorem confirmation_of_patch_sample :
    let s := afterAll [.poll, .poll] confirmedRun
    (final (handle confirmation s)).device.store = s.device.store ∧
      (final (handle confirmation s)).transport.published = s.transport.published := by
  have hs : Reachable ⟨TopicScheme.standardRoot⟩ .empty 64 256 confirmedRun := Reachable.opened _
  have hone : 1 ≤ Device.maxNumber := by decide
  have hpublished : (after .poll confirmedRun).transport.published
      = confirmedRun.transport.published ++ [(TopicScheme.numbered ⟨TopicScheme.standardRoot⟩
        .reportedPatch 1, ackPayload 1 [(⟨none, "fan"⟩, .bool true)], .atLeastOnce)] := by
    decide +kernel
  exact (confirmation_of_patch hs hone).2 .poll _ hpublished [.poll] (by decide +kernel)
    (by decide +kernel) confirmation confirms_confirmation

/-- Behind its answer a confirmation is read as a document, although its patch was published. -/
theorem confirmation_again :
    ¬ ∀ (s : Session (Noted Loopback)) (n : Nat) (m : Message),
      Reachable ⟨TopicScheme.standardRoot⟩ .empty 64 256 s →
      (∃ payload qos, (TopicScheme.numbered ⟨TopicScheme.standardRoot⟩ .reportedPatch n, payload,
        qos) ∈ s.transport.published) →
      TopicScheme.Confirms ⟨TopicScheme.standardRoot⟩ m n →
      (final (handle m s)).device.store = s.device.store ∧
        (final (handle m s)).transport.published = s.transport.published := by
  intro hclaim
  have hs : Reachable ⟨TopicScheme.standardRoot⟩ .empty 64 256
      (afterAll [.poll, .poll, .poll] confirmedRun) :=
    reachable_afterAll (Reachable.opened _) _
  have hpublished : (TopicScheme.numbered ⟨TopicScheme.standardRoot⟩ .reportedPatch 1,
      ackPayload 1 [(⟨none, "fan"⟩, .bool true)], QoS.atLeastOnce)
      ∈ (afterAll [.poll, .poll, .poll] confirmedRun).transport.published := by decide +kernel
  have hquiet := hclaim _ 1 confirmation hs ⟨_, _, hpublished⟩ confirms_confirmation
  have hstore : (final (handle confirmation (afterAll [.poll, .poll, .poll] confirmedRun))
      ).device.store ≠ (afterAll [.poll, .poll, .poll] confirmedRun).device.store := by
    decide +kernel
  exact hstore hquiet.1

end Session
end DeviceTwin
