import DeviceTwin.Proofs.Session.Steps
import DeviceTwin.Transport.Loopback

/-!
# Documents as a whole

The properties of a document are stored while it is read, so a document that cannot be read to its
end would be stored in part. That never happens: the version is looked for first, and where it is
found the rest can be read as well.

Results:
* `publish_error`, `acknowledge_error`: sending fails for want of room or by the transport, and for
  no other reason.
* `handle_whole`: a message that fails for its own sake leaves the store and the transport as they
  were.
-/
namespace DeviceTwin.Session

open Acknowledgement (Accepted)
open Attempt (final outcome)

variable {τ : Type} [Transport τ]

theorem publish_error {request : Request} {payload : Bytes} {s s' : Session τ} {e : PropertyError}
    (h : publish request payload s = .error (.property e) s') :
    ∃ required available, e = .insufficientBuffer required available := by
  rw [publish_eq] at h
  split at h
  · split at h <;> cases h
  · cases h
    exact ⟨_, _, rfl⟩

theorem acknowledge_error {version : Int} {accepted : List Accepted} {s s' : Session τ}
    {e : PropertyError} (h : acknowledge version accepted s = .error (.property e) s') :
    ∃ required available, e = .insufficientBuffer required available := by
  rcases acknowledge_cases version accepted s with heq | ⟨required, available, heq⟩ | heq <;>
    rw [heq] at h
  · cases h
  · cases h
    exact ⟨required, available, rfl⟩
  · exact publish_error h

/-- A message that fails for its own sake leaves the store and the transport as they were. Where the
version of a document is found, its properties can be read to the end, in whichever way they are
consumed, and stored to the end, whatever is stored already. A message that is no document changes
neither the store nor the transport. -/
theorem handle_whole (m : Message) (s : Session τ) :
    (∀ e s', handle m s = .error (.property e) s' →
      (∀ required available, e ≠ .insufficientBuffer required available) →
      s'.device.store = s.device.store ∧ s'.transport = s.transport) ∧
    (∀ kind version, kind.hasDocument = true →
      Document.payloadVersion kind m.payload = .ok version →
      ∃ c ps, Document.payloadCursor kind .writeableOnly s.device.registry m.payload = .ok c ∧
        (∀ choices, ∃ c', Cursor.rounds choices c = .ok (Cursor.answers choices ps) c') ∧
        ∀ store, Device.acceptAll version (c.stream.ahead.length + 1) c store
          = .ok (Store.accept version ps store).1 (Store.accept version ps store).2) ∧
    (s.device.route? m = none ∨ s.device.route? m = some .reportedAck →
      (final (handle m s)).device.store = s.device.store ∧
      (final (handle m s)).transport = s.transport) := by
  refine ⟨fun e s' h hroom => ?_, fun kind version hk hversion => ?_, fun hroute => ?_⟩
  · rcases handle_cases m s with ⟨-, pending, ⟨e', heq⟩ | ⟨warnings, heq⟩⟩ | ⟨r, pending, -, heq⟩
    · rw [heq] at h
      cases h
      exact ⟨rfl, rfl⟩
    · rw [heq] at h
      cases h
    · rw [heq] at h
      obtain ⟨required, available, he⟩ := acknowledge_error h
      exact absurd he (hroom required available)
  · obtain ⟨r, hr, rfl⟩ := Document.revision?_of_payloadVersion s.device.registry hversion
    obtain ⟨-, c, stop, hcursor, hyields, hlength⟩ := Document.yields_of_revision? hk hr
    refine ⟨c, r.properties, hcursor, fun choices => ?_, fun store => ?_⟩
    · obtain ⟨c', hrounds, -⟩ := Cursor.rounds_ok choices hyields
      exact ⟨c', hrounds⟩
    · exact Device.acceptAll_ok r.version hyields (Nat.lt_succ_of_le hlength) store
  · -- Without a document there is no revision, and nothing else reaches the store.
    have hnone : s.device.revision? m = none := by
      rcases hroute with hroute | hroute <;> rw [Device.revision?, hroute]
      rfl
    rcases handle_cases m s with ⟨-, pending, ⟨e, heq⟩ | ⟨warnings, heq⟩⟩ | ⟨r, pending, hr, -⟩
    · rw [heq]
      exact ⟨rfl, rfl⟩
    · rw [heq]
      exact ⟨rfl, rfl⟩
    · rw [hnone] at hr
      cases hr

/-- A session over a transport in memory, for a device without components. -/
def sampleSession : Session Loopback :=
  ofDevice (Device.new ⟨TopicScheme.standardRoot⟩ .empty 64 256) .empty

def samplePatch : Message where
  topic := "$iothub/twin/PATCH/properties/desired/?$version=2"
  payload := (Json.Value.object [("fan", .bool true), ("$version", .number (.integer 2))]).bytes

/-- The same patch without its last byte. -/
def truncatedPatch : Message :=
  { samplePatch with payload := samplePatch.payload.dropLast }

theorem handle_whole_sample :
    (∃ e s', handle truncatedPatch sampleSession = .error (.property e) s' ∧
      s'.device.store = sampleSession.device.store ∧ s'.transport = sampleSession.transport) ∧
    (∃ c ps, Document.payloadCursor .desiredPatch .writeableOnly .empty samplePatch.payload
        = .ok c ∧
      ∀ store, Device.acceptAll 2 (c.stream.ahead.length + 1) c store
        = .ok (Store.accept 2 ps store).1 (Store.accept 2 ps store).2) ∧
    (final (handle { samplePatch with topic := "other" } sampleSession)).transport
      = sampleSession.transport := by
  refine ⟨?_, ?_, ?_⟩
  · have houtcome : outcome (handle truncatedPatch sampleSession) = .error (.property
        (.malformedDocument (.text ⟨.endInObject, 1, 24⟩))) := by decide +kernel
    cases h : handle truncatedPatch sampleSession with
    | ok _ s' => rw [h] at houtcome; cases houtcome
    | error e s' =>
      rw [h] at houtcome
      cases houtcome
      exact ⟨_, s', rfl, (handle_whole truncatedPatch sampleSession).1 _ s' h (by simp)⟩
  · obtain ⟨c, ps, hcursor, -, hall⟩ := (handle_whole samplePatch sampleSession).2.1 .desiredPatch 2
      rfl (by decide +kernel)
    exact ⟨c, ps, hcursor, hall⟩
  · exact ((handle_whole { samplePatch with topic := "other" } sampleSession).2.2
      (.inl (by decide +kernel))).2

end DeviceTwin.Session
