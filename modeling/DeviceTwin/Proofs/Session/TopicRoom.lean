import DeviceTwin.Decimal.Power
import DeviceTwin.Proofs.Json.Scalars
import DeviceTwin.Proofs.Session.Redelivery
import DeviceTwin.Proofs.Session.Requests
import DeviceTwin.Settings

/-!
# Room for topics

A topic is as long as the root, the operation and the number of the request make it, and the room
for it is the same under all settings. A device that has started had room for the topic under which
it asked for the document. The topic of a patch is longer, so that under a long root a device can
start and take up documents and still has no room to acknowledge them.

Results:
* `size_documentGet`, `size_reportedPatch`: how long topics are.
* `fits_of_start`: what is known of a device that has started.
* `published_of_revision`: what is published for a document, whether or not its topic fits.
* `acknowledged_behind_start`: which documents are acknowledged behind a start.
* `started_and_silent`: a device that has started and acknowledges nothing.
-/
namespace DeviceTwin

open Attempt (final)

/-! ## The lengths of topics -/

/-- Characters below `0x80` have one byte. -/
theorem Utf8.length_encode_ascii {cs : List Char} (h : ∀ c ∈ cs, c.toNat < 0x80) :
    (encode cs).length = cs.length := by
  induction cs with
  | nil => rfl
  | cons c cs ih =>
    have hc : c.toNat < 0x80 := h c List.mem_cons_self
    have hrest := ih fun c' hc' => h c' (List.mem_cons_of_mem _ hc')
    rw [encode_cons, Json.encodeChar_ascii hc]
    simp [hrest]

theorem Utf8.length_ofText_append (a b : String) :
    (ofText (a ++ b)).length = (ofText a).length + (ofText b).length := by
  unfold ofText
  simp

namespace Integer

theorem length_ofNat (n : Nat) : (Utf8.ofText (ofNat n)).length = (natural n).length := by
  unfold Utf8.ofText ofNat
  rw [String.toList_ofList]
  apply Utf8.length_encode_ascii
  intro c hc
  have hdigit := isDigit_of_mem_natural hc
  simp only [Char.isDigit, Bool.and_eq_true, decide_eq_true_eq, UInt32.le_iff_toNat_le] at hdigit
  have hle : c.toNat ≤ 57 := hdigit.2
  omega

/-- A number below a power of ten has no more digits than this has zeros. -/
theorem length_natural_le {n e : Nat} (he : 0 < e) (h : n < tenPow e) :
    (natural n).length ≤ e := by
  induction e generalizing n with
  | zero => omega
  | succ e ih =>
    have hpow : tenPow (e + 1) = tenPow e * 10 := rfl
    unfold natural
    split
    · simp
    · have hpos : 0 < e := by
        by_contra hzero
        have hone : tenPow e = 1 := by
          rw [Nat.eq_zero_of_not_pos hzero]
          rfl
        omega
      have hrest := ih hpos (n := n / 10) (by omega)
      simp only [List.length_append, List.length_singleton]
      omega

end Integer

namespace TopicScheme

variable (s : TopicScheme) (n : Nat)

theorem size_numbered {request : Request} {before : String}
    (h : operation (Integer.ofNat n) request = before ++ Integer.ofNat n) :
    (Utf8.ofText (s.numbered request n)).length
      = (Utf8.ofText s.root).length + (Integer.natural n).length
        + (Utf8.ofText ("/twin" ++ before)).length := by
  unfold numbered base
  rw [h]
  simp only [Utf8.length_ofText_append, Integer.length_ofNat]
  ac_rfl

theorem size_documentGet : (Utf8.ofText (s.numbered .documentGet n)).length
    = (Utf8.ofText s.root).length + (Integer.natural n).length + 16 := by
  have hbefore : (Utf8.ofText ("/twin" ++ ("/GET/?" ++ idKey ++ "="))).length = 16 := by
    decide +kernel
  rw [s.size_numbered n rfl, hbefore]

theorem size_reportedPatch : (Utf8.ofText (s.numbered .reportedPatch n)).length
    = (Utf8.ofText s.root).length + (Integer.natural n).length + 38 := by
  have hbefore : (Utf8.ofText ("/twin" ++ ("/PATCH/properties/reported/?" ++ idKey ++ "="))).length
      = 38 := by
    decide +kernel
  rw [s.size_numbered n rfl, hbefore]

end TopicScheme

theorem Settings.topicCapacity_of_variables {digits : String} {lookup : String → Option String}
    {settings : Settings} (h : ofVariables digits lookup = .ok settings) :
    settings.topicCapacity = 128 := by
  unfold ofVariables at h
  simp only [bind, Except.bind] at h
  split at h
  · cases h
  split at h
  · cases h
  split at h
  · cases h
  · cases h
    rfl

namespace Session

variable {τ : Type} [Transport τ]

/-! ## Starts and documents -/

theorem fits_of_start {s s' : Session τ} (h : start s = .ok () s') : s.TopicFits .documentGet := by
  obtain ⟨t, t', -, -, ⟨e, heq⟩ | ⟨e, heq⟩ | heq⟩ := start_cases s
  · rw [heq] at h
    cases h
  · rw [heq] at h
    cases h
  · rw [heq, publish_eq] at h
    split at h
    · next hfits => exact hfits
    · cases h

theorem reachable_of_leads {scheme : TopicScheme} {registry : ComponentRegistry}
    {topicCapacity payloadCapacity : Nat} {s t : Session (Noted τ)}
    (h : Reachable scheme registry topicCapacity payloadCapacity s) (hlater : Leads s t) :
    Reachable scheme registry topicCapacity payloadCapacity t := by
  induction hlater with
  | refl => exact h
  | after act _ ih => exact .after act ih
  | transported inner _ ih => exact .transported inner ih

/-- What is published for a document, whether or not its topic fits. -/
theorem published_of_revision {s : Session (Noted τ)} {m : Message} {r : Revision}
    (h : Arrives m s) (hr : s.device.revision? m = some r) :
    (after .poll s).transport.published = s.transport.published ++
      if s.device.fresh r ≠ [] ∧
        (ackPayload r.version (s.device.fresh r)).length ≤ s.device.payloadCapacity ∧
        s.TopicFits .reportedPatch
      then [s.patchNote (ackPayload r.version (s.device.fresh r))] else [] := by
  obtain ⟨t, warnings, ht, haccepts, heq⟩ := after_of_arrival h
  rw [heq, ← ht]
  rcases handle_cases m { s with transport := t } with ⟨hnone, -⟩ | ⟨r', pending, hr', hhandle⟩
  · rw [show s.device.revision? m = none from hnone] at hr
    cases hr
  · rw [show s.device.revision? m = some r' from hr'] at hr
    cases hr
    rw [hhandle]
    exact published_acknowledge r.version (s.device.fresh r)
      (s := (({ s with transport := t }).answered pending s.warnings).holding
        (s.device.store.absorb r)) haccepts

/-- A document arrives of which something is accepted, and the text that acknowledges it fits. -/
structure Acknowledgeable (m : Message) (r : Revision) (s : Session (Noted τ)) : Prop
    extends Arrives m s where
  revision : s.device.revision? m = some r
  accepted : s.device.fresh r ≠ []
  fits : (ackPayload r.version (s.device.fresh r)).length ≤ s.device.payloadCapacity

/-- A device with the settings of any variables has started, and behind this, in any run, a document
arrives of which something is accepted, and the text that acknowledges it fits. Then the text is
published, under the topic of a patch, exactly where the root and the digits of the next number have
at most 90 bytes together. From the start it is only known that the root and the digits of its number
have at most 112. A root of 70 bytes leaves room for every number. -/
theorem acknowledged_behind_start {digits : String} {lookup : String → Option String}
    {settings : Settings} (hsettings : Settings.ofVariables digits lookup = .ok settings)
    {s s' t : Session (Noted τ)}
    (hs : Reachable settings.scheme settings.components settings.topicCapacity
      settings.payloadCapacity s)
    (hstart : start s = .ok () s') (hlater : Leads s' t)
    {m : Message} {r : Revision} (hdocument : Acknowledgeable m r t) :
    let root := (Utf8.ofText settings.scheme.root).length
    let digitsOf (n : Nat) := (Integer.natural n).length
    let note := (settings.scheme.numbered .reportedPatch t.device.nextRequest,
      ackPayload r.version (t.device.fresh r), QoS.atLeastOnce)
    root + digitsOf s.device.nextRequest ≤ 112 ∧
    (after .poll t).transport.published = t.transport.published ++
      (if root + digitsOf t.device.nextRequest ≤ 90 then [note] else []) ∧
    (root ≤ 70 → t.device.nextRequest ≤ Device.maxNumber →
      (after .poll t).transport.published = t.transport.published ++ [note]) := by
  intro root digitsOf note
  have hcapacity := Settings.topicCapacity_of_variables hsettings
  have hbehind : after .start s = s' := by
    rw [after, Act.perform, hstart]
    rfl
  have hs' := Reachable.after .start hs
  rw [hbehind] at hs'
  obtain ⟨hscheme, -, hroom, -⟩ := settings_of_reachable hs
  obtain ⟨hscheme', -, hroom', -⟩ := settings_of_reachable (reachable_of_leads hs' hlater)
  have hget : root + digitsOf s.device.nextRequest + 16 ≤ 128 := by
    have hfits := fits_of_start hstart
    unfold TopicFits nextTopic at hfits
    rw [TopicScheme.size_documentGet, hscheme, hroom, hcapacity] at hfits
    exact hfits
  have hpatch : t.TopicFits .reportedPatch ↔ root + digitsOf t.device.nextRequest + 38 ≤ 128 := by
    unfold TopicFits nextTopic
    rw [TopicScheme.size_reportedPatch, hscheme', hroom', hcapacity]
  have hpublished : (after .poll t).transport.published = t.transport.published ++
      (if root + digitsOf t.device.nextRequest ≤ 90 then [note] else []) := by
    rw [published_of_revision hdocument.toArrives hdocument.revision, patchNote, nextTopic, hscheme']
    by_cases hfits : root + digitsOf t.device.nextRequest ≤ 90
    · rw [if_pos hfits, if_pos ⟨hdocument.accepted, hdocument.fits, hpatch.2 (by omega)⟩]
    · rw [if_neg hfits, if_neg]
      intro hall
      have hlength := hpatch.1 hall.2.2
      omega
  refine ⟨by omega, hpublished, fun hshort hnumber => ?_⟩
  have hdigits : digitsOf t.device.nextRequest ≤ 20 := by
    apply Integer.length_natural_le (by omega)
    have hmax : Device.maxNumber < tenPow 20 := by decide
    omega
  rw [hpublished, if_pos (by omega)]

/-! ## A short root and a long one -/

/-- The variables that give a root and nothing else. -/
def rooted (root : String) (name : String) : Option String :=
  if name = "PNP_TWIN_TOPIC_PREFIX" then some root else none

def settingsUnder (root : String) : Settings :=
  { Settings.standard (Settings.randomId "0") with scheme := ⟨root⟩ }

theorem settingsUnder_of_variables (root : String) :
    Settings.ofVariables "0" (rooted root) = .ok (settingsUnder root) := rfl

def patchUnder (root : String) : Message where
  topic := root ++ "/twin/PATCH/properties/desired/?$version=1"
  payload :=
    (Json.Value.object [("a", .number (.integer 1)), ("$version", .number (.integer 1))]).bytes

/-- A device with these settings in front of a patch. -/
def openedUnder (root : String) : Session (Noted Loopback) :=
  ofDevice (settingsUnder root).device
    (Noted.fresh { Loopback.empty with inbound := [patchUnder root] })

def startedUnder (root : String) : Session (Noted Loopback) := after .start (openedUnder root)

theorem start_openedUnder {root : String}
    (h : Attempt.failure? (start (openedUnder root)) = none) :
    start (openedUnder root) = .ok () (startedUnder root) :=
  Attempt.eq_ok_of_failure? h

/-- What is to be found out about it: the patch is what comes next, it is a document, and something
of it is accepted and fits. -/
abbrev ShowsPatch (root : String) : Prop :=
  let s := startedUnder root
  let m := patchUnder root
  Act.poll.message? s = some m ∧ s.device.route? m = some .desiredPatch ∧
    (final (Transport.receive s.transport.inner)).refusePublish = false ∧
    ∃ r ∈ s.device.revision? m, s.device.fresh r ≠ [] ∧
      (ackPayload r.version (s.device.fresh r)).length ≤ s.device.payloadCapacity

theorem ShowsPatch.acknowledgeable {root : String} (h : ShowsPatch root) :
    ∃ r, Acknowledgeable (patchUnder root) r (startedUnder root) := by
  obtain ⟨hmessage, hroute, haccepts, r, hr, hfresh, hfits⟩ := h
  exact ⟨r, ⟨hmessage, ⟨_, hroute, rfl⟩, accepts_loopback haccepts⟩, hr, hfresh, hfits⟩

theorem acknowledged_behind_start_sample :
    ∃ r, (startedUnder "plant").device.revision? (patchUnder "plant") = some r ∧
      (after .poll (startedUnder "plant")).transport.published
        = (startedUnder "plant").transport.published ++
          [("plant/twin/PATCH/properties/reported/?$rid=2",
            ackPayload r.version ((startedUnder "plant").device.fresh r), .atLeastOnce)] := by
  have hs : Reachable (settingsUnder "plant").scheme (settingsUnder "plant").components
      (settingsUnder "plant").topicCapacity (settingsUnder "plant").payloadCapacity
      (openedUnder "plant") := Reachable.opened _
  have hstart : start (openedUnder "plant") = .ok () (startedUnder "plant") :=
    start_openedUnder (by decide +kernel)
  have hshows : ShowsPatch "plant" := by decide +kernel
  obtain ⟨r, hdocument⟩ := hshows.acknowledgeable
  obtain ⟨-, -, hpublished⟩ := acknowledged_behind_start (settingsUnder_of_variables "plant") hs
    hstart .refl hdocument
  have htopic : (settingsUnder "plant").scheme.numbered .reportedPatch
      (startedUnder "plant").device.nextRequest
      = "plant/twin/PATCH/properties/reported/?$rid=2" := by decide +kernel
  rw [htopic] at hpublished
  exact ⟨r, hdocument.revision, hpublished (by decide +kernel) (by decide +kernel)⟩

def longRoot : String := String.ofList (List.replicate 90 'p')

/-- Under a long root a device starts, over a transport that takes all that is published. Then a
patch arrives of which a property is accepted, the text that acknowledges it fits, and nothing is
published. -/
theorem started_and_silent :
    Settings.ofVariables "0" (rooted longRoot) = .ok (settingsUnder longRoot) ∧
    start (openedUnder longRoot) = .ok () (startedUnder longRoot) ∧
    (∃ r, Acknowledgeable (patchUnder longRoot) r (startedUnder longRoot)) ∧
    (after .poll (startedUnder longRoot)).transport.published
      = (startedUnder longRoot).transport.published ∧
    (after .poll (startedUnder longRoot)).warnings
      = [.handlingFailed (patchUnder longRoot).topic (.insufficientBuffer 129 128)] := by
  -- The run is evaluated once for all that is needed of it.
  have hfacts : Attempt.failure? (start (openedUnder longRoot)) = none ∧ ShowsPatch longRoot ∧
      (after .poll (startedUnder longRoot)).transport.published
        = (startedUnder longRoot).transport.published ∧
      (after .poll (startedUnder longRoot)).warnings
        = [.handlingFailed (patchUnder longRoot).topic (.insufficientBuffer 129 128)] := by
    decide +kernel
  obtain ⟨hstart, hshows, hpublished, hwarnings⟩ := hfacts
  exact ⟨settingsUnder_of_variables longRoot, start_openedUnder hstart, hshows.acknowledgeable,
    hpublished, hwarnings⟩

end Session
end DeviceTwin
