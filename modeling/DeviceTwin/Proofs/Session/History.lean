import DeviceTwin.Proofs.Session.Runs
import DeviceTwin.Transport.Loopback

/-!
# The store behind a run

Whatever a device receives, and in whatever order, its store is the view of the latest versions.
What the device sends, and whether that fits, has no part in it.

Results:
* `revisions_of_patches`: without answers to document requests, the revisions are those of the
  patches.
* `store_of_run`: the store behind a run, by the revisions that the run received.
-/
namespace DeviceTwin

def TopicScheme.isPatch (scheme : TopicScheme) (m : Message) : Bool :=
  match scheme.classify m.topic with
  | .ok (some response) => response.kind = .desiredPatch
  | _ => false

/-- A message that is not taken for a whole document brings the same revision to any state of a
device: that of a patch, or none. -/
theorem Device.revision?_of_ne_documentGet {d : Device} {m : Message}
    (h : d.route? m ≠ some .documentGet) :
    d.revision? m = if d.scheme.isPatch m then Document.revision? d.registry .desiredPatch m.payload
      else none := by
  unfold Device.route? at h
  unfold Device.revision? Device.route? TopicScheme.isPatch
  cases hclassify : d.scheme.classify m.topic with
  | error e => rfl
  | ok answer =>
    cases answer with
    | none => rfl
    | some response =>
      obtain ⟨kind, id, status, version⟩ := response
      rw [hclassify] at h
      dsimp only at h ⊢
      cases kind with
      | desiredPatch => simp [Device.effectiveKind, ResponseKind.hasDocument]
      | reportedAck => simp [Device.effectiveKind, ResponseKind.hasDocument]
      | documentGet =>
        -- It is taken for the answer to a patch, since a whole document is excluded.
        rw [Device.effectiveKind] at h ⊢
        split at h
        · next hpatch => simp [hpatch, ResponseKind.hasDocument]
        · exact absurd rfl h

namespace Session

open Attempt (final)

section Patches

variable {τ : Type} [Transport τ]

def patches (scheme : TopicScheme) (acts : List Act) (s : Session τ) : List Message :=
  ((arrivals acts s).map Prod.fst).filter scheme.isPatch

theorem settings_of_mem_arrivals {acts : List Act} {s : Session τ} {a : Message × Device}
    (h : a ∈ arrivals acts s) :
    a.2.scheme = s.device.scheme ∧ a.2.registry = s.device.registry := by
  induction acts generalizing s with
  | nil => cases h
  | cons act acts ih =>
    rcases List.mem_append.1 h with h | h
    · obtain ⟨m, -, rfl⟩ := Option.map_eq_some_iff.1 (Option.mem_toList.1 h)
      exact ⟨rfl, rfl⟩
    · obtain ⟨hscheme, hregistry⟩ := ih h
      obtain ⟨n, pending, -, heq⟩ := becomes_after act s
      rw [heq] at hscheme hregistry
      exact ⟨hscheme, hregistry⟩

/-- Without answers to document requests, the revisions are those of the patches. -/
theorem revisions_of_patches {acts : List Act} {s : Session τ}
    (h : ∀ a ∈ arrivals acts s, a.2.route? a.1 ≠ some .documentGet) :
    revisions acts s = (patches s.device.scheme acts s).filterMap fun m =>
      Document.revision? s.device.registry .desiredPatch m.payload := by
  have hall : ∀ a ∈ arrivals acts s, a.2.revision? a.1
      = if s.device.scheme.isPatch a.1 then
          Document.revision? s.device.registry .desiredPatch a.1.payload
        else none := by
    intro a ha
    obtain ⟨hscheme, hregistry⟩ := settings_of_mem_arrivals ha
    rw [Device.revision?_of_ne_documentGet (h a ha), hscheme, hregistry]
  rw [revisions, List.filterMap_congr hall, patches, List.filterMap_filter, List.filterMap_map]
  rfl

/-- Patches of different versions bring revisions of different versions. -/
theorem distinct_of_patches {registry : ComponentRegistry} {ms : List Message}
    (h : ms.Pairwise fun m n => ∀ v w, Document.payloadVersion .desiredPatch m.payload = .ok v →
      Document.payloadVersion .desiredPatch n.payload = .ok w → v ≠ w) :
    (ms.filterMap fun m => Document.revision? registry .desiredPatch m.payload).Pairwise
      fun x y => x.version ≠ y.version := by
  refine List.pairwise_filterMap.2 (h.imp fun {m n} hmn x hx y hy => ?_)
  exact hmn x.version y.version (Document.yields_of_revision? rfl hx).1
    (Document.yields_of_revision? rfl hy).1

end Patches

/-- The store behind any run over any transport. It holds a property if some document with a version
carried it, and then what the document of the greatest version said of it, the last one of those
that share it. The version that is stored with a property never decreases. Another run of such a
device, over another transport and with other room for topics and payloads, ends with the same store
if it receives the same patches in any order, as long as their versions differ and no run receives a
whole document. -/
theorem store_of_run {τ τ' : Type} [Transport τ] [Transport τ'] (scheme : TopicScheme)
    (registry : ComponentRegistry) (topicCapacity payloadCapacity : Nat) (transport : τ)
    (acts : List Act) :
    let s := opened scheme registry topicCapacity payloadCapacity transport
    let store := (afterAll acts s).device.store
    (∀ p, (store.get? p).isSome = true ↔ ∃ r ∈ revisions acts s, r.Carries p) ∧
    (∀ p e, store.get? p = some e ↔
      ∃ r v, Revision.Latest (revisions acts s) p r v ∧ e = ⟨p, v, r.version⟩) ∧
    (∀ p e more, store.get? p = some e →
      ∃ e', (afterAll (acts ++ more) s).device.store.get? p = some e' ∧ e.version ≤ e'.version) ∧
    ∀ (topicCapacity' payloadCapacity' : Nat) (transport' : τ') (acts' : List Act),
      let s' := opened scheme registry topicCapacity' payloadCapacity' transport'
      (∀ a ∈ arrivals acts s, a.2.route? a.1 ≠ some .documentGet) →
      (∀ a ∈ arrivals acts' s', a.2.route? a.1 ≠ some .documentGet) →
      (patches scheme acts s).Perm (patches scheme acts' s') →
      ((patches scheme acts s).Pairwise fun m n => ∀ v w,
        Document.payloadVersion .desiredPatch m.payload = .ok v →
        Document.payloadVersion .desiredPatch n.payload = .ok w → v ≠ w) →
      (afterAll acts' s').device.store = store := by
  intro s store
  have hstore : store = Store.absorbAll (revisions acts s) .empty := store_afterAll acts s
  refine ⟨fun p => ?_, fun p e => ?_, fun p e more h => ?_, ?_⟩
  · rw [hstore]
    exact Store.isSome_get?_absorbAll _ p
  · rw [hstore]
    exact Store.get?_absorbAll _ p e
  · rw [afterAll_append, store_afterAll]
    exact Store.le_version_absorbAll _ h
  · intro topicCapacity' payloadCapacity' transport' acts' s' hget hget' hperm hdistinct
    have hstore' : (afterAll acts' s').device.store = Store.absorbAll (revisions acts' s') .empty :=
      store_afterAll acts' s'
    rw [hstore', hstore, revisions_of_patches hget, revisions_of_patches hget']
    exact (Store.absorbAll_eq_of_perm (hperm.filterMap _) (distinct_of_patches hdistinct)).symm

def fanPatch (on : Bool) (version : Int) : Message where
  topic := "$iothub/twin/PATCH/properties/desired/?$version=1"
  payload :=
    (Json.Value.object [("fan", .bool on), ("$version", .number (.integer version))]).bytes

/-- A device whose acknowledgements never fit, in front of these messages. -/
def sampleRun (inbound : List Message) : Session Loopback :=
  opened ⟨TopicScheme.standardRoot⟩ .empty 64 0 { Loopback.empty with inbound := inbound }

theorem store_of_run_sample :
    let s := sampleRun [fanPatch true 7, fanPatch false 4]
    let s' := sampleRun [fanPatch false 4, fanPatch true 7]
    let store := (afterAll [.start, .poll, .poll] s).device.store
    store.get? ⟨none, "fan"⟩ = some ⟨⟨none, "fan"⟩, .bool true, 7⟩ ∧
      (afterAll [.poll, .poll] s').device.store = store := by
  intro s s' store
  obtain ⟨-, -, -, horder⟩ := @store_of_run Loopback Loopback _ _ ⟨TopicScheme.standardRoot⟩ .empty
    64 0 { Loopback.empty with inbound := [fanPatch true 7, fanPatch false 4] }
    [.start, .poll, .poll]
  refine ⟨by decide +kernel, horder 64 0 _ [.poll, .poll] (by decide +kernel) (by decide +kernel)
    (by decide +kernel) ?_⟩
  have hpatches : patches ⟨TopicScheme.standardRoot⟩ [.start, .poll, .poll] s
      = [fanPatch true 7, fanPatch false 4] := by decide +kernel
  have hnewer : Document.payloadVersion .desiredPatch (fanPatch true 7).payload = .ok 7 := by
    decide +kernel
  have holder : Document.payloadVersion .desiredPatch (fanPatch false 4).payload = .ok 4 := by
    decide +kernel
  show (patches ⟨TopicScheme.standardRoot⟩ [.start, .poll, .poll] s).Pairwise _
  rw [hpatches]
  refine List.pairwise_pair.2 fun v w hv hw => ?_
  rw [hnewer] at hv
  rw [holder] at hw
  cases hv
  cases hw
  decide

end Session
end DeviceTwin
