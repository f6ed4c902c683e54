import DeviceTwin.Document.Payload
import DeviceTwin.Proofs.Document.Rounds
import DeviceTwin.Proofs.Document.Version

/-!
# Revisions

A payload is gone through twice, once for the version and once for the properties. A `Revision` is
what both passes find: a version with properties, each of them once. It is said by the value of the
payload alone, so a version that is found settles that the second pass succeeds as well.

Results:
* `nodup_properties`: a document names each of its properties once.
* `length_properties_le`: a document has no more properties than tokens.
* `revision?_of_payloadVersion`: behind a version that is found stands a revision, and a cursor over
  the payload yields its properties.
* `revision?_of_error`: without a version there is no revision.
-/
namespace DeviceTwin

open Json (Members Value)
open TokenStream (on)

structure Revision where
  version : Int
  properties : List (Property × Value)
  /-- Each property is named once. -/
  nodup : (properties.map Prod.fst).Nodup

namespace Document

/-! ## Properties by name -/

/-- The member of the walked object that a property stands in. -/
def memberName (p : Property) : String := p.component.getD p.name

/-- A member stands for no property, for one at the root, or for those of a component. -/
theorem memberProperties_cases (registry : ComponentRegistry) (m : String × Value) :
    memberProperties registry m = [] ∨ memberProperties registry m = [(⟨none, m.1⟩, m.2)] ∨
      ∃ inside, m.2 = .object ((Component.markerKey, .string Component.markerValue) :: inside) ∧
        memberProperties registry m = componentProperties m.1 inside := by
  unfold memberProperties
  split
  · exact .inl rfl
  split
  · split
    · next inside hinside =>
      exact .inr (.inr ⟨inside, Document.eq_object_of_componentMembers? hinside, rfl⟩)
    · exact .inr (.inl rfl)
  · exact .inr (.inl rfl)

theorem component_of_mem_componentProperties {component : String} {ms : Members}
    {q : Property × Value} (h : q ∈ componentProperties component ms) :
    q.1.component = some component :=
  (mem_componentProperties.1 h).1

theorem memberName_of_mem {registry : ComponentRegistry} {m : String × Value}
    {q : Property × Value} (h : q ∈ memberProperties registry m) : memberName q.1 = m.1 := by
  rcases memberProperties_cases registry m with heq | heq | ⟨inside, -, heq⟩ <;> rw [heq] at h
  · cases h
  · cases List.mem_singleton.1 h
    rfl
  · simp [memberName, component_of_mem_componentProperties h]

theorem nodup_componentProperties {component : String} {ms : Members}
    (h : (Members.names ms).Nodup) :
    ((componentProperties component ms).map Prod.fst).Nodup := by
  have hkept := (List.pairwise_map.1 h).sublist
    (List.filter_sublist (p := fun m => !isReserved m.1 && m.1 ≠ Component.markerKey))
  rw [componentProperties, List.map_map]
  exact List.pairwise_map.2 (hkept.imp fun hne he => hne (congrArg Property.name he))

theorem nodup_memberProperties (registry : ComponentRegistry) {m : String × Value}
    (h : m.2.Distinct) : ((memberProperties registry m).map Prod.fst).Nodup := by
  rcases memberProperties_cases registry m with heq | heq | ⟨inside, hobj, heq⟩ <;> rw [heq]
  · exact List.nodup_nil
  · exact List.pairwise_singleton _ _
  · rw [hobj, Value.distinct_object] at h
    exact nodup_componentProperties (List.nodup_cons.1 h.1).2

theorem nodup_properties (registry : ComponentRegistry) {ms : Members}
    (hn : (Members.names ms).Nodup) (hv : ∀ m ∈ ms, m.2.Distinct) :
    ((properties registry ms).map Prod.fst).Nodup := by
  induction ms with
  | nil => exact List.nodup_nil
  | cons m ms ih =>
    obtain ⟨hnew, hn⟩ := List.nodup_cons.1 hn
    rw [properties, List.flatMap_cons, List.map_append, List.nodup_append]
    refine ⟨nodup_memberProperties registry (hv m List.mem_cons_self),
      ih hn fun m hm => hv m (List.mem_cons_of_mem _ hm), fun p hp q hq he => hnew ?_⟩
    -- A property of two members would stand in members of one name.
    obtain ⟨_, hpm, rfl⟩ := List.mem_map.1 hp
    obtain ⟨_, hqms, rfl⟩ := List.mem_map.1 hq
    obtain ⟨m', hm', hqm⟩ := List.mem_flatMap.1 hqms
    have hname : m'.1 = m.1 := by
      rw [← memberName_of_mem hpm, ← memberName_of_mem hqm, he]
    rw [← hname]
    exact List.mem_map_of_mem hm'

/-! ## Properties by number -/

theorem length_memberProperties_le (registry : ComponentRegistry) (depth : Nat)
    (m : String × Value) :
    (memberProperties registry m).length ≤ (m.2.tokens depth).length := by
  have hone : 1 ≤ (m.2.tokens depth).length := by rw [Value.tokens_eq_cons]; simp
  rcases memberProperties_cases registry m with heq | heq | ⟨inside, hobj, heq⟩ <;> rw [heq]
  · exact Nat.zero_le _
  · exact hone
  · have hkept := List.length_filter_le
      (fun m => !isReserved m.1 && m.1 ≠ Component.markerKey) inside
    have hinner := length_le_memberTokens (depth + 1) inside
    rw [componentProperties, List.length_map, hobj]
    simp only [Value.tokens, Value.memberTokens, List.cons_append, List.length_cons,
      List.length_append]
    omega

theorem length_properties_le (registry : ComponentRegistry) (depth : Nat) (ms : Members) :
    (properties registry ms).length ≤ (Value.memberTokens depth ms).length := by
  induction ms with
  | nil => exact Nat.zero_le _
  | cons m ms ih =>
    obtain ⟨n, v⟩ := m
    have hm := length_memberProperties_le registry depth (n, v)
    rw [properties, List.flatMap_cons]
    simp only [Value.memberTokens, List.cons_append, List.length_cons, List.length_append]
    rw [properties] at ih
    dsimp only at hm
    omega

theorem length_memberTokens_of_get? {name : String} {inner ms : Members} (depth : Nat)
    (h : Members.get? name ms = some (.object inner)) :
    (Value.memberTokens (depth + 1) inner).length ≤ (Value.memberTokens depth ms).length := by
  induction ms with
  | nil => cases h
  | cons m ms ih =>
    obtain ⟨n, v⟩ := m
    rw [Members.get?] at h
    simp only [Value.memberTokens, List.cons_append, List.length_cons, List.length_append]
    split at h
    · cases h
      simp only [Value.tokens, List.cons_append, List.length_cons, List.length_append]
      omega
    · have := ih h
      omega

/-! ## Revisions -/

theorem distinct_of_walked? {kind : ResponseKind} {filter : PropertyFilter} {document : Value}
    {ms : Members} (hd : document.Distinct) (hw : walked? kind filter document = some ms) :
    (Value.object ms).Distinct := by
  rcases walked?_cases hw with ⟨-, rfl⟩ | ⟨-, top, rfl, hsec⟩
  · exact hd
  · exact ((Value.distinct_object top).1 hd).2 _ (Members.mem_of_get? hsec)

theorem walked?_of_versionOf {kind : ResponseKind} {document : Value} {version : Int}
    (h : versionOf kind document = .ok version) :
    ∃ ms, walked? kind .writeableOnly document = some ms := by
  unfold versionOf at h
  cases hm : document.members? with
  | none => rw [hm] at h; cases h
  | some top =>
    rw [hm] at h
    cases kind with
    | desiredPatch | reportedAck => exact ⟨top, by simp [walked?, hm]⟩
    | documentGet =>
      dsimp only at h
      cases hsec : Members.get? desiredSection top with
      | none => rw [hsec] at h; cases h
      | some desired =>
        rw [hsec] at h
        dsimp only at h
        cases hobj : desired.members? with
        | none => rw [hobj] at h; cases h
        | some inner =>
          exact ⟨inner, by simp [walked?, hm, PropertyFilter.section, hsec, hobj]⟩

def revisionOf? (registry : ComponentRegistry) (kind : ResponseKind) (document : Value)
    (hd : document.Distinct) : Option Revision :=
  match versionOf kind document, h : walked? kind .writeableOnly document with
  | .ok version, some ms =>
    have hms := (Value.distinct_object ms).1 (distinct_of_walked? hd h)
    some ⟨version, properties registry ms, nodup_properties registry hms.1 hms.2⟩
  | _, _ => none

def revision? (registry : ComponentRegistry) (kind : ResponseKind) (payload : Bytes) :
    Option Revision :=
  match h : Json.read payload with
  | .ok document => revisionOf? registry kind document (Json.distinct_of_read h)
  | .error _ => none

section Payload

variable {registry : ComponentRegistry} {kind : ResponseKind} {payload : Bytes}

theorem revision?_eq_some {r : Revision} (h : revision? registry kind payload = some r) :
    ∃ document ms, Json.read payload = .ok document ∧ versionOf kind document = .ok r.version ∧
      walked? kind .writeableOnly document = some ms ∧ r.properties = properties registry ms := by
  unfold revision? at h
  split at h
  · next document hread =>
    unfold revisionOf? at h
    split at h
    · next version ms hversion hw => cases h; exact ⟨document, ms, hread, hversion, hw, rfl⟩
    · cases h
  · cases h

theorem payloadStream_eq (payload : Bytes) :
    payloadStream payload = match Json.read payload with
      | .ok document => .ok (on (document.tokens 0))
      | .error failure => .error (.malformedDocument (.text failure)) := by
  rw [payloadStream, TokenStream.ofBytes]
  cases Json.read payload with
  | error failure => rfl
  | ok document => simp only [TokenStream.advance_ofValue]

theorem payloadVersion_eq (kind : ResponseKind) (payload : Bytes) :
    payloadVersion kind payload = match Json.read payload with
      | .ok document => versionOf kind document
      | .error failure => .error (.malformedDocument (.text failure)) := by
  rw [payloadVersion, payloadStream_eq]
  cases Json.read payload with
  | error failure => rfl
  | ok document =>
    refine Eq.trans ?_ (outcome_version kind document)
    dsimp only
    cases version kind (on (document.tokens 0)) <;> rfl

variable (registry) in
theorem revision?_of_payloadVersion {version : Int}
    (h : payloadVersion kind payload = .ok version) :
    ∃ r, revision? registry kind payload = some r ∧ r.version = version := by
  rw [payloadVersion_eq] at h
  unfold revision?
  split
  · next document hread =>
    rw [hread] at h
    obtain ⟨ms, hw⟩ := walked?_of_versionOf h
    unfold revisionOf?
    split
    · next version' ms' hversion _ =>
      cases h.symm.trans hversion
      exact ⟨_, rfl, rfl⟩
    · next hno => exact absurd hw (hno version ms h)
  · next failure hread => rw [hread] at h; cases h

theorem revision?_of_error {e : PropertyError} (h : payloadVersion kind payload = .error e) :
    revision? registry kind payload = none := by
  cases hr : revision? registry kind payload with
  | none => rfl
  | some r =>
    obtain ⟨document, ms, hread, hversion, -⟩ := revision?_eq_some hr
    rw [payloadVersion_eq, hread] at h
    exact absurd (hversion.symm.trans h) (by simp)

theorem yields_of_read {document : Value} {ms : Members} (hk : kind.hasDocument = true)
    (hread : Json.read payload = .ok document)
    (hw : walked? kind .writeableOnly document = some ms) :
    ∃ c stop, payloadCursor kind .writeableOnly registry payload = .ok c ∧
      Cursor.Yields stop (Cursor.nextProperty c) (properties registry ms) ∧
      (properties registry ms).length ≤ c.stream.ahead.length := by
  have hstart : Cursor.start (on (document.tokens 0)) registry kind .writeableOnly
      = .ok ⟨on (document.tokens 0), registry, kind, .writeableOnly, .start, none, 1⟩ := by
    rw [Cursor.start, if_neg (by simp [hk]), if_neg (by simp)]
  obtain ⟨rest, hy⟩ := Cursor.yields_nextProperty (Json.distinct_of_read hread) hstart hw
  refine ⟨_, _, by rw [payloadCursor, payloadStream_eq, hread]; exact hstart, hy, ?_⟩
  have hall : ∃ top, document = .object top ∧
      (properties registry ms).length ≤ (Value.memberTokens 1 top).length := by
    rcases walked?_cases hw with ⟨-, htop⟩ | ⟨-, top, htop, hsec⟩
    · exact ⟨ms, htop, length_properties_le registry 1 ms⟩
    · exact ⟨top, htop, Nat.le_trans (length_properties_le registry 2 ms)
        (length_memberTokens_of_get? 1 hsec)⟩
  obtain ⟨top, rfl, hall⟩ := hall
  simp only [TokenStream.length_ahead_on, Value.tokens, List.cons_append, List.length_cons,
    List.length_append, Nat.zero_add]
  omega

/-- Of a revision the first pass finds the version, and a cursor yields the properties. -/
theorem yields_of_revision? {r : Revision} (hk : kind.hasDocument = true)
    (h : revision? registry kind payload = some r) :
    payloadVersion kind payload = .ok r.version ∧
    ∃ c stop, payloadCursor kind .writeableOnly registry payload = .ok c ∧
      Cursor.Yields stop (Cursor.nextProperty c) r.properties ∧
      r.properties.length ≤ c.stream.ahead.length := by
  obtain ⟨document, ms, hread, hversion, hw, hps⟩ := revision?_eq_some h
  refine ⟨by rw [payloadVersion_eq, hread]; exact hversion, ?_⟩
  rw [hps]
  exact yields_of_read hk hread hw

end Payload

end Document
end DeviceTwin
