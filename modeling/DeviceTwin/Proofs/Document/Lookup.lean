import DeviceTwin.Proofs.Document.Version

/-!
# The version by the members of a document

The version pass goes over tokens, yet its answer is decided by the members of one object alone: of
the document itself, or of its desired section where the whole document was asked for. Names are
different within an object, so it does not matter where a member stands.

Results:
* `versionAnswer_versionOf`, `VersionAnswer.unique`: a document has one answer.
* `version_by_members`: the version pass gives this answer, which depends on nothing but the member
  `$version` of the object that names the version.
-/
namespace DeviceTwin

open Json (Members Value)
open Attempt (outcome)

namespace Document

/-! ## The object that names the version -/

/-- The members of the object in which a document names its version. -/
inductive NamesVersion : ResponseKind → Value → Members → Prop where
  | itself {kind : ResponseKind} {ms : Members} (hk : kind ≠ .documentGet) :
      NamesVersion kind (.object ms) ms
  | desired {top ms : Members} (h : (desiredSection, .object ms) ∈ top) :
      NamesVersion .documentGet (.object top) ms

/-- Whether a value is an integer of 64 bits with a sign. -/
def IsInteger (v : Value) (n : Int) : Prop :=
  v = .number (.integer n) ∧ Json.Number.minSigned ≤ n ∧ n ≤ Json.Number.maxSigned

/-- What a document answers to one who asks for its version. -/
inductive VersionAnswer : ResponseKind → Value → Except PropertyError Int → Prop where
  | noObject {kind : ResponseKind} {document : Value} (h : document.members? = none) :
      VersionAnswer kind document (.error (.invalidState .notAtDocument))
  | noSection {top : Members} (h : desiredSection ∉ Members.names top) :
      VersionAnswer .documentGet (.object top) (.error .versionNotFound)
  | sectionNoObject {top : Members} {v : Value} (h : (desiredSection, v) ∈ top)
      (hv : v.members? = none) : VersionAnswer .documentGet (.object top)
        (.error (.malformedDocument (.sectionNotObject desiredSection)))
  | noVersion {kind : ResponseKind} {document : Value} {ms : Members}
      (h : NamesVersion kind document ms) (hno : versionKey ∉ Members.names ms) :
      VersionAnswer kind document (.error .versionNotFound)
  | version {kind : ResponseKind} {document : Value} {ms : Members} {v : Value} {n : Int}
      (h : NamesVersion kind document ms) (hmem : (versionKey, v) ∈ ms) (hv : IsInteger v n) :
      VersionAnswer kind document (.ok n)
  | noInteger {kind : ResponseKind} {document : Value} {ms : Members} {v : Value}
      (h : NamesVersion kind document ms) (hmem : (versionKey, v) ∈ ms)
      (hv : ∀ n, ¬ IsInteger v n) :
      VersionAnswer kind document (.error (.malformedDocument .versionNotInteger))

/-! ## One answer -/

/-- A member `$version` answers as an integer or as something else. -/
theorem versionAmong_of_get? {ms : Members} {v : Value}
    (h : Members.get? versionKey ms = some v) :
    (∃ n, IsInteger v n ∧ versionAmong ms = .ok n) ∨
      (∀ n, ¬ IsInteger v n) ∧
        versionAmong ms = .error (.malformedDocument .versionNotInteger) := by
  unfold versionAmong
  rw [h]
  cases v with
  | number number =>
    cases number with
    | integer n =>
      by_cases hrange : Json.Number.minSigned ≤ n ∧ n ≤ Json.Number.maxSigned
      · refine .inl ⟨n, ⟨rfl, hrange⟩, ?_⟩
        simp only [Json.Number.signed?, if_pos hrange]
      · refine .inr ⟨?_, by simp only [Json.Number.signed?, if_neg hrange]⟩
        rintro k ⟨hk, hrange'⟩
        cases hk
        exact hrange hrange'
    | double word => exact .inr ⟨(fun _ hn => by cases hn.1), rfl⟩
  | null | bool _ | string _ | array _ | object _ =>
    exact .inr ⟨(fun _ hn => by cases hn.1), rfl⟩

theorem NamesVersion.answer {kind : ResponseKind} {document : Value} {ms : Members}
    (h : NamesVersion kind document ms) : VersionAnswer kind document (versionAmong ms) := by
  cases hg : Members.get? versionKey ms with
  | none =>
    rw [versionAmong, hg]
    exact .noVersion h (Members.not_mem_of_get? hg)
  | some v =>
    have hmem := Members.mem_of_get? hg
    rcases versionAmong_of_get? hg with ⟨n, hv, heq⟩ | ⟨hv, heq⟩ <;> rw [heq]
    · exact .version h hmem hv
    · exact .noInteger h hmem hv

theorem versionAnswer_versionOf (kind : ResponseKind) (document : Value) :
    VersionAnswer kind document (versionOf kind document) := by
  cases document with
  | null | bool _ | number _ | string _ | array _ => exact .noObject rfl
  | object top =>
    cases kind with
    | desiredPatch | reportedAck => exact (NamesVersion.itself (by simp)).answer
    | documentGet =>
      simp only [versionOf, Value.members?]
      cases hg : Members.get? desiredSection top with
      | none => exact .noSection (Members.not_mem_of_get? hg)
      | some desired =>
        have hmem := Members.mem_of_get? hg
        cases desired with
        | object ms => exact (NamesVersion.desired hmem).answer
        | null | bool _ | number _ | string _ | array _ => exact .sectionNoObject hmem rfl

section Distinct

variable {kind : ResponseKind} {document : Value} (hd : document.Distinct)

include hd

theorem NamesVersion.nodup {ms : Members} (h : NamesVersion kind document ms) :
    (Members.names ms).Nodup := by
  cases h with
  | itself _ => exact ((Value.distinct_object ms).1 hd).1
  | desired h =>
    have hms := ((Value.distinct_object _).1 hd).2 _ h
    exact ((Value.distinct_object ms).1 hms).1

theorem NamesVersion.versionOf_eq {ms : Members} (h : NamesVersion kind document ms) :
    versionOf kind document = versionAmong ms := by
  cases h with
  | itself hk =>
    cases kind with
    | documentGet => exact absurd rfl hk
    | desiredPatch | reportedAck => rfl
  | desired h =>
    have hg := Members.get?_of_mem ((Value.distinct_object _).1 hd).1 h
    simp [versionOf, Value.members?, hg]

theorem VersionAnswer.unique {r : Except PropertyError Int} (h : VersionAnswer kind document r) :
    versionOf kind document = r := by
  cases h with
  | noObject h => simp [versionOf, h]
  | noSection h =>
    have hg := Members.get?_eq_none_iff.2 h
    simp [versionOf, Value.members?, hg]
  | @sectionNoObject top v h hv =>
    have hg := Members.get?_of_mem ((Value.distinct_object _).1 hd).1 h
    have hobject : (Value.object top).members? = some top := rfl
    simp only [versionOf, hobject, hg, hv]
  | noVersion h hno =>
    rw [h.versionOf_eq hd, versionAmong, Members.get?_eq_none_iff.2 hno]
  | version h hmem hv =>
    rw [h.versionOf_eq hd]
    have hg := Members.get?_of_mem (h.nodup hd) hmem
    rcases versionAmong_of_get? hg with ⟨k, hk, heq⟩ | ⟨hno, -⟩
    · have hkn := hk.1.symm.trans hv.1
      cases hkn
      exact heq
    · exact absurd hv (hno _)
  | noInteger h hmem hno =>
    rw [h.versionOf_eq hd]
    have hg := Members.get?_of_mem (h.nodup hd) hmem
    rcases versionAmong_of_get? hg with ⟨k, hk, -⟩ | ⟨-, heq⟩
    · exact absurd hk (hno k)
    · exact heq

end Distinct

/-- The version pass over a document, from its first token on. It gives the answer that the members
of the document have, and there is one. Two documents give the same answer where the objects that
name their versions agree on the member `$version`, whatever else stands in these objects or around
them, and in whichever order. -/
theorem version_by_members (kind : ResponseKind) (document : Value) (hd : document.Distinct) :
    ∃ s, TokenStream.advance (TokenStream.ofValue document) = .ok () s ∧
      (∀ r, outcome (version kind s) = r ↔ VersionAnswer kind document r) ∧
      ∀ document' s' ms ms', document'.Distinct →
        TokenStream.advance (TokenStream.ofValue document') = .ok () s' →
        NamesVersion kind document ms → NamesVersion kind document' ms' →
        (∀ v, (versionKey, v) ∈ ms ↔ (versionKey, v) ∈ ms') →
        outcome (version kind s') = outcome (version kind s) := by
  have hadvance : ∀ document : Value, TokenStream.advance (TokenStream.ofValue document)
      = .ok () (TokenStream.on (document.tokens 0)) := fun document =>
    TokenStream.advance_ok (by rw [Value.tokens_eq_cons]; simp)
  refine ⟨_, hadvance document, fun r => ?_, fun document' s' ms ms' hd' hs' h h' hsame => ?_⟩
  · rw [outcome_version]
    constructor
    · rintro rfl
      exact versionAnswer_versionOf kind document
    · exact VersionAnswer.unique hd
  · rw [hadvance document'] at hs'
    cases hs'
    have hget : Members.get? versionKey ms' = Members.get? versionKey ms := by
      refine Option.ext fun v => ?_
      rw [Members.get?_eq_some_iff (h'.nodup hd'), Members.get?_eq_some_iff (h.nodup hd), hsame]
    rw [outcome_version, outcome_version, h.versionOf_eq hd, h'.versionOf_eq hd', versionAmong,
      versionAmong, hget]

/-- A whole document with a version at every place but one that does not count. -/
def decoyDocument : Value :=
  .object [("$version", .number (.integer 1)),
    ("reported", .object [("$version", .number (.integer 2))]),
    ("desired", .object [("list", .array [.object [("$version", .null)]]),
      ("heater", .object [("__t", .string "c"), ("$version", .number (.integer 3))]),
      ("$version", .number (.integer 7)), ("fan", .bool true)])]

theorem version_by_members_sample :
    ∃ s, TokenStream.advance (TokenStream.ofValue decoyDocument) = .ok () s ∧
      outcome (version .documentGet s) = .ok 7 ∧
      outcome (version .desiredPatch s) = .ok 1 := by
  have hd : decoyDocument.Distinct := by simp [decoyDocument]
  obtain ⟨s, hs, hwhole, -⟩ := version_by_members .documentGet decoyDocument hd
  obtain ⟨s', hs', hpatch, -⟩ := version_by_members .desiredPatch decoyDocument hd
  rw [hs] at hs'
  cases hs'
  refine ⟨s, hs, (hwhole _).2 ?_, (hpatch _).2 ?_⟩
  · refine .version (.desired (List.mem_cons_of_mem _ (List.mem_cons_of_mem _ List.mem_cons_self)))
      (v := .number (.integer 7)) (by simp [versionKey]) ⟨rfl, by decide⟩
  · exact .version (.itself (by simp)) (v := .number (.integer 1)) List.mem_cons_self
      ⟨rfl, by decide⟩

end Document
end DeviceTwin
