import DeviceTwin.Proofs.Store.Accept
import Mathlib.Data.List.Induction
import Mathlib.Data.List.Nodup

/-!
# The store behind a history of revisions

A revision that comes in late changes nothing that a newer one has set. So what a store holds under
a property is decided by the versions of the revisions that carry it, and by the order of arrival
only among those of one version.

Results:
* `get?_absorbAll`: under each property the store holds what the latest revision says of it.
* `isSome_get?_absorbAll`: the store holds a property where some revision carried it.
* `le_version_absorbAll`: the version that is stored with a property never decreases.
* `absorbAll_eq_of_perm`: revisions of different versions leave the same store in any order.
-/
namespace DeviceTwin

open Json (Value)

namespace Revision

/-- Whether a property is among those of the revision. -/
def Carries (r : Revision) (p : Property) : Prop := ∃ v, (p, v) ∈ r.properties

theorem value_unique {r : Revision} {p : Property} {v w : Value} (hv : (p, v) ∈ r.properties)
    (hw : (p, w) ∈ r.properties) : v = w := by
  have := List.inj_on_of_nodup_map r.nodup hv hw rfl
  exact congrArg Prod.snd this

/-- In `history` the property `p` was last given the value `v` by `r`: no revision that carries `p`
has a greater version, and none behind `r` has the same. -/
def Latest (history : List Revision) (p : Property) (r : Revision) (v : Value) : Prop :=
  ∃ earlier later, history = earlier ++ r :: later ∧ (p, v) ∈ r.properties ∧
    (∀ x ∈ earlier, x.Carries p → x.version ≤ r.version) ∧
    (∀ x ∈ later, x.Carries p → x.version < r.version)

variable {history : List Revision} {p : Property} {r r' : Revision} {v w : Value}

theorem Latest.mem (h : Latest history p r v) : r ∈ history := by
  obtain ⟨earlier, later, rfl, -⟩ := h
  simp

theorem Latest.le_version (h : Latest history p r v) {x : Revision} (hx : x ∈ history)
    (hc : x.Carries p) : x.version ≤ r.version := by
  obtain ⟨earlier, later, rfl, -, he, hl⟩ := h
  rcases List.mem_append.1 hx with hx | hx
  · exact he x hx hc
  rcases List.mem_cons.1 hx with rfl | hx
  · exact Int.le_refl _
  · exact Int.le_of_lt (hl x hx hc)

theorem Latest.append (h : Latest history p r v) (hr : r'.Carries p → r'.version < r.version) :
    Latest (history ++ [r']) p r v := by
  obtain ⟨earlier, later, rfl, hv, he, hl⟩ := h
  refine ⟨earlier, later ++ [r'], by simp, hv, he, fun x hx hc => ?_⟩
  rcases List.mem_append.1 hx with hx | hx
  · exact hl x hx hc
  · cases List.mem_singleton.1 hx
    exact hr hc

/-- A revision comes last if no version before it is greater. -/
theorem latest_append_self (hv : (p, v) ∈ r.properties)
    (h : ∀ x ∈ history, x.Carries p → x.version ≤ r.version) :
    Latest (history ++ [r]) p r v :=
  ⟨history, [], rfl, hv, h, fun _ hx => by cases hx⟩

theorem Latest.unique (h : Latest history p r v) (h' : Latest history p r' w) :
    r.version = r'.version ∧ v = w := by
  obtain ⟨earlier, later, heq, hv, -, hl⟩ := id h
  obtain ⟨earlier', later', heq', hw, -, hl'⟩ := id h'
  have hle := h.le_version h'.mem ⟨w, hw⟩
  have hle' := h'.le_version h.mem ⟨v, hv⟩
  -- Neither stands behind the other, so they stand at one place.
  rw [heq] at heq'
  rcases List.append_eq_append_iff.1 heq' with ⟨gap, -, hcons⟩ | ⟨gap, -, hcons⟩
  · cases gap with
    | nil => cases hcons; exact ⟨rfl, value_unique hv hw⟩
    | cons x gap =>
      cases hcons
      have := hl r' (by simp) ⟨w, hw⟩
      omega
  · cases gap with
    | nil => cases hcons; exact ⟨rfl, value_unique hv hw⟩
    | cons x gap =>
      cases hcons
      have := hl' r (by simp) ⟨v, hv⟩
      omega

end Revision

namespace Store

open Revision (Latest)

def absorb (s : Store) (r : Revision) : Store := (accept r.version r.properties s).2

def absorbAll (history : List Revision) (s : Store) : Store := history.foldl absorb s

theorem absorbAll_append (history more : List Revision) (s : Store) :
    absorbAll (history ++ more) s = absorbAll more (absorbAll history s) :=
  List.foldl_append

/-! ## One revision -/

theorem get?_absorb_of_not_carries {r : Revision} {p : Property} (h : ¬ r.Carries p) (s : Store) :
    (s.absorb r).get? p = s.get? p := by
  refine get?_accept_of_not_mem (fun hm => h ?_) s
  obtain ⟨⟨_, v⟩, hq, rfl⟩ := List.mem_map.1 hm
  exact ⟨v, hq⟩

theorem get?_absorb_of_mem {r : Revision} {p : Property} {v : Value} (h : (p, v) ∈ r.properties)
    (s : Store) : (s.absorb r).get? p
      = if s.isStale p r.version then s.get? p else some ⟨p, v, r.version⟩ :=
  get?_accept_of_mem r.nodup h s

/-- What is stored with a property stays or makes way for a version that is not lower. -/
theorem le_version_absorb {s : Store} {r : Revision} {p : Property} {e : Entry}
    (h : s.get? p = some e) :
    ∃ e', (s.absorb r).get? p = some e' ∧ e.version ≤ e'.version := by
  by_cases hc : r.Carries p
  · obtain ⟨v, hv⟩ := hc
    rw [get?_absorb_of_mem hv]
    split
    · exact ⟨e, h, Int.le_refl _⟩
    · next hfresh =>
      refine ⟨_, rfl, ?_⟩
      simpa [isStale, h] using hfresh
  · exact ⟨e, by rw [get?_absorb_of_not_carries hc, h], Int.le_refl _⟩

/-! ## All revisions -/

theorem le_version_absorbAll (history : List Revision) {s : Store} {p : Property} {e : Entry}
    (h : s.get? p = some e) :
    ∃ e', (absorbAll history s).get? p = some e' ∧ e.version ≤ e'.version := by
  induction history generalizing s e with
  | nil => exact ⟨e, h, Int.le_refl _⟩
  | cons r history ih =>
    obtain ⟨e₁, h₁, hle₁⟩ := le_version_absorb (r := r) h
    obtain ⟨e₂, h₂, hle₂⟩ := ih h₁
    exact ⟨e₂, h₂, Int.le_trans hle₁ hle₂⟩

/-- What a store holds of a property came from the latest revision that carried it, and it holds
nothing only where none did. -/
theorem latest_of_absorbAll (history : List Revision) (p : Property) :
    match (absorbAll history empty).get? p with
    | some e => ∃ r v, Latest history p r v ∧ e = ⟨p, v, r.version⟩
    | none => ∀ r ∈ history, ¬ r.Carries p := by
  induction history using List.reverseRecOn with
  | nil => intro r hr; cases hr
  | append_singleton history r ih =>
    -- The last revision wins a tie, so what is stored stays only where its version is greater.
    rw [absorbAll_append]
    show match (absorb (absorbAll history empty) r).get? p with
      | some e => _
      | none => _
    by_cases hc : r.Carries p
    · obtain ⟨v, hv⟩ := hc
      rw [get?_absorb_of_mem hv, isStale]
      cases hget : (absorbAll history empty).get? p with
      | none =>
        rw [hget] at ih
        exact ⟨r, v, Revision.latest_append_self hv fun x hx hc => absurd hc (ih x hx), rfl⟩
      | some e =>
        rw [hget] at ih
        obtain ⟨r₁, v₁, hlatest, rfl⟩ := ih
        by_cases hstale : r.version < r₁.version
        · simp only [Option.any_some, hstale, decide_true, if_true]
          exact ⟨r₁, v₁, hlatest.append fun _ => hstale, rfl⟩
        · simp only [Option.any_some, hstale, decide_false]
          refine ⟨r, v, Revision.latest_append_self hv fun x hx hc => ?_, rfl⟩
          exact Int.le_trans (hlatest.le_version hx hc) (Int.not_lt.1 hstale)
    · rw [get?_absorb_of_not_carries hc]
      cases hget : (absorbAll history empty).get? p with
      | none =>
        rw [hget] at ih
        intro x hx
        rcases List.mem_append.1 hx with hx | hx
        · exact ih x hx
        · cases List.mem_singleton.1 hx
          exact hc
      | some e =>
        rw [hget] at ih
        obtain ⟨r₁, v₁, hlatest, he⟩ := ih
        exact ⟨r₁, v₁, hlatest.append fun hr => absurd hr hc, he⟩

/-- Under each property the store holds what the latest revision says of it. -/
theorem get?_absorbAll (history : List Revision) (p : Property) (e : Entry) :
    (absorbAll history empty).get? p = some e ↔
      ∃ r v, Latest history p r v ∧ e = ⟨p, v, r.version⟩ := by
  have hview := latest_of_absorbAll history p
  constructor
  · intro h
    rwa [h] at hview
  · rintro ⟨r, v, hlatest, rfl⟩
    cases hget : (absorbAll history empty).get? p with
    | none =>
      rw [hget] at hview
      obtain ⟨_, _, _, hv, -⟩ := id hlatest
      exact absurd ⟨v, hv⟩ (hview r hlatest.mem)
    | some e' =>
      rw [hget] at hview
      obtain ⟨r', v', hlatest', rfl⟩ := hview
      obtain ⟨hversion, rfl⟩ := hlatest.unique hlatest'
      rw [hversion]

theorem isSome_get?_absorbAll (history : List Revision) (p : Property) :
    ((absorbAll history empty).get? p).isSome = true ↔ ∃ r ∈ history, r.Carries p := by
  have hview := latest_of_absorbAll history p
  cases hget : (absorbAll history empty).get? p with
  | none =>
    rw [hget] at hview
    simpa using hview
  | some e =>
    rw [hget] at hview
    obtain ⟨r, v, hlatest, -⟩ := hview
    obtain ⟨_, _, _, hv, -⟩ := id hlatest
    exact ⟨fun _ => ⟨r, hlatest.mem, v, hv⟩, fun _ => rfl⟩

/-! ## The order of arrival -/

/-- Among different versions the greatest is the latest. -/
theorem latest_of_distinct {history : List Revision}
    (hd : history.Pairwise fun x y => x.version ≠ y.version) {p : Property} {r : Revision}
    {v : Value} (hr : r ∈ history) (hv : (p, v) ∈ r.properties)
    (hmax : ∀ x ∈ history, x.Carries p → x.version ≤ r.version) : Latest history p r v := by
  obtain ⟨earlier, later, rfl⟩ := List.append_of_mem hr
  refine ⟨earlier, later, rfl, hv, fun x hx => hmax x (by simp [hx]), fun x hx hc => ?_⟩
  have hne := (List.pairwise_cons.1 (List.pairwise_append.1 hd).2.1).1 x hx
  have hle := hmax x (by simp [hx]) hc
  omega

/-- Revisions of different versions leave the same store in any order. -/
theorem absorbAll_eq_of_perm {history history' : List Revision} (hp : history.Perm history')
    (hd : history.Pairwise fun x y => x.version ≠ y.version) :
    absorbAll history empty = absorbAll history' empty := by
  have transfer : ∀ {h h' : List Revision}, h.Perm h' →
      (h'.Pairwise fun x y => x.version ≠ y.version) →
      ∀ {p r v}, Latest h p r v → Latest h' p r v := by
    intro h h' hp hd p r v hlatest
    obtain ⟨_, _, _, hv, -⟩ := id hlatest
    exact latest_of_distinct hd (hp.mem_iff.1 hlatest.mem) hv
      fun x hx hc => hlatest.le_version (hp.mem_iff.2 hx) hc
  have hd' : history'.Pairwise fun x y => x.version ≠ y.version := hp.pairwise hd Ne.symm
  refine eq_of_get? fun p => Option.ext fun e => ?_
  rw [get?_absorbAll, get?_absorbAll]
  constructor
  · rintro ⟨r, v, hlatest, he⟩
    exact ⟨r, v, transfer hp hd' hlatest, he⟩
  · rintro ⟨r, v, hlatest, he⟩
    exact ⟨r, v, transfer hp.symm hd hlatest, he⟩

end Store
end DeviceTwin
