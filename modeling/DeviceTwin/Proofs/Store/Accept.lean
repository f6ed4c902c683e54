import DeviceTwin.Device
import DeviceTwin.Proofs.Document.Revision

/-!
# What a store accepts

A device stores each property as soon as it has read it. Here the properties are known beforehand,
as a list, and taking them up one by one is the same as sorting out the stale ones first.

Results:
* `acceptAll_ok`: a device stores what a cursor yields and never stops on the way.
* `accept_fst`: accepted are the properties that were not stale before the first one was stored.
* `get?_accept_of_mem`, `get?_accept_of_not_mem`: what is stored then under each property.
* `eq_of_get?`: a store is known by what is stored under each property.
-/
namespace DeviceTwin

open Acknowledgement (Accepted)
open Json (Value)

namespace Store

/-! ## Taking up properties -/

/-- Takes up properties one by one and tells which of them were accepted. -/
def accept (version : Int) : List (Property × Value) → Store → List Accepted × Store
  | [], s => ([], s)
  | (p, v) :: ps, s =>
    let (accepted, s) := s.apply p v version
    let (rest, s) := accept version ps s
    (if accepted then (p, v) :: rest else rest, s)

theorem isStale_apply_of_ne (s : Store) {p q : Property} (v : Value) (version version' : Int)
    (h : p ≠ q) : (s.apply p v version).2.isStale q version' = s.isStale q version' := by
  rw [isStale, isStale, get?_apply_of_ne s v version h]

theorem get?_accept_of_not_mem {version : Int} {ps : List (Property × Value)} {p : Property}
    (h : p ∉ ps.map Prod.fst) (s : Store) : (accept version ps s).2.get? p = s.get? p := by
  induction ps generalizing s with
  | nil => rfl
  | cons q ps ih =>
    obtain ⟨hne, h⟩ := not_or.1 (mt List.mem_cons.2 h)
    rw [accept]
    exact (ih h _).trans (get?_apply_of_ne s q.2 version (Ne.symm hne))

section Nodup

variable {version : Int} {ps : List (Property × Value)} (hn : (ps.map Prod.fst).Nodup)

include hn

/-- Accepted are the properties that were not stale before the first one was stored. -/
theorem accept_fst (s : Store) :
    (accept version ps s).1 = ps.filter fun q => !s.isStale q.1 version := by
  induction ps generalizing s with
  | nil => rfl
  | cons q ps ih =>
    obtain ⟨p, v⟩ := q
    obtain ⟨hnew, hn⟩ := List.nodup_cons.1 hn
    have hlater : (ps.filter fun q => !(s.apply p v version).2.isStale q.1 version)
        = ps.filter fun q => !s.isStale q.1 version := by
      refine List.filter_congr fun q hq => ?_
      have hne : p ≠ q.1 := fun he => hnew (List.mem_map.2 ⟨q, hq, he.symm⟩)
      rw [isStale_apply_of_ne s v version version hne]
    rw [accept]
    simp only [ih hn, hlater, List.filter_cons]
    cases hstale : s.isStale p version <;> simp [apply, hstale]

theorem get?_accept_of_mem {p : Property} {v : Value} (h : (p, v) ∈ ps) (s : Store) :
    (accept version ps s).2.get? p
      = if s.isStale p version then s.get? p else some ⟨p, v, version⟩ := by
  induction ps generalizing s with
  | nil => cases h
  | cons q ps ih =>
    obtain ⟨hnew, hn⟩ := List.nodup_cons.1 hn
    rcases List.mem_cons.1 h with rfl | h
    · rw [accept]
      refine (get?_accept_of_not_mem hnew _).trans ?_
      cases hstale : s.isStale p version with
      | true => simp [apply, hstale]
      | false => simpa using get?_apply_self hstale
    · have hne : q.1 ≠ p := fun he => hnew (he ▸ List.mem_map_of_mem h)
      rw [accept]
      refine (ih hn h _).trans ?_
      rw [isStale_apply_of_ne s q.2 version version hne, get?_apply_of_ne s q.2 version hne]

end Nodup

/-! ## Stores by what they hold -/

theorem mem_entries_iff {s : Store} {e : Entry} : e ∈ s.entries ↔ s.get? e.property = some e := by
  constructor
  · intro h
    obtain ⟨entries, hord⟩ := s
    rw [get?, Entry.find?]
    dsimp only at h
    induction entries with
    | nil => cases h
    | cons x xs ih =>
      obtain ⟨hx, hxs⟩ := List.pairwise_cons.1 hord
      rcases List.mem_cons.1 h with rfl | h
      · simp
      · have hne : x.property ≠ e.property := by
          intro he
          have := hx e h
          rw [he, Property.before_irrefl] at this
          cases this
        rw [List.find?_cons_of_neg (by simpa using hne)]
        exact ih hxs h
  · exact List.mem_of_find?_eq_some

theorem eq_of_get? {s t : Store} (h : ∀ p, s.get? p = t.get? p) : s = t := by
  have hmem : ∀ e, e ∈ s.entries ↔ e ∈ t.entries := fun e => by
    rw [mem_entries_iff, mem_entries_iff, h]
  have nodup : ∀ u : Store, u.entries.Nodup := fun u => u.ordered.imp fun hb he => by
    rw [he, Property.before_irrefl] at hb
    cases hb
  have hperm := (List.perm_ext_iff_of_nodup (nodup s) (nodup t)).2 hmem
  have hset : s.entries = t.entries := by
    refine hperm.eq_of_pairwise (fun x y _ _ hxy hyx => ?_) s.ordered t.ordered
    have := Property.before_trans hxy hyx
    rw [Property.before_irrefl] at this
    cases this
  cases s
  cases t
  cases hset
  rfl

end Store

namespace Device

/-- A device stores what a cursor yields and never stops on the way. -/
theorem acceptAll_ok {stop : TokenStream} (version : Int) {fuel : Nat} {c : Cursor}
    {ps : List (Property × Value)} (hy : Cursor.Yields stop (Cursor.nextProperty c) ps)
    (hf : ps.length < fuel) (store : Store) :
    acceptAll version fuel c store
      = .ok (Store.accept version ps store).1 (Store.accept version ps store).2 := by
  generalize hnext : Cursor.nextProperty c = outcome at hy
  induction hy generalizing fuel c store with
  | ended =>
    cases fuel with
    | zero => cases hf
    | succ fuel => rw [acceptAll, hnext]; rfl
  | @property c₁ p v depth rest ps hp hs hv hr _ ih =>
    cases fuel with
    | zero => cases hf
    | succ fuel =>
      have hread := Cursor.readValue_ok hp hs (Cursor.ne_nil_of_isConsumed hr) hv
      have hrest := ih (Nat.lt_of_succ_lt_succ hf) (store.apply p v version).2 rfl
      rw [acceptAll, hnext]
      simp only [hread, hrest]
      rfl

end Device
end DeviceTwin
