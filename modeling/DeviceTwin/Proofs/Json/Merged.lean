import DeviceTwin.Proofs.Json.Distinct
import Mathlib.Data.List.Basic
import Mathlib.Data.List.Induction

/-!
# Members under repeated names

An object that is put together member by member has one member for each name. It stands where the
name was given first, and it has the value that the name was given last.

Results:
* `isMerged_merge`: this is what merging gives.
* `IsMerged.eq_merge`: there is nothing else that fits.
-/
namespace DeviceTwin.Json.Members

/-- Each name once, at its first place and with its last value. -/
structure IsMerged (ms merged : Members) : Prop where
  names_eq : names merged = (names ms).eraseDups
  get?_eq : ∀ name, get? name merged = get? name ms.reverse

theorem get?_put (name : String) (v : Value) (ms : Members) (n : String) :
    get? n (put name v ms) = if name = n then some v else get? n ms := by
  induction ms with
  | nil => rfl
  | cons m ms ih =>
    obtain ⟨k, w⟩ := m
    unfold put
    by_cases hk : k = name
    · subst hk
      by_cases hn : k = n <;> simp [get?, hn]
    · rw [if_neg hk, get?, get?, ih]
      by_cases hn : k = n
      · subst hn
        simp [Ne.symm hk]
      · simp [hn]

theorem merge_concat (ms : Members) (name : String) (v : Value) :
    merge (ms ++ [(name, v)]) = put name v (merge ms) := by
  unfold merge
  rw [List.foldl_append]
  rfl

theorem isMerged_merge (ms : Members) : IsMerged ms (merge ms) := by
  induction ms using List.reverseRecOn with
  | nil => exact ⟨rfl, fun _ => rfl⟩
  | append_singleton ms m ih =>
    obtain ⟨name, v⟩ := m
    rw [merge_concat]
    constructor
    · rw [names_append, List.eraseDups_append, ← ih.names_eq]
      have hmem : name ∈ names (merge ms) ↔ name ∈ names ms := by
        rw [ih.names_eq, List.mem_eraseDups]
      by_cases h : name ∈ names ms
      · rw [names_put_of_mem (hmem.2 h)]
        simp [List.removeAll, h]
      · rw [put_of_not_mem fun hm => h (hmem.1 hm)]
        simp [List.removeAll, h, List.eraseDups_cons]
    · intro n
      rw [get?_put, ih.get?_eq, List.reverse_append]
      rfl

theorem map_get?_names {ms : Members} (h : (names ms).Nodup) :
    (names ms).map (fun name => (name, get? name ms)) = ms.map fun m => (m.1, some m.2) := by
  unfold names
  rw [List.map_map]
  apply List.map_congr_left
  intro m hm
  simp only [Function.comp_apply, get?_of_mem h hm]

/-- There is nothing else that fits. -/
theorem IsMerged.eq_merge {ms merged : Members} (h : IsMerged ms merged) : merged = merge ms := by
  have hmerge := isMerged_merge ms
  have hnames : names merged = names (merge ms) := h.names_eq.trans hmerge.names_eq.symm
  have hnodup := nodup_names_merge ms
  have hinjective : Function.Injective fun m : String × Value => (m.1, some m.2) := by
    rintro ⟨name, v⟩ ⟨name', w⟩ he
    simpa using he
  apply List.map_injective_iff.2 hinjective
  rw [← map_get?_names hnodup, ← map_get?_names (hnames ▸ hnodup), hnames]
  simp only [h.get?_eq, hmerge.get?_eq]

end DeviceTwin.Json.Members
