import DeviceTwin.Json.Reader

/-!
# Values whose names differ

Reading brings each name of an object down to one member. `Value.Distinct` says of a value that in
every object in it, at any depth, the names are all different.

Results:
* `get?_eq_some_iff`, `get?_eq_none_iff`: among different names a member is found by its name.
* `distinct_merge`: merging leaves each name once.
* `merge_eq_self`: it changes nothing where the names are different.
* `distinct_of_read`: every value that is read has distinct names.
-/
namespace DeviceTwin.Json

mutual

/-- In every object of the value the names are all different. -/
def Value.Distinct : Value → Prop
  | .array items => Value.ItemsDistinct items
  | .object members => (Members.names members).Nodup ∧ Value.MembersDistinct members
  | _ => True

def Value.ItemsDistinct : List Value → Prop
  | [] => True
  | v :: vs => v.Distinct ∧ Value.ItemsDistinct vs

def Value.MembersDistinct : Members → Prop
  | [] => True
  | (_, v) :: ms => v.Distinct ∧ Value.MembersDistinct ms

end

@[simp] theorem Value.distinct_null : Value.null.Distinct := trivial
@[simp] theorem Value.distinct_bool (b : Bool) : (Value.bool b).Distinct := trivial
@[simp] theorem Value.distinct_number (n : Number) : (Value.number n).Distinct := trivial
@[simp] theorem Value.distinct_string (s : String) : (Value.string s).Distinct := trivial

@[simp] theorem Value.distinct_array (items : List Value) :
    (Value.array items).Distinct ↔ ∀ v ∈ items, v.Distinct := by
  rw [Value.Distinct]
  induction items with
  | nil => simp [Value.ItemsDistinct]
  | cons v vs ih => simp [Value.ItemsDistinct, ih]

theorem Value.membersDistinct_iff (members : Members) :
    Value.MembersDistinct members ↔ ∀ m ∈ members, m.2.Distinct := by
  induction members with
  | nil => simp [Value.MembersDistinct]
  | cons m ms ih => simp [Value.MembersDistinct, ih]

@[simp] theorem Value.distinct_object (members : Members) :
    (Value.object members).Distinct ↔
      (Members.names members).Nodup ∧ ∀ m ∈ members, m.2.Distinct := by
  rw [Value.Distinct, Value.membersDistinct_iff]

/-! ## Merging -/

namespace Members

@[simp] theorem names_nil : names [] = [] := rfl

@[simp] theorem names_cons (m : String × Value) (ms : Members) :
    names (m :: ms) = m.1 :: names ms := rfl

@[simp] theorem names_append (ms ns : Members) : names (ms ++ ns) = names ms ++ names ns := by
  simp [names]

theorem names_put_of_mem {name : String} {v : Value} {ms : Members} (h : name ∈ names ms) :
    names (put name v ms) = names ms := by
  induction ms with
  | nil => cases h
  | cons m ms ih =>
    rw [put]
    split
    · rfl
    · next hne =>
      rw [names_cons, names_cons, ih]
      exact (List.mem_cons.1 h).resolve_left (Ne.symm hne)

theorem nodup_names_put {name : String} {v : Value} {ms : Members} (h : (names ms).Nodup) :
    (names (put name v ms)).Nodup := by
  by_cases hm : name ∈ names ms
  · rw [names_put_of_mem hm]; exact h
  · rw [put_of_not_mem hm, names_append, List.nodup_append]
    refine ⟨h, by simp, fun a ha b hb he => ?_⟩
    rw [he, List.mem_singleton.1 hb] at ha
    exact hm ha

theorem mem_put {name : String} {v : Value} {ms : Members} {m : String × Value}
    (h : m ∈ put name v ms) : m = (name, v) ∨ m ∈ ms := by
  induction ms with
  | nil => exact Or.inl (List.mem_singleton.1 h)
  | cons n ns ih =>
    rw [put] at h
    split at h
    · next he =>
      rcases List.mem_cons.1 h with rfl | h
      · exact Or.inl (by rw [he])
      · exact Or.inr (List.mem_cons_of_mem _ h)
    · rcases List.mem_cons.1 h with rfl | h
      · exact Or.inr List.mem_cons_self
      · exact (ih h).imp_right (List.mem_cons_of_mem _)

theorem nodup_names_foldl_put (ms : Members) {sofar : Members} (h : (names sofar).Nodup) :
    (names (ms.foldl (fun sofar m => put m.1 m.2 sofar) sofar)).Nodup := by
  induction ms generalizing sofar with
  | nil => exact h
  | cons m ms ih => exact ih (nodup_names_put h)

theorem mem_foldl_put {ms sofar : Members} {m : String × Value}
    (h : m ∈ ms.foldl (fun sofar m => put m.1 m.2 sofar) sofar) : m ∈ sofar ∨ m ∈ ms := by
  induction ms generalizing sofar with
  | nil => exact Or.inl h
  | cons n ns ih =>
    rcases ih h with h | h
    · rcases mem_put h with rfl | h
      · exact Or.inr List.mem_cons_self
      · exact Or.inl h
    · exact Or.inr (List.mem_cons_of_mem _ h)

theorem nodup_names_merge (ms : Members) : (names (merge ms)).Nodup :=
  nodup_names_foldl_put ms List.nodup_nil

theorem mem_of_mem_merge {ms : Members} {m : String × Value} (h : m ∈ merge ms) : m ∈ ms := by
  rcases mem_foldl_put h with h | h
  · cases h
  · exact h

/-! ## Looking up -/

theorem mem_of_get? {name : String} {v : Value} {ms : Members} (h : get? name ms = some v) :
    (name, v) ∈ ms := by
  induction ms with
  | nil => cases h
  | cons m ms ih =>
    rw [get?] at h
    split at h
    · next he => cases h; rw [← he]; exact List.mem_cons_self
    · exact List.mem_cons_of_mem _ (ih h)

theorem append_of_get? {name : String} {v : Value} {ms : Members} (h : get? name ms = some v) :
    ∃ before behind, ms = before ++ (name, v) :: behind ∧ name ∉ names before := by
  induction ms with
  | nil => cases h
  | cons m ms ih =>
    rw [get?] at h
    split at h
    · next he => cases h; exact ⟨[], ms, by rw [← he]; rfl, List.not_mem_nil⟩
    · next hne =>
      obtain ⟨before, behind, rfl, hn⟩ := ih h
      exact ⟨m :: before, behind, rfl, List.not_mem_cons_of_ne_of_not_mem (Ne.symm hne) hn⟩

theorem not_mem_of_get? {name : String} {ms : Members} (h : get? name ms = none) :
    name ∉ names ms := by
  induction ms with
  | nil => exact List.not_mem_nil
  | cons m ms ih =>
    rw [get?] at h
    split at h
    · cases h
    · next hne => exact List.not_mem_cons_of_ne_of_not_mem (Ne.symm hne) (ih h)

theorem get?_of_mem {name : String} {v : Value} {ms : Members} (hn : (names ms).Nodup)
    (h : (name, v) ∈ ms) : get? name ms = some v := by
  induction ms with
  | nil => cases h
  | cons m ms ih =>
    obtain ⟨hnew, hn⟩ := List.nodup_cons.1 hn
    rw [get?]
    rcases List.mem_cons.1 h with rfl | h
    · rw [if_pos rfl]
    · have hne : m.1 ≠ name := fun he => hnew (he ▸ List.mem_map_of_mem h)
      rw [if_neg hne]
      exact ih hn h

theorem get?_eq_some_iff {name : String} {v : Value} {ms : Members} (hn : (names ms).Nodup) :
    get? name ms = some v ↔ (name, v) ∈ ms :=
  ⟨mem_of_get?, get?_of_mem hn⟩

theorem get?_eq_none_iff {name : String} {ms : Members} : get? name ms = none ↔ name ∉ names ms := by
  refine ⟨not_mem_of_get?, fun h => ?_⟩
  cases hg : get? name ms with
  | none => rfl
  | some v => exact absurd (List.mem_map_of_mem (mem_of_get? hg)) h

end Members

mutual

/-- Merging leaves each name once. -/
theorem Value.distinct_merge : (v : Value) → v.merge.Distinct
  | .null | .bool _ | .number _ | .string _ => by simp [Value.merge]
  | .array items => by
    rw [Value.merge, Value.distinct_array]
    exact Value.distinct_of_mem_mergeItems items
  | .object members => by
    rw [Value.merge, Value.distinct_object]
    exact ⟨Members.nodup_names_merge _, fun m hm =>
      Value.distinct_of_mem_mergeMembers members m (Members.mem_of_mem_merge hm)⟩

theorem Value.distinct_of_mem_mergeItems :
    (items : List Value) → ∀ v ∈ Value.mergeItems items, v.Distinct
  | [], v, h => by rw [Value.mergeItems] at h; cases h
  | w :: ws, v, h => by
    rw [Value.mergeItems] at h
    rcases List.mem_cons.1 h with rfl | h
    · exact Value.distinct_merge w
    · exact Value.distinct_of_mem_mergeItems ws v h

theorem Value.distinct_of_mem_mergeMembers :
    (members : Members) → ∀ m ∈ Value.mergeMembers members, m.2.Distinct
  | [], m, h => by rw [Value.mergeMembers] at h; cases h
  | (n, w) :: ws, m, h => by
    rw [Value.mergeMembers] at h
    rcases List.mem_cons.1 h with rfl | h
    · exact Value.distinct_merge w
    · exact Value.distinct_of_mem_mergeMembers ws m h

end

mutual

/-- Where all names differ there is nothing to merge. -/
theorem Value.merge_eq_self : (v : Value) → v.Distinct → v.merge = v
  | .null, _ | .bool _, _ | .number _, _ | .string _, _ => rfl
  | .array items, h => by
    rw [Value.merge, Value.mergeItems_eq_self items h]
  | .object members, ⟨hn, h⟩ => by
    rw [Value.merge, Value.mergeMembers_eq_self members h, Members.merge_eq_self hn]

theorem Value.mergeItems_eq_self :
    (vs : List Value) → Value.ItemsDistinct vs → Value.mergeItems vs = vs
  | [], _ => rfl
  | v :: vs, ⟨hv, hvs⟩ => by
    rw [Value.mergeItems, Value.merge_eq_self v hv, Value.mergeItems_eq_self vs hvs]

theorem Value.mergeMembers_eq_self :
    (ms : Members) → Value.MembersDistinct ms → Value.mergeMembers ms = ms
  | [], _ => rfl
  | (n, v) :: ms, ⟨hv, hms⟩ => by
    rw [Value.mergeMembers, Value.merge_eq_self v hv, Value.mergeMembers_eq_self ms hms]

end

/-- Every value that is read has distinct names. -/
theorem distinct_of_read {bs : Bytes} {v : Value} (h : read bs = .ok v) : v.Distinct := by
  unfold read at h
  cases hp : parse bs with
  | error e => rw [hp] at h; cases h
  | ok w =>
    rw [hp] at h
    cases h
    exact Value.distinct_merge w

end DeviceTwin.Json
