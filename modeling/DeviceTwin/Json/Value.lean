import DeviceTwin.Json.Number

/-!
# JSON values

Objects keep their members in order. `Members.put` gives a name a value: a name that is there keeps
its place, a new one comes last. `Value.merge` brings each name of an object down to one member.
-/
namespace DeviceTwin.Json

inductive Value where
  | null
  | bool (b : Bool)
  | number (n : Number)
  | string (s : String)
  | array (items : List Value)
  | object (members : List (String × Value))
  deriving Repr

/-- The members of an object, in order. -/
abbrev Members := List (String × Value)

/-! ## Equality -/

mutual

/-- Equality of values, by structure. -/
def Value.decide : (v w : Value) → Decidable (v = w)
  | .null, .null => isTrue rfl
  | .bool a, .bool b => decidable_of_iff (a = b) (by simp)
  | .number a, .number b => decidable_of_iff (a = b) (by simp)
  | .string a, .string b => decidable_of_iff (a = b) (by simp)
  | .array a, .array b =>
    match Value.decideItems a b with
    | isTrue h => isTrue (by rw [h])
    | isFalse h => isFalse (by simpa using h)
  | .object a, .object b =>
    match Value.decideMembers a b with
    | isTrue h => isTrue (by rw [h])
    | isFalse h => isFalse (by simpa using h)
  | .null, .bool _ | .null, .number _ | .null, .string _ | .null, .array _ | .null, .object _
  | .bool _, .null | .bool _, .number _ | .bool _, .string _ | .bool _, .array _
  | .bool _, .object _ | .number _, .null | .number _, .bool _ | .number _, .string _
  | .number _, .array _ | .number _, .object _ | .string _, .null | .string _, .bool _
  | .string _, .number _ | .string _, .array _ | .string _, .object _ | .array _, .null
  | .array _, .bool _ | .array _, .number _ | .array _, .string _ | .array _, .object _
  | .object _, .null | .object _, .bool _ | .object _, .number _ | .object _, .string _
  | .object _, .array _ => isFalse (by simp)

def Value.decideItems : (vs ws : List Value) → Decidable (vs = ws)
  | [], [] => isTrue rfl
  | v :: vs, w :: ws =>
    match Value.decide v w, Value.decideItems vs ws with
    | isTrue h, isTrue h' => isTrue (by rw [h, h'])
    | isFalse h, _ => isFalse (by simp [h])
    | _, isFalse h => isFalse (by simp [h])
  | [], _ :: _ | _ :: _, [] => isFalse (by simp)

def Value.decideMembers : (ms ns : Members) → Decidable (ms = ns)
  | [], [] => isTrue rfl
  | (m, v) :: ms, (n, w) :: ns =>
    if h₀ : m = n then
      match Value.decide v w, Value.decideMembers ms ns with
      | isTrue h, isTrue h' => isTrue (by rw [h, h', h₀])
      | isFalse h, _ => isFalse (by simp [h])
      | _, isFalse h => isFalse (by simp [h])
    else isFalse (by simp [h₀])
  | [], _ :: _ | _ :: _, [] => isFalse (by simp)

end

instance : DecidableEq Value := Value.decide

/-! ## Members -/

namespace Members

/-- Gives the member `name` the value `v`. -/
def put (name : String) (v : Value) : Members → Members
  | [] => [(name, v)]
  | (n, w) :: ms => if n = name then (n, v) :: ms else (n, w) :: put name v ms

/-- The value of the first member called `name`. -/
def get? (name : String) : Members → Option Value
  | [] => none
  | (n, v) :: ms => if n = name then some v else get? name ms

def names (ms : Members) : List String := ms.map Prod.fst

/-- One member for each name, at the place of its first occurrence and with its last value. -/
def merge (ms : Members) : Members := ms.foldl (fun sofar m => put m.1 m.2 sofar) []

theorem put_of_not_mem {name : String} {v : Value} {ms : Members} (h : name ∉ names ms) :
    put name v ms = ms ++ [(name, v)] := by
  induction ms with
  | nil => rfl
  | cons m ms ih =>
    simp only [names, List.map_cons, List.mem_cons, not_or] at h
    rw [put, if_neg (Ne.symm h.1), ih h.2, List.cons_append]

theorem foldl_put {ms sofar : Members} (h : (names (sofar ++ ms)).Nodup) :
    ms.foldl (fun sofar m => put m.1 m.2 sofar) sofar = sofar ++ ms := by
  induction ms generalizing sofar with
  | nil => simp
  | cons m ms ih =>
    have hm : m.1 ∉ names sofar := by
      simp only [names, List.map_append, List.map_cons, List.nodup_append] at h
      exact fun hm => h.2.2 _ hm _ List.mem_cons_self rfl
    rw [List.foldl_cons, put_of_not_mem hm, ih (by simpa using h)]
    simp

/-- Names that are all different stay as they are. -/
theorem merge_eq_self {ms : Members} (h : (names ms).Nodup) : merge ms = ms := by
  rw [merge, foldl_put (by simpa using h), List.nil_append]

end Members

mutual

/-- The value with one member for each name in each of its objects. -/
def Value.merge : Value → Value
  | .array items => .array (Value.mergeItems items)
  | .object members => .object (Members.merge (Value.mergeMembers members))
  | v => v

def Value.mergeItems : List Value → List Value
  | [] => []
  | v :: vs => v.merge :: Value.mergeItems vs

def Value.mergeMembers : Members → Members
  | [] => []
  | (n, v) :: ms => (n, v.merge) :: Value.mergeMembers ms

end

end DeviceTwin.Json
