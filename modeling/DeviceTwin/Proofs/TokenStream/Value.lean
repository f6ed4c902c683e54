import DeviceTwin.Document
import DeviceTwin.Proofs.Attempt
import DeviceTwin.Proofs.Json.Distinct

/-!
# Streams in front of a value

What reading and skipping do on a stream whose next tokens are those of a value. Skipping looks for
the first closing token at the depth of the opening one, so it rests on the depths within a value:
they are all greater.

Results:
* `length_tokens`: a value has as many tokens at one depth as at any other.
* `le_depth_of_mem_tokens`: no token of a value stands outside of it.
* `skipValue_on`: skipping a value stops on its last token.
* `readValue_tokens`, `readValue_on`: so does reading it, which gives the value with each name once.
* `skipMember_ok`: passing over a member stops on the token behind it.
-/
namespace DeviceTwin

open Json (Members Value)

def Json.Value.firstToken : Value → Token
  | .null => .null
  | .bool b => .bool b
  | .number n => .number n
  | .string s => .string s
  | .array _ => .beginArray
  | .object _ => .beginObject

def Json.Value.lastToken : Value → Token
  | .array _ => .endArray
  | .object _ => .endObject
  | v => v.firstToken

def Json.Value.laterTokens (depth : Nat) : Value → List Placed
  | .array items => Value.itemTokens (depth + 1) items ++ [(.endArray, depth)]
  | .object members => Value.memberTokens (depth + 1) members ++ [(.endObject, depth)]
  | _ => []

theorem Json.Value.memberTokens_append (depth : Nat) (ms ns : Members) :
    Value.memberTokens depth (ms ++ ns)
      = Value.memberTokens depth ms ++ Value.memberTokens depth ns := by
  induction ms with
  | nil => rfl
  | cons m ms ih =>
    obtain ⟨n, v⟩ := m
    simp only [List.cons_append, Value.memberTokens, ih, List.append_assoc]

theorem Json.Value.tokens_eq_cons (depth : Nat) (v : Value) :
    v.tokens depth = (v.firstToken, depth) :: v.laterTokens depth := by
  cases v <;> rfl

def Json.Value.size (v : Value) : Nat := (v.tokens 0).length

namespace TokenStream

/-! ## Lengths -/

mutual

/-- A value has as many tokens at one depth as at any other. -/
theorem length_tokens (d d' : Nat) : (v : Value) → (v.tokens d).length = (v.tokens d').length
  | .null | .bool _ | .number _ | .string _ => rfl
  | .array items => by
    simp only [Value.tokens, List.length_append, List.length_cons, List.length_nil,
      length_itemTokens (d + 1) (d' + 1) items]
  | .object members => by
    simp only [Value.tokens, List.length_append, List.length_cons, List.length_nil,
      length_memberTokens (d + 1) (d' + 1) members]

theorem length_itemTokens (d d' : Nat) :
    (vs : List Value) → (Value.itemTokens d vs).length = (Value.itemTokens d' vs).length
  | [] => rfl
  | v :: vs => by
    simp only [Value.itemTokens, List.length_append, length_tokens d d' v,
      length_itemTokens d d' vs]

theorem length_memberTokens (d d' : Nat) :
    (ms : Members) → (Value.memberTokens d ms).length = (Value.memberTokens d' ms).length
  | [] => rfl
  | (_, v) :: ms => by
    simp only [Value.memberTokens, List.length_append, List.length_cons, length_tokens d d' v,
      length_memberTokens d d' ms]

end

/-! ## Depths -/

mutual

theorem le_depth_of_mem_tokens (depth : Nat) : (v : Value) → ∀ t ∈ v.tokens depth, depth ≤ t.2
  | .null, t, h | .bool _, t, h | .number _, t, h | .string _, t, h => by
    rw [Value.tokens, List.mem_singleton] at h
    subst h
    exact Nat.le_refl _
  | .array items, t, h => by
    simp only [Value.tokens, List.cons_append, List.mem_cons, List.mem_append,
      List.not_mem_nil, or_false] at h
    rcases h with rfl | h | rfl
    · exact Nat.le_refl _
    · exact Nat.le_of_succ_le (le_depth_of_mem_itemTokens (depth + 1) items t h)
    · exact Nat.le_refl _
  | .object members, t, h => by
    simp only [Value.tokens, List.cons_append, List.mem_cons, List.mem_append,
      List.not_mem_nil, or_false] at h
    rcases h with rfl | h | rfl
    · exact Nat.le_refl _
    · exact Nat.le_of_succ_le (le_depth_of_mem_memberTokens (depth + 1) members t h)
    · exact Nat.le_refl _

theorem le_depth_of_mem_itemTokens (depth : Nat) :
    (vs : List Value) → ∀ t ∈ Value.itemTokens depth vs, depth ≤ t.2
  | [], t, h => by rw [Value.itemTokens] at h; cases h
  | v :: vs, t, h => by
    rw [Value.itemTokens, List.mem_append] at h
    rcases h with h | h
    · exact le_depth_of_mem_tokens depth v t h
    · exact le_depth_of_mem_itemTokens depth vs t h

theorem le_depth_of_mem_memberTokens (depth : Nat) :
    (ms : Members) → ∀ t ∈ Value.memberTokens depth ms, depth ≤ t.2
  | [], t, h => by rw [Value.memberTokens] at h; cases h
  | (n, v) :: ms, t, h => by
    rw [Value.memberTokens, List.cons_append, List.mem_cons, List.mem_append] at h
    rcases h with rfl | h | h
    · exact Nat.le_refl _
    · exact le_depth_of_mem_tokens depth v t h
    · exact le_depth_of_mem_memberTokens depth ms t h

end

/-! ## Positions -/

/-- The stream on the first of these tokens. -/
def on : List Placed → TokenStream
  | [] => ⟨none, []⟩
  | t :: rest => ⟨some t, rest⟩

@[simp] theorem on_cons (t : Placed) (rest : List Placed) : on (t :: rest) = ⟨some t, rest⟩ := rfl

@[simp] theorem token?_mk (t : Placed) (rest : List Placed) :
    token? ⟨some t, rest⟩ = some t.1 := rfl

@[simp] theorem depth_mk (t : Placed) (rest : List Placed) : depth ⟨some t, rest⟩ = t.2 := rfl

@[simp] theorem length_ahead_on (ts : List Placed) : (on ts).ahead.length = ts.length - 1 := by
  cases ts <;> rfl

theorem length_le_ahead (ts : List Placed) : ts.length ≤ (on ts).ahead.length + 1 := by
  rw [length_ahead_on]; omega

theorem on_tokens (v : Value) (depth : Nat) (rest : List Placed) :
    on (v.tokens depth ++ rest)
      = ⟨some (v.firstToken, depth), v.laterTokens depth ++ rest⟩ := by
  rw [Value.tokens_eq_cons]; rfl

theorem advance_ok {c : Option Placed} {ts : List Placed} (h : ts ≠ []) :
    advance ⟨c, ts⟩ = .ok () (on ts) := by
  cases ts with
  | nil => exact absurd rfl h
  | cons t ts => rfl

theorem advance_ofValue (v : Value) : advance (ofValue v) = .ok () (on (v.tokens 0)) :=
  advance_ok (by rw [Value.tokens_eq_cons]; simp)

/-! ## Skipping -/

/-- Tokens at other depths are passed over. -/
theorem closeAt_ok {depth : Nat} {c : Option Placed} {ts rest : List Placed} {close : Token}
    (h : ∀ t ∈ ts, t.2 ≠ depth) (hc : close.closes = true) :
    closeAt depth c (ts ++ (close, depth) :: rest) = .ok () ⟨some (close, depth), rest⟩ := by
  induction ts generalizing c with
  | nil => rw [List.nil_append, closeAt, if_pos ⟨hc, rfl⟩]
  | cons t ts ih =>
    have ht : t.2 ≠ depth := h t List.mem_cons_self
    rw [List.cons_append, closeAt, if_neg (fun hcd => ht hcd.2)]
    exact ih fun u hu => h u (List.mem_cons_of_mem _ hu)

/-- Skipping a value stops on its last token. -/
theorem skipValue_on (v : Value) (depth : Nat) (rest : List Placed) :
    skipValue (on (v.tokens depth ++ rest)) = .ok () ⟨some (v.lastToken, depth), rest⟩ := by
  rw [on_tokens]
  cases v with
  | null | bool _ | number _ | string _ => rfl
  | array items =>
    have inside : ∀ t ∈ Value.itemTokens (depth + 1) items, t.2 ≠ depth := fun t ht =>
      Nat.ne_of_gt (le_depth_of_mem_itemTokens (depth + 1) items t ht)
    show closeAt depth _ (Value.itemTokens (depth + 1) items ++ [(.endArray, depth)] ++ rest) = _
    rw [List.append_assoc]
    exact closeAt_ok inside rfl
  | object members =>
    have inside : ∀ t ∈ Value.memberTokens (depth + 1) members, t.2 ≠ depth := fun t ht =>
      Nat.ne_of_gt (le_depth_of_mem_memberTokens (depth + 1) members t ht)
    show closeAt depth _ (Value.memberTokens (depth + 1) members ++ [(.endObject, depth)] ++ rest)
      = _
    rw [List.append_assoc]
    exact closeAt_ok inside rfl

theorem skipMember_ok (c : Option Placed) (v : Value) (depth : Nat) {rest : List Placed}
    (h : rest ≠ []) : skipMember ⟨c, v.tokens depth ++ rest⟩ = .ok () (on rest) := by
  have hne : v.tokens depth ++ rest ≠ [] := by simp [h]
  unfold skipMember
  rw [Attempt.bind_ok (advance_ok hne), Attempt.bind_ok (skipValue_on v depth rest)]
  exact advance_ok h

/-! ## Reading -/

mutual

theorem readWithin_on (fuel depth : Nat) (rest : List Placed) : (v : Value) →
    (v.tokens depth).length ≤ fuel →
    readWithin fuel (on (v.tokens depth ++ rest))
      = .ok v.merge ⟨some (v.lastToken, depth), rest⟩ := by
  intro v hf
  cases fuel with
  | zero => rw [Value.tokens_eq_cons] at hf; simp at hf
  | succ fuel =>
    rw [on_tokens]
    cases v with
    | null | bool _ | number _ | string _ => rfl
    | array items =>
      have hl : (Value.itemTokens (depth + 1) items).length + 1 ≤ fuel := by
        simp only [Value.tokens, List.length_append, List.length_cons, List.length_nil] at hf
        omega
      have hr := readItems_ok fuel (depth + 1) depth (some (.beginArray, depth)) rest items hl
      simp only [readWithin, Value.firstToken, Value.laterTokens, token?_mk, List.append_assoc]
      exact Attempt.map_ok hr
    | object members =>
      have hl : (Value.memberTokens (depth + 1) members).length + 1 ≤ fuel := by
        simp only [Value.tokens, List.length_append, List.length_cons, List.length_nil] at hf
        omega
      have hr := readMembers_ok fuel (depth + 1) depth (some (.beginObject, depth)) rest [] members
        hl
      simp only [readWithin, Value.firstToken, Value.laterTokens, token?_mk, List.append_assoc]
      exact Attempt.map_ok hr

theorem readMembers_ok (fuel depth close : Nat) (c : Option Placed) (rest : List Placed)
    (sofar : Members) : (ms : Members) → (Value.memberTokens depth ms).length + 1 ≤ fuel →
    readMembers fuel sofar ⟨c, Value.memberTokens depth ms ++ (.endObject, close) :: rest⟩
      = .ok ((Value.mergeMembers ms).foldl (fun sofar m => Members.put m.1 m.2 sofar) sofar)
        ⟨some (.endObject, close), rest⟩ := by
  intro ms hf
  cases fuel with
  | zero => omega
  | succ fuel =>
    cases ms with
    | nil => rfl
    | cons m ms =>
      obtain ⟨n, v⟩ := m
      simp only [Value.memberTokens, List.cons_append, List.length_cons, List.length_append] at hf
      have hrest : Value.memberTokens depth ms ++ (Token.endObject, close) :: rest ≠ [] := by simp
      simp only [Value.memberTokens, List.cons_append, List.append_assoc, readMembers]
      rw [Attempt.bind_ok (advance_ok (by simp)), Attempt.get_bind]
      simp only [on_cons, token?_mk]
      rw [Attempt.bind_ok (advance_ok (by simp [hrest])),
        Attempt.bind_ok (readWithin_on fuel depth _ v (by omega))]
      exact readMembers_ok fuel depth close (some (v.lastToken, depth)) rest _ ms (by omega)

theorem readItems_ok (fuel depth close : Nat) (c : Option Placed) (rest : List Placed) :
    (vs : List Value) → (Value.itemTokens depth vs).length + 1 ≤ fuel →
    readItems fuel ⟨c, Value.itemTokens depth vs ++ (.endArray, close) :: rest⟩
      = .ok (Value.mergeItems vs) ⟨some (.endArray, close), rest⟩ := by
  intro vs hf
  cases fuel with
  | zero => omega
  | succ fuel =>
    cases vs with
    | nil => rfl
    | cons v vs =>
      have hlen : 1 ≤ (v.tokens depth).length := by rw [Value.tokens_eq_cons]; simp
      simp only [Value.itemTokens, List.length_append] at hf
      simp only [Value.itemTokens, List.append_assoc, readItems]
      rw [Attempt.bind_ok (advance_ok (by simp)), Attempt.get_bind]
      have hopen : (on (v.tokens depth ++ (Value.itemTokens depth vs
          ++ (Token.endArray, close) :: rest))).token? = some v.firstToken := by
        rw [on_tokens]; rfl
      rw [hopen]
      have hr := readItems_ok fuel depth close (some (v.lastToken, depth)) rest vs (by omega)
      have hw := readWithin_on fuel depth
        (Value.itemTokens depth vs ++ (Token.endArray, close) :: rest) v
        (show (v.tokens depth).length ≤ fuel by omega)
      cases v <;> (simp only [Value.firstToken]; rw [Attempt.bind_ok hw, Attempt.bind_ok hr]; rfl)

end

/-- Reading a value gives it with each name once in every object, and stops on its last token. -/
theorem readValue_tokens (v : Value) (depth : Nat) (rest : List Placed) :
    readValue (on (v.tokens depth ++ rest)) = .ok v.merge ⟨some (v.lastToken, depth), rest⟩ := by
  have hf : (v.tokens depth).length
      ≤ 2 * (on (v.tokens depth ++ rest)).ahead.length + 2 := by
    rw [on_tokens, Value.tokens_eq_cons]
    simp only [List.length_cons, List.length_append]
    omega
  exact readWithin_on _ depth rest v hf

/-- So a value whose names are different is given back. -/
theorem readValue_on {v : Value} (hd : v.Distinct) (depth : Nat) (rest : List Placed) :
    readValue (on (v.tokens depth ++ rest)) = .ok v ⟨some (v.lastToken, depth), rest⟩ := by
  rw [readValue_tokens, v.merge_eq_self hd]

end TokenStream
end DeviceTwin
