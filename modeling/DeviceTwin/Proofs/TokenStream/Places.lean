import DeviceTwin.Proofs.TokenStream.Value

/-!
# Places of values in a stream

Every value within a document starts on a token of its own: the document itself, the value of each
member and each item of an array, at any depth. `Value.places` numbers these tokens. It knows nothing
of depths. A container lies around the tokens between its first one and its last one, so the places
tell how many containers lie around a token as well.

`Layout` relates tokens to the places of the values in them. It is put together as the tokens are.

Results:
* `Layout.container`: the places in a container are those of its contents and its own.
* `layout_tokens`: the tokens of a value are laid out as its places say.
* `advanceBy_ok`: the stream is brought onto any token of a document.
* `read_and_skip_alike`: from any place reading and skipping lead onto the last token of the value
  there, and the depth of any token is the number of containers around it.
-/
namespace DeviceTwin

open Json (Members Value)

def Token.startsValue : Token → Bool
  | endObject | endArray | propertyName _ => false
  | _ => true

mutual

/-- The values within a value, itself first, each with the number of its first token. The tokens are
numbered from `start` on. -/
def Json.Value.places (start : Nat) : Value → List (Nat × Value)
  | .array items => (start, .array items) :: Json.Value.itemPlaces (start + 1) items
  | .object members => (start, .object members) :: Json.Value.memberPlaces (start + 1) members
  | v => [(start, v)]

def Json.Value.itemPlaces (start : Nat) : List Value → List (Nat × Value)
  | [] => []
  | v :: vs => v.places start ++ Json.Value.itemPlaces (start + v.size) vs

/-- The values within the members of an object. In front of each stands its name. -/
def Json.Value.memberPlaces (start : Nat) : Members → List (Nat × Value)
  | [] => []
  | (_, v) :: ms => v.places (start + 1) ++ Json.Value.memberPlaces (start + 1 + v.size) ms

end

/-- Whether the value at a place has the token number `k` between its first token and its last. Only
a container has any tokens there. -/
def Json.Value.encloses (k : Nat) (place : Nat × Value) : Bool :=
  place.1 < k && k + 1 < place.1 + place.2.size

def Json.Value.containersAround (v : Value) (k : Nat) : Nat :=
  (v.places 0).countP (Value.encloses k)

namespace TokenStream

/-! ## Tokens and places -/

/-- The values at these places are in these tokens, which are numbered from `start` on. Around a
token at depth `d` there are none of them. -/
structure Layout (d start : Nat) (tokens : List Placed) (places : List (Nat × Value)) : Prop where
  /-- At a place stand the tokens of its value. -/
  split : ∀ i w, (i, w) ∈ places → ∃ d' before behind,
    tokens = before ++ (w.tokens d' ++ behind) ∧ i = start + before.length
  /-- A token is as much deeper as there are values around it. -/
  depth : ∀ k t, tokens[k]? = some t → t.2 = d + places.countP (Value.encloses (start + k))
  /-- Where a value begins there is a place. -/
  complete : ∀ k t, tokens[k]? = some t → t.1.startsValue = true → ∃ w, (start + k, w) ∈ places

theorem size_eq_length (v : Value) (d : Nat) : v.size = (v.tokens d).length :=
  length_tokens 0 d v

theorem eq_of_getElem?_single {t u : Placed} {k : Nat} (h : [t][k]? = some u) :
    k = 0 ∧ t = u := by
  rw [List.getElem?_singleton] at h
  split at h
  · next hk => exact ⟨hk, Option.some.inj h⟩
  · cases h

/-- A token of a container is its first, one of its contents or its last. -/
theorem getElem?_bracketed {first last t : Placed} {inner : List Placed} {k : Nat}
    (h : (first :: (inner ++ [last]))[k]? = some t) :
    (k = 0 ∧ t = first) ∨ (∃ j, k = j + 1 ∧ j < inner.length ∧ inner[j]? = some t) ∨
      (k = inner.length + 1 ∧ t = last) := by
  cases k with
  | zero =>
    rw [List.getElem?_cons_zero] at h
    exact .inl ⟨rfl, (Option.some.inj h).symm⟩
  | succ j =>
    rw [List.getElem?_cons_succ] at h
    by_cases hj : j < inner.length
    · rw [List.getElem?_append_left hj] at h
      exact .inr (.inl ⟨j, rfl, hj, h⟩)
    · rw [List.getElem?_append_right (by omega)] at h
      obtain ⟨hlast, rfl⟩ := eq_of_getElem?_single h
      exact .inr (.inr ⟨by omega, rfl⟩)

namespace Layout

variable {d start : Nat} {ts us : List Placed} {ps qs : List (Nat × Value)}

theorem bounds (h : Layout d start ts ps) {i : Nat} {w : Value} (hw : (i, w) ∈ ps) :
    start ≤ i ∧ i + w.size ≤ start + ts.length := by
  obtain ⟨d', before, behind, hts, hi⟩ := h.split i w hw
  have hsize := size_eq_length w d'
  simp only [hts, List.length_append]
  omega

/-- No value lies around a token that is not within the tokens, or is the first or last of them. -/
theorem countP_outside (h : Layout d start ts ps) {k : Nat}
    (hk : k ≤ start ∨ start + ts.length ≤ k + 1) : ps.countP (Value.encloses k) = 0 := by
  rw [List.countP_eq_zero]
  intro p hp hin
  have hbounds := h.bounds (i := p.1) (w := p.2) hp
  simp only [Value.encloses, Bool.and_eq_true, decide_eq_true_eq] at hin
  omega

theorem nil : Layout d start [] [] where
  split := by simp
  depth := by simp
  complete := by simp

theorem append (h : Layout d start ts ps) (h' : Layout d (start + ts.length) us qs) :
    Layout d start (ts ++ us) (ps ++ qs) where
  split := by
    intro i w hw
    rcases List.mem_append.1 hw with hw | hw
    · obtain ⟨d', before, behind, hts, hi⟩ := h.split i w hw
      exact ⟨d', before, behind ++ us, by simp [hts], hi⟩
    · obtain ⟨d', before, behind, hus, hi⟩ := h'.split i w hw
      exact ⟨d', ts ++ before, behind, by simp [hus], by rw [List.length_append]; omega⟩
  depth := by
    intro k t ht
    rw [List.countP_append]
    by_cases hk : k < ts.length
    · rw [List.getElem?_append_left hk] at ht
      rw [h.depth k t ht, h'.countP_outside (.inl (by omega)), Nat.add_zero]
    · rw [List.getElem?_append_right (by omega)] at ht
      have hnumber : start + k = start + ts.length + (k - ts.length) := by omega
      rw [h.countP_outside (.inr (by omega)), Nat.zero_add, hnumber]
      exact h'.depth _ t ht
  complete := by
    intro k t ht hstart
    by_cases hk : k < ts.length
    · rw [List.getElem?_append_left hk] at ht
      obtain ⟨w, hw⟩ := h.complete k t ht hstart
      exact ⟨w, List.mem_append_left _ hw⟩
    · rw [List.getElem?_append_right (by omega)] at ht
      obtain ⟨w, hw⟩ := h'.complete _ t ht hstart
      have hnumber : start + k = start + ts.length + (k - ts.length) := by omega
      exact ⟨w, List.mem_append_right _ (by rwa [hnumber])⟩

theorem single {t : Token} (ht : t.startsValue = false) : Layout d start [(t, d)] [] where
  split := by simp
  depth := by
    intro k u hu
    have hu := eq_of_getElem?_single hu
    rw [← hu.2]
    rfl
  complete := by
    intro k u hu hstart
    have hu := eq_of_getElem?_single hu
    rw [← hu.2, ht] at hstart
    cases hstart

section Value

variable {v : Value}

theorem self_split (v : Value) : ∃ d' before behind,
    v.tokens d = before ++ (v.tokens d' ++ behind) ∧ start = start + before.length :=
  ⟨d, [], [], by simp, rfl⟩

theorem encloses_self {k : Nat} :
    Value.encloses (start + k) (start, v) = true ↔ 0 < k ∧ k + 1 < v.size := by
  simp only [Value.encloses, Bool.and_eq_true, decide_eq_true_eq]
  omega

theorem scalar {t : Token} (hv : v.tokens d = [(t, d)]) :
    Layout d start (v.tokens d) [(start, v)] where
  split := by
    intro i w hw
    obtain ⟨rfl, rfl⟩ : i = start ∧ w = v := by simpa using hw
    exact self_split w
  depth := by
    intro k u hu
    have hsize := size_eq_length v d
    rw [hv] at hu hsize
    obtain ⟨rfl, rfl⟩ := eq_of_getElem?_single hu
    have hout : ¬ Value.encloses (start + 0) (start, v) = true := by
      rw [encloses_self]
      omega
    rw [List.countP_singleton, if_neg hout]
    rfl
  complete := by
    intro k u hu _
    rw [hv] at hu
    obtain ⟨rfl, rfl⟩ := eq_of_getElem?_single hu
    exact ⟨v, List.mem_singleton_self _⟩

/-- The places in a container are those of its contents, one level deeper, and its own. -/
theorem container {first last : Token} {inner : List Placed}
    (hv : v.tokens d = (first, d) :: (inner ++ [(last, d)])) (hlast : last.startsValue = false)
    (h : Layout (d + 1) (start + 1) inner ps) :
    Layout d start (v.tokens d) ((start, v) :: ps) := by
  have hsize : v.size = inner.length + 2 := by
    rw [size_eq_length v d, hv]
    simp
  -- The first token takes the number `start`, so the contents are numbered from the next one on.
  refine ⟨fun i w hw => ?split, fun k t ht => ?depth, fun k t ht hstart => ?complete⟩
  case split =>
    rcases List.mem_cons.1 hw with heq | hw
    · obtain ⟨rfl, rfl⟩ := Prod.mk.inj heq
      exact self_split w
    · obtain ⟨d', before, behind, hin, hi⟩ := h.split i w hw
      refine ⟨d', (first, d) :: before, behind ++ [(last, d)], by simp [hv, hin], ?_⟩
      rw [List.length_cons]
      omega
  case depth =>
    rw [hv] at ht
    rw [List.countP_cons]
    simp only [encloses_self]
    rcases getElem?_bracketed ht with ⟨rfl, rfl⟩ | ⟨j, rfl, hj, hin⟩ | ⟨rfl, rfl⟩
    · rw [if_neg (by omega), h.countP_outside (.inl (by omega))]
      rfl
    · have hnumber : start + (j + 1) = start + 1 + j := by omega
      rw [if_pos (by omega), h.depth j t hin, hnumber]
      omega
    · rw [if_neg (by omega), h.countP_outside (.inr (by omega))]
      rfl
  case complete =>
    rw [hv] at ht
    rcases getElem?_bracketed ht with ⟨rfl, rfl⟩ | ⟨j, rfl, hj, hin⟩ | ⟨rfl, rfl⟩
    · exact ⟨v, List.mem_cons_self⟩
    · obtain ⟨w, hw⟩ := h.complete j t hin hstart
      have hnumber : start + (j + 1) = start + 1 + j := by omega
      exact ⟨w, List.mem_cons_of_mem _ (by rwa [hnumber])⟩
    · rw [hlast] at hstart
      cases hstart

end Value

end Layout

mutual

/-- The tokens of a value are laid out as its places say. -/
theorem layout_tokens (d start : Nat) : (v : Value) → Layout d start (v.tokens d) (v.places start)
  | .null => .scalar rfl
  | .bool _ => .scalar rfl
  | .number _ => .scalar rfl
  | .string _ => .scalar rfl
  | .array items => .container rfl rfl (layout_itemTokens (d + 1) (start + 1) items)
  | .object members => .container rfl rfl (layout_memberTokens (d + 1) (start + 1) members)

theorem layout_itemTokens (d start : Nat) :
    (vs : List Value) → Layout d start (Value.itemTokens d vs) (Value.itemPlaces start vs)
  | [] => .nil
  | v :: vs => by
    have hrest := layout_itemTokens d (start + v.size) vs
    rw [size_eq_length v d] at hrest
    have hall := (layout_tokens d start v).append hrest
    rw [← size_eq_length v d] at hall
    exact hall

theorem layout_memberTokens (d start : Nat) :
    (ms : Members) → Layout d start (Value.memberTokens d ms) (Value.memberPlaces start ms)
  | [] => .nil
  | (name, v) :: ms => by
    have hrest := layout_memberTokens d (start + 1 + v.size) ms
    rw [size_eq_length v d] at hrest
    have hvalue := (layout_tokens d (start + 1) v).append hrest
    rw [← size_eq_length v d] at hvalue
    have hname : Layout d start [(.propertyName name, d)] [] := .single rfl
    exact hname.append hvalue

end

/-! ## Streams at a place -/

def advanceBy : (n : Nat) → Attempt TokenStream Unit
  | 0 => pure ()
  | n + 1 => do
    advance
    advanceBy n

theorem advanceBy_ok (c : Option Placed) (before : List Placed) {rest : List Placed}
    (h : rest ≠ []) : advanceBy (before.length + 1) ⟨c, before ++ rest⟩ = .ok () (on rest) := by
  induction before generalizing c with
  | nil =>
    unfold advanceBy
    exact Attempt.bind_ok (advance_ok h)
  | cons t before ih =>
    unfold advanceBy
    exact (Attempt.bind_ok (advance_ok (by simp))).trans (ih (some t))

/-- The last token of a value closes it, where it is a container. -/
theorem tokens_eq_concat (v : Value) (d : Nat) :
    ∃ before, v.tokens d = before ++ [(v.lastToken, d)] ∧ before.length + 1 = v.size := by
  have hlength := size_eq_length v d
  cases v with
  | null | bool _ | number _ | string _ => exact ⟨[], rfl, rfl⟩
  | array items =>
    refine ⟨(.beginArray, d) :: Value.itemTokens (d + 1) items, rfl, ?_⟩
    rw [hlength]
    simp [Value.tokens]
  | object members =>
    refine ⟨(.beginObject, d) :: Value.memberTokens (d + 1) members, rfl, ?_⟩
    rw [hlength]
    simp [Value.tokens]

mutual

theorem distinct_of_mem_places (start : Nat) {i : Nat} {w : Value} :
    (v : Value) → v.Distinct → (i, w) ∈ v.places start → w.Distinct
  | .null, hd, hw | .bool _, hd, hw | .number _, hd, hw | .string _, hd, hw => by
    obtain ⟨-, rfl⟩ : i = start ∧ w = _ := by simpa [Value.places] using hw
    exact hd
  | .array items, hd, hw => by
    rcases List.mem_cons.1 hw with heq | hw
    · cases heq
      exact hd
    · exact distinct_of_mem_itemPlaces (start + 1) items ((Value.distinct_array items).1 hd) hw
  | .object members, hd, hw => by
    rcases List.mem_cons.1 hw with heq | hw
    · cases heq
      exact hd
    · exact distinct_of_mem_memberPlaces (start + 1) members
        ((Value.distinct_object members).1 hd).2 hw

theorem distinct_of_mem_itemPlaces (start : Nat) {i : Nat} {w : Value} :
    (vs : List Value) → (∀ v ∈ vs, v.Distinct) → (i, w) ∈ Value.itemPlaces start vs → w.Distinct
  | v :: vs, hd, hw => by
    rcases List.mem_append.1 hw with hw | hw
    · exact distinct_of_mem_places start v (hd v List.mem_cons_self) hw
    · exact distinct_of_mem_itemPlaces _ vs (fun u hu => hd u (List.mem_cons_of_mem v hu)) hw

theorem distinct_of_mem_memberPlaces (start : Nat) {i : Nat} {w : Value} :
    (ms : Members) → (∀ m ∈ ms, m.2.Distinct) → (i, w) ∈ Value.memberPlaces start ms → w.Distinct
  | m :: ms, hd, hw => by
    rcases List.mem_append.1 hw with hw | hw
    · exact distinct_of_mem_places _ m.2 (hd m List.mem_cons_self) hw
    · exact distinct_of_mem_memberPlaces _ ms (fun u hu => hd u (List.mem_cons_of_mem m hu)) hw

end

/-- From a place the value there is read and skipped, and both lead as far as moving the stream past
all of its tokens but the last. -/
theorem passed_at_place {v w : Value} {i : Nat} (hd : v.Distinct) (hw : (i, w) ∈ v.places 0) :
    ∃ s s', advanceBy (i + 1) (ofValue v) = .ok () s ∧ readValue s = .ok w s' ∧
      skipValue s = .ok () s' ∧ advanceBy (i + w.size) (ofValue v) = .ok () s' ∧
      s'.depth = s.depth := by
  obtain ⟨d, before, behind, htokens, hi⟩ := (layout_tokens 0 0 v).split i w hw
  obtain ⟨most, hlast, hsize⟩ := tokens_eq_concat w d
  have hstart : ofValue v = ⟨none, before ++ (w.tokens d ++ behind)⟩ := by
    rw [ofValue, ofTokens, htokens]
  have hthere : advanceBy (i + 1) (ofValue v) = .ok () (on (w.tokens d ++ behind)) := by
    rw [hstart, hi, Nat.zero_add]
    exact advanceBy_ok none before (by rw [Value.tokens_eq_cons]; simp)
  have hbehind : advanceBy (i + w.size) (ofValue v)
      = .ok () (on ((w.lastToken, d) :: behind)) := by
    have hcount : i + w.size = (before ++ most).length + 1 := by
      rw [List.length_append]
      omega
    have hsplit : before ++ (w.tokens d ++ behind)
        = (before ++ most) ++ (w.lastToken, d) :: behind := by
      rw [hlast]
      simp
    rw [hstart, hcount, hsplit]
    exact advanceBy_ok none _ (by simp)
  refine ⟨_, _, hthere, readValue_on (distinct_of_mem_places 0 v hd hw) d behind,
    skipValue_on w d behind, hbehind, ?_⟩
  rw [on_tokens]
  rfl

theorem startsValue_firstToken (v : Value) : v.firstToken.startsValue = true := by
  cases v <;> rfl

theorem reached_by_number (v : Value) {k : Nat} (hk : k < v.size) :
    ∃ s t, advanceBy (k + 1) (ofValue v) = .ok () s ∧ s.token? = some t ∧
      s.depth = v.containersAround k ∧ (t.startsValue = true ↔ ∃ w, (k, w) ∈ v.places 0) := by
  have hlayout := layout_tokens 0 0 v
  rw [size_eq_length v 0] at hk
  have ht := List.getElem?_eq_getElem hk
  have hdrop := List.drop_eq_getElem_cons hk
  generalize (v.tokens 0)[k] = t at ht hdrop
  have hmove : advanceBy (k + 1) (ofValue v) = .ok () (on (t :: (v.tokens 0).drop (k + 1))) := by
    have hrest : (v.tokens 0).drop k ≠ [] := by simp [hdrop]
    have hmove := advanceBy_ok none ((v.tokens 0).take k) hrest
    rwa [List.take_append_drop, List.length_take, Nat.min_eq_left (Nat.le_of_lt hk), hdrop] at hmove
  refine ⟨_, t.1, hmove, rfl, ?_, ?_, ?_⟩
  · have hdepth := hlayout.depth k t ht
    rwa [Nat.zero_add, Nat.zero_add] at hdepth
  · intro hstart
    have hplace := hlayout.complete k t ht hstart
    rwa [Nat.zero_add] at hplace
  · intro ⟨w, hw⟩
    obtain ⟨d, before, behind, htokens, hi⟩ := hlayout.split k w hw
    rw [htokens, hi, Nat.zero_add, List.getElem?_append_right (Nat.le_refl _), Nat.sub_self,
      Value.tokens_eq_cons] at ht
    cases ht
    exact startsValue_firstToken w

/-- In a document in which no object repeats a name, from any place reading gives the value there,
and reading and skipping both lead onto the last token of this value, at the depth at which it
started. Each token has as its depth the number of containers around it, and it is at a place where
a value begins with it and nowhere else. -/
theorem read_and_skip_alike (v : Value) (hd : v.Distinct) :
    (∀ i w, (i, w) ∈ v.places 0 →
      ∃ s s', advanceBy (i + 1) (ofValue v) = .ok () s ∧ readValue s = .ok w s' ∧
        skipValue s = .ok () s' ∧ advanceBy (i + w.size) (ofValue v) = .ok () s' ∧
        s'.depth = s.depth) ∧
    ∀ k, k < v.size →
      ∃ s t, advanceBy (k + 1) (ofValue v) = .ok () s ∧ s.token? = some t ∧
        s.depth = v.containersAround k ∧ (t.startsValue = true ↔ ∃ w, (k, w) ∈ v.places 0) :=
  ⟨fun _ _ hw => passed_at_place hd hw, fun _ hk => reached_by_number v hk⟩

/-- A document with containers in one another: its values begin with the tokens number 0, 2, 3, 5 and
7, and around the last of these, the null, there are three containers. -/
def nestedDocument : Value :=
  .object [("a", .array [.array [], .object [("b", .null)]])]

theorem read_and_skip_alike_sample :
    nestedDocument.Distinct ∧
    (5, Value.object [("b", .null)]) ∈ nestedDocument.places 0 ∧
    (∃ s s', advanceBy 6 (ofValue nestedDocument) = .ok () s ∧
      readValue s = .ok (.object [("b", .null)]) s' ∧ skipValue s = .ok () s' ∧
      advanceBy 9 (ofValue nestedDocument) = .ok () s' ∧ s'.depth = s.depth) ∧
    ∃ s, advanceBy 8 (ofValue nestedDocument) = .ok () s ∧ s.depth = 3 := by
  have hd : nestedDocument.Distinct := by simp [nestedDocument]
  have hplace : (5, Value.object [("b", .null)]) ∈ nestedDocument.places 0 := by decide
  obtain ⟨hpassed, hreached⟩ := read_and_skip_alike nestedDocument hd
  obtain ⟨s, t, hmove, -, hdepth, -⟩ := hreached 7 (by decide)
  exact ⟨hd, hplace, hpassed 5 _ hplace, s, hmove, hdepth⟩

end TokenStream
end DeviceTwin
