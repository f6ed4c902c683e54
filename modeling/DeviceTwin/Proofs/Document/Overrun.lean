import DeviceTwin.Proofs.Document.AnyTokens
import DeviceTwin.Proofs.TokenStream.Positions

/-!
# Streams moved too far

A caller that moves the stream by hand may leave more behind than the value of the last property.
The cursor goes by the token that it then finds. Only where this is neither another name at the
depth of the property nor the end of an object one level up does it notice anything. Otherwise it
goes on: the members between are lost, and those of whatever object the stream is in are yielded in
the component of the last property.

Results:
* `isConsumed_iff`: what the cursor looks at.
* `outcome_walk_component`: a walk in a component is refused at a token that is no member.
* `next_behind_move`: the answer of the next call, wherever in the document the stream was moved.
* `overrun_unnoticed`: a property is lost, and another one yielded in a component that it is not in.
-/
namespace DeviceTwin.Cursor

open Json (Members Value)
open TokenStream (on ofTokens Follows Inside)

/-- The stream is on another name at the depth of the property, or on the end of an object that has
its members there. -/
def LooksPassed (kind : ResponseKind) (p : Property) (s : TokenStream) : Prop :=
  (∃ name, name ≠ p.name ∧ s.current? = some (.propertyName name, nameDepth kind p)) ∨
    ∃ d, nameDepth kind p = d + 1 ∧ s.current? = some (.endObject, d)

theorem isConsumed_iff {kind : ResponseKind} {p : Property} {s : TokenStream} :
    isConsumed s p.name (nameDepth kind p) = true ↔ LooksPassed kind p s := by
  obtain ⟨current, ahead⟩ := s
  cases current with
  | none => simp [isConsumed, LooksPassed, TokenStream.token?]
  | some t =>
    obtain ⟨t, d⟩ := t
    cases t with
    | propertyName name =>
      have hleft : isConsumed ⟨some (.propertyName name, d), ahead⟩ p.name (nameDepth kind p) = true
          ↔ d = nameDepth kind p ∧ name ≠ p.name := by
        show (decide (d = nameDepth kind p) && decide (name ≠ p.name)) = true ↔ _
        simp
      rw [hleft]
      constructor
      · rintro ⟨rfl, hne⟩
        exact .inl ⟨name, hne, rfl⟩
      · rintro (⟨_, hne, heq⟩ | ⟨_, _, hno⟩)
        · cases heq
          exact ⟨rfl, hne⟩
        · cases hno
    | endObject =>
      have hleft : isConsumed ⟨some (.endObject, d), ahead⟩ p.name (nameDepth kind p) = true
          ↔ d + 1 = nameDepth kind p := decide_eq_true_iff
      rw [hleft]
      constructor
      · intro h
        exact .inr ⟨d, h.symm, rfl⟩
      · rintro (⟨_, _, hno⟩ | ⟨_, h, heq⟩)
        · cases hno
        · cases heq
          exact h.symm
    | beginObject | beginArray | endArray | string _ | number _ | bool _ | null =>
      simp [isConsumed, LooksPassed]

/-! ## Where the walk goes on -/

/-- The first of these properties, or else the refusal of a token that is no member. -/
def firstOrRefused : List (Property × Value) → Except PropertyError (Option Property)
  | [] => .error (.invalidState .notAMember)
  | (p, _) :: _ => .ok (some p)

theorem outcome_walk_of_not_member {c : Cursor} {t : Placed} {rest : List Placed} (fuel : Nat)
    (hs : c.stream = ⟨some t, rest⟩) (hend : t.1 ≠ .endObject)
    (hname : ∀ name, t.1 ≠ .propertyName name) :
    Attempt.outcome (walk (fuel + 1) c) = .error (.invalidState .notAMember) := by
  rw [walk, Attempt.get_bind]
  simp only [hs, TokenStream.token?_mk]
  cases h : t.1 with
  | endObject => exact absurd h hend
  | propertyName name => exact absurd h (hname name)
  | beginObject | beginArray | endArray | string _ | number _ | bool _ | null => rfl

theorem componentProperties_cons (name n : String) (v : Value) (ms : Members) :
    Document.componentProperties name ((n, v) :: ms) =
      if Document.isReserved n = true ∨ n = Component.markerKey then
        Document.componentProperties name ms
      else (⟨some name, n⟩, v) :: Document.componentProperties name ms := by
  by_cases hr : Document.isReserved n = true
  · simp [Document.componentProperties, hr]
  · by_cases hm : n = Component.markerKey
    · simp [Document.componentProperties, hm]
    · simp [Document.componentProperties, hr, hm]

theorem role_in_component {c : Cursor} {name : String} (hc : c.component = some name)
    (n : String) : c.role n = if Document.isReserved n = true ∨ n = Component.markerKey
      then .reserved else .property := by
  by_cases hr : Document.isReserved n = true
  · rw [role_of_isReserved c hr, if_pos (.inl hr)]
  · rw [role_inside (by simp [hc]) (by simpa using hr)]
    simp [hr]

/-- Where a component is followed by a token that is no member, the walk yields what is left of the
component and is refused behind it. -/
theorem outcome_walk_component {name : String} {d : Nat} {t : Placed} {rest : List Placed}
    (hend : t.1 ≠ .endObject) (hname : ∀ name, t.1 ≠ .propertyName name) (left : Members)
    {c : Cursor} (hc : c.component = some name) (hd : c.memberDepth = d) {fuel : Nat}
    (hs : c.stream = on (Value.memberTokens (d + 1) left ++ (.endObject, d) :: t :: rest))
    (hf : (Value.memberTokens (d + 1) left).length + 2 ≤ fuel) :
    Attempt.outcome (walk fuel c) = firstOrRefused (Document.componentProperties name left) := by
  have hdepth : c.propertyDepth = d + 1 := by simp [propertyDepth, hc, hd]
  obtain ⟨fuel, rfl⟩ := Nat.exists_eq_add_of_le' (show 1 ≤ fuel by omega)
  induction left generalizing c fuel with
  | nil =>
    obtain ⟨fuel, rfl⟩ := Nat.exists_eq_add_of_le' (show 1 ≤ fuel by omega)
    rw [walk_leave (fuel + 1) hc hd hs (by simp)]
    exact outcome_walk_of_not_member fuel rfl hend hname
  | cons m left ih =>
    obtain ⟨n, v⟩ := m
    simp only [Value.memberTokens, List.cons_append, List.append_assoc, TokenStream.on_cons,
      List.length_cons, List.length_append] at hs hf
    rw [← hdepth] at hs
    rw [componentProperties_cons]
    have hrole := role_in_component hc n
    by_cases hskip : Document.isReserved n = true ∨ n = Component.markerKey
    · obtain ⟨fuel, rfl⟩ := Nat.exists_eq_add_of_le' (show 1 ≤ fuel by omega)
      rw [if_pos hskip] at hrole ⊢
      rw [walk_reserved (fuel + 1) hs (by simp) hrole]
      exact ih (c := { c with stream := on _ }) hc hd (by rw [hdepth]) hdepth fuel (by omega)
    · rw [if_neg hskip] at hrole ⊢
      rw [walk_name fuel hs, hrole, hc]
      rfl

theorem itemTokens_ne_member (d : Nat) (vs : List Value) (ts : List Placed) :
    ∃ t rest, Value.itemTokens (d + 1) vs ++ (.endArray, d) :: ts = t :: rest ∧
      t.1 ≠ .endObject ∧ ∀ name, t.1 ≠ .propertyName name := by
  cases vs with
  | nil => exact ⟨_, _, rfl, (fun h => by cases h), (fun _ h => by cases h)⟩
  | cons v vs =>
    rw [Value.itemTokens, Value.tokens_eq_cons]
    refine ⟨_, _, rfl, ?_, ?_⟩
    · cases v <;> exact fun h => by cases h
    · cases v <;> exact fun _ h => by cases h

/-- What the next call answers where the stream looks as if it were behind the value of `p`. The
walk goes on among the members that are left of the object in which the stream is. -/
inductive Resumes (registry : ComponentRegistry) (d : Nat) (p : Property) (s : TokenStream)
    (outcome : EStateM.Result PropertyError Cursor (Option Property)) : Prop where
  /-- Outside of components they are the properties that follow, and the end of their object is
  taken for that of the walked one. -/
  | outside {left : Members} {rest : List Placed} (hp : p.component = none)
      (hs : s = on (Value.memberTokens (d + 1) left ++ (.endObject, d) :: rest))
      (hy : Yields ⟨some (.endObject, d), rest⟩ outcome (Document.properties registry left))
  /-- Inside a component they are yielded as its properties, whatever object they are in. Those of
  the object around it follow. -/
  | inMember {name : String} {left ms : Members} {rest : List Placed}
      (hp : p.component = some name)
      (hs : s = on (Value.memberTokens (d + 1 + 1) left ++ (.endObject, d + 1)
        :: (Value.memberTokens (d + 1) ms ++ (.endObject, d) :: rest)))
      (hy : Yields ⟨some (.endObject, d), rest⟩ outcome
        (Document.componentProperties name left ++ Document.properties registry ms))
  /-- If their object is an item of an array then the walk is refused behind it. -/
  | inItem {name : String} {left : Members} {vs : List Value} {rest : List Placed}
      (hp : p.component = some name)
      (hs : s = on (Value.memberTokens (d + 1 + 1) left ++ (.endObject, d + 1)
        :: (Value.itemTokens (d + 1) vs ++ (.endArray, d) :: rest)))
      (hy : Attempt.outcome outcome = firstOrRefused (Document.componentProperties name left))

theorem Yields.ne_error {stop : TokenStream} {e : PropertyError} {c : Cursor}
    {ps : List (Property × Value)} : ¬ Yields stop (.error e c) ps := by
  intro h
  cases h

theorem Resumes.ne_error {registry : ComponentRegistry} {d : Nat} {p : Property} {s : TokenStream}
    {name : String} {c : Cursor} :
    ¬ Resumes registry d p s (.error (.invalidState (.valueNotConsumed name)) c) := by
  intro h
  cases h with
  | outside _ _ hy | inMember _ _ hy => exact hy.ne_error
  | @inItem component left _ _ _ _ hy =>
    unfold firstOrRefused at hy
    split at hy <;> cases hy

/-- Inside an object of the document the walk goes on there. -/
theorem resumes_walk {registry : ComponentRegistry} {kind : ResponseKind} {p : Property}
    {c : Cursor} {d fuel : Nat} {ts : List Placed} (hr : c.registry = registry)
    (hc : c.component = p.component) (hm : c.memberDepth = walkedDepth kind + 1)
    (hd : nameDepth kind p = d + 1) (hs : c.stream = on ts) (hin : Inside d ts)
    (hf : ts.length ≤ fuel) : Resumes registry (walkedDepth kind) p c.stream (walk fuel c) := by
  subst hr
  obtain ⟨left, rest, rfl, hdistinct, hfollows⟩ := hin
  cases hp : p.component with
  | none =>
    obtain rfl : walkedDepth kind = d := by simpa [nameDepth, hp] using hd
    rw [hp] at hc
    exact .outside hp hs ((yieldsFrom_rest (r := .outside left) rest hdistinct hc hm).walk hs hf)
  | some name =>
    obtain rfl : walkedDepth kind + 1 = d := by simpa [nameDepth, hp] using hd
    rw [hp] at hc
    cases hfollows with
    | @members _ ms rest hms _ =>
      have hyields := yieldsFrom_rest (r := .inside name left ms) rest ⟨hdistinct, hms⟩ hc hm
      exact .inMember hp hs (hyields.walk hs hf)
    | @items _ vs rest _ _ =>
      obtain ⟨t, rest', heq, hend, hname⟩ := itemTokens_ne_member (walkedDepth kind) vs rest
      refine .inItem hp hs ?_
      rw [heq] at hs hf
      refine outcome_walk_component hend hname left hc hm hs ?_
      simp only [List.length_append, List.length_cons] at hf
      omega

/-- What a cursor knows behind a property, whatever its caller did before. -/
theorem Steady.yielded {tokens : List Placed} {registry : ComponentRegistry} {kind : ResponseKind}
    {w : Watch} {c : Cursor} {p : Property} (h : Steady tokens registry kind w)
    (hp : nextProperty w.cursor = .ok (some p) c) :
    Rooted tokens registry kind c ∧ c.progress = .yielded p.name (nameDepth kind p) ∧
      c.component = p.component ∧ c.memberDepth = walkedDepth kind + 1 := by
  obtain ⟨hprogress, hcomp, -⟩ := of_nextProperty hp
  have hnext := h.next
  rw [hp] at hnext
  obtain ⟨hm, -⟩ := (linked_yielded (c := c) hprogress).1 hnext.linked
  have hdepth : nameDepth kind p = c.propertyDepth := by
    have hname := nameDepth_eq hm p.name
    rwa [← hcomp] at hname
  exact ⟨hnext.rooted, by rw [hprogress, hdepth], hcomp.symm, hm⟩

/-- Wherever in the document the stream is moved to behind a property, and whatever the caller did
before: the next call is refused exactly where the stream is neither on another name at the depth of
the property nor on the end of an object one level up. From any other place the walk goes on in the
same component with the members that are left of the object there, whichever members lie between. -/
theorem next_behind_move (document : Value) (registry : ComponentRegistry) (kind : ResponseKind)
    (filter : PropertyFilter) (s₀ s : TokenStream) (c₀ c : Cursor) (ts : List Touch) (p : Property)
    (hd : document.Distinct) (hs₀ : (TokenStream.ofValue document).Reaches s₀)
    (hc : Cursor.start s₀ registry kind filter = .ok c₀)
    (hp : nextProperty ((Watch.start c₀).touchAll ts).cursor = .ok (some p) c)
    (hs : c.stream.Reaches s) :
    (nextProperty { c with stream := s }
        = .error (.invalidState (.valueNotConsumed p.name)) { c with stream := s } ↔
      ¬ LooksPassed kind p s) ∧
    (LooksPassed kind p s →
      Resumes registry (walkedDepth kind) p s (nextProperty { c with stream := s })) := by
  obtain ⟨hrooted, hprogress, hcomp, hm⟩ :=
    ((Steady.start hs₀ hc).touchAll ts).yielded hp
  have hresumes : LooksPassed kind p s →
      Resumes registry (walkedDepth kind) p s (nextProperty { c with stream := s }) := by
    intro hlooks
    obtain ⟨d, hdepth⟩ : ∃ d, nameDepth kind p = d + 1 := ⟨_, Nat.add_right_comm _ _ _⟩
    have hreached : (ofTokens (document.tokens 0)).Reaches s := hrooted.reached.trans hs
    have hnested := TokenStream.nested_document hd
    -- The token that the cursor looks at tells that the stream is inside an object.
    obtain ⟨tokens, rfl, hin⟩ : ∃ tokens, s = on tokens ∧ Inside d tokens := by
      obtain ⟨current, ahead⟩ := s
      rcases hlooks with ⟨name, -, hon⟩ | ⟨d', hd', hon⟩
      · cases hon
        obtain ⟨d', hd', hin⟩ := hnested _ hreached.suffix_of_current
        obtain rfl : d = d' := by omega
        exact ⟨_, rfl, hin⟩
      · cases hon
        obtain rfl : d = d' := by omega
        exact ⟨_, rfl, hnested _ hreached.suffix_of_current⟩
    rw [nextProperty_of_isConsumed (c := { c with stream := on tokens }) hprogress
      (isConsumed_iff.2 hlooks)]
    exact resumes_walk (c := { c with stream := on tokens }) hrooted.registry_eq hcomp hm hdepth rfl
      hin (TokenStream.length_le_ahead tokens)
  refine ⟨⟨fun herror hlooks => ?_, fun hno => ?_⟩, hresumes⟩
  · have hresumed := hresumes hlooks
    rw [herror] at hresumed
    exact hresumed.ne_error
  · refine nextProperty_error hprogress (Bool.eq_false_iff.2 fun hyes => ?_)
    exact hno (isConsumed_iff.1 hyes)

/-- A component with one property, and behind it a property that is lost and one whose value has a
member at the depth of the first. -/
def overrunDocument : Value := .object [
  ("heater", .object [("__t", .string "c"), ("target", .number (.integer 1))]),
  ("list", .array []), ("pump", .object [("speed", .number (.integer 3))])]

def overrunCursor : Cursor where
  stream := on ((overrunDocument.tokens 0).drop 5)
  registry := .ofList ["heater"]
  kind := .desiredPatch
  filter := .writeableOnly
  progress := .yielded "target" 2
  component := some "heater"
  memberDepth := 1

theorem next_behind_move_sample :
    ∃ s₀ s c₀, (TokenStream.ofValue overrunDocument).Reaches s₀ ∧
      Cursor.start s₀ (.ofList ["heater"]) .desiredPatch .writeableOnly = .ok c₀ ∧
      nextProperty c₀ = .ok (some ⟨some "heater", "target"⟩) overrunCursor ∧
      overrunCursor.stream.Reaches s ∧ s.current? = some (.propertyName "speed", 2) ∧
      Resumes (.ofList ["heater"]) 0 ⟨some "heater", "target"⟩ s
        (nextProperty { overrunCursor with stream := s }) := by
  have hd : overrunDocument.Distinct := by simp [overrunDocument]
  have hs₀ : (TokenStream.ofValue overrunDocument).Reaches (on (overrunDocument.tokens 0)) :=
    .moved List.suffix_rfl
  have hp : nextProperty ⟨on (overrunDocument.tokens 0), .ofList ["heater"], .desiredPatch,
      .writeableOnly, .start, none, 1⟩ = .ok (some ⟨some "heater", "target"⟩) overrunCursor := by
    rfl
  have hs : overrunCursor.stream.Reaches (on ((overrunDocument.tokens 0).drop 13)) :=
    .moved ⟨((overrunDocument.tokens 0).drop 6).take 7, rfl⟩
  have hlooks : LooksPassed .desiredPatch ⟨some "heater", "target"⟩
      (on ((overrunDocument.tokens 0).drop 13)) :=
    .inl ⟨"speed", by decide, rfl⟩
  exact ⟨_, _, _, hs₀, rfl, hp, hs, rfl, (next_behind_move overrunDocument _ .desiredPatch
    .writeableOnly _ _ _ _ [] _ hd hs₀ rfl hp hs).2 hlooks⟩

/-- The stream is moved six tokens too far, and the cursor does not notice: the next call yields a
member of the pump as a property of the heater. -/
theorem overrun_unnoticed :
    ∃ c₀ c behind, Cursor.start (on (overrunDocument.tokens 0)) (.ofList ["heater"])
        .desiredPatch .writeableOnly = .ok c₀ ∧
      nextProperty c₀ = .ok (some ⟨some "heater", "target"⟩) overrunCursor ∧
      overrunCursor.stream.ahead = (.number (.integer 1), 2) :: (.endObject, 1)
        :: (.propertyName "list", 1) :: (.beginArray, 1) :: (.endArray, 1)
        :: (.propertyName "pump", 1) :: (.beginObject, 1) :: (.propertyName "speed", 2)
        :: behind ∧
      nextProperty { overrunCursor with stream := ⟨some (.propertyName "speed", 2), behind⟩ }
        = .ok (some ⟨some "heater", "speed"⟩) c := by
  refine ⟨⟨on (overrunDocument.tokens 0), .ofList ["heater"], .desiredPatch, .writeableOnly,
    .start, none, 1⟩, { overrunCursor with
      stream := on ((overrunDocument.tokens 0).drop 13)
      progress := .yielded "speed" 2 }, (overrunDocument.tokens 0).drop 14, rfl, ?_, rfl, ?_⟩
  · rfl
  · rfl

end DeviceTwin.Cursor
