import DeviceTwin.Document.Cursor
import DeviceTwin.Proofs.Document.Rest

/-!
# What a walk yields

A cursor keeps no position of its own. It looks ahead to tell a component from a property, and it
tells by name and depth whether a value was consumed. Here a walk over the tokens of an object is
followed member by member and found to yield the properties that are read off the members.

`Yields stop outcome ps` says of a call for the next property that it, and all that follow it, give
the properties `ps` in order and then leave the stream as `stop`. Each answer leaves the stream on
the name of a property, with its value ahead. Between two calls the value may be read or skipped:
both leave the same cursor.

Results:
* `Yields.consume`: reading and skipping a value lead to the same cursor, from which the rest follows.
* `atComponent_on`: looking three tokens ahead finds out whether a member is a component.
* `walk_leads`: what a call gives from any member on, whether names are repeated or not.
* `isConsumed_rest`: which members a cursor takes for the end of the value in front of them.
* `yieldsFrom_rest`: where the names differ the walk yields the properties that remain.
-/
namespace DeviceTwin.Cursor

open Document (Landing Leads Rest entered?)
open Json (Members Value)
open TokenStream (on)

/-- The outcome of a call for the next property, and of all calls that follow it once the values are
passed. -/
inductive Yields (stop : TokenStream) :
    EStateM.Result PropertyError Cursor (Option Property) → List (Property × Value) → Prop where
  | ended {c : Cursor} (hp : c.progress = .ended) (hc : c.component = none)
      (hs : c.stream = stop) : Yields stop (.ok none c) []
  | property {c : Cursor} {p : Property} {v : Value} {depth : Nat} {rest : List Placed}
      {ps : List (Property × Value)} (hp : c.progress = .yielded p.name depth)
      (hs : c.stream = ⟨some (.propertyName p.name, depth), v.tokens depth ++ rest⟩)
      (hv : v.Distinct) (hr : isConsumed (on rest) p.name depth = true)
      (hrest : Yields stop (nextProperty { c with stream := on rest }) ps) :
      Yields stop (.ok (some p) c) ((p, v) :: ps)

/-! ## Single steps -/

theorem onStream_ok {α : Type} {x : Attempt TokenStream α} {c : Cursor} {a : α} {s : TokenStream}
    (h : x c.stream = .ok a s) : onStream x c = .ok a { c with stream := s } := by
  rw [onStream, h]

/-- Looking three tokens ahead finds out whether a member is a component. -/
theorem atComponent_on (t : Option Placed) (v : Value) (depth : Nat) (rest : List Placed) :
    atComponent ⟨t, v.tokens depth ++ rest⟩ = (Document.componentMembers? v).isSome := by
  cases v with
  | null | bool _ | number _ | string _ => rfl
  | array items => rfl
  | object members =>
    cases members with
    | nil => rfl
    | cons m ms =>
      obtain ⟨n, w⟩ := m
      have hpeek : (⟨t, (Value.object ((n, w) :: ms)).tokens depth ++ rest⟩ : TokenStream).peek? 3
          = some w.firstToken := by
        simp [TokenStream.peek?, Value.tokens, Value.memberTokens, Value.tokens_eq_cons]
      have hopen : atComponent ⟨t, (Value.object ((n, w) :: ms)).tokens depth ++ rest⟩
          = (decide (n = Component.markerKey)
            && decide (w.firstToken = .string Component.markerValue)) := by
        rw [atComponent, hpeek]
        simp [TokenStream.peek?, Value.tokens, Value.memberTokens]
      rw [hopen]
      cases w with
      | string s =>
        by_cases hn : n = Component.markerKey <;> by_cases hs : s = Component.markerValue <;>
          simp [Document.componentMembers?, Value.firstToken, hn, hs]
      | null | bool _ | number _ | array _ | object _ =>
        simp [Document.componentMembers?, Value.firstToken]

theorem walk_end {c : Cursor} {d : Nat} {rest : List Placed} (fuel : Nat)
    (hc : c.component = none) (hd : c.memberDepth = d + 1)
    (hs : c.stream = ⟨some (.endObject, d), rest⟩) :
    walk (fuel + 1) c = .ok none { c with progress := .ended } := by
  rw [walk, Attempt.get_bind]
  simp [hs, hc, hd]

theorem walk_leave {c : Cursor} {d : Nat} {name : String} {rest : List Placed} (fuel : Nat)
    (hc : c.component = some name) (hd : c.memberDepth = d)
    (hs : c.stream = ⟨some (.endObject, d), rest⟩) (hr : rest ≠ []) :
    walk (fuel + 1) c = walk fuel { c with component := none, stream := on rest } := by
  rw [walk, Attempt.get_bind]
  simp only [hs, TokenStream.token?_mk, TokenStream.depth_mk, hc, hd, Option.isSome_some,
    true_and, if_true, Attempt.set_bind]
  exact Attempt.bind_ok (onStream_ok (TokenStream.advance_ok hr))

theorem walk_name {c : Cursor} {name : String} {ahead : List Placed} (fuel : Nat)
    (hs : c.stream = ⟨some (.propertyName name, c.propertyDepth), ahead⟩) :
    walk (fuel + 1) c =
      match c.role name with
      | .reserved => (onStream TokenStream.skipMember >>= fun _ => walk fuel) c
      | .component => (enterComponent name >>= fun _ => walk fuel) c
      | .property => .ok (some ⟨c.component, name⟩)
          { c with progress := .yielded name c.propertyDepth } := by
  rw [walk, Attempt.get_bind]
  simp only [hs, TokenStream.token?_mk, TokenStream.depth_mk, if_true]
  cases c.role name <;> rfl

theorem walk_reserved {c : Cursor} {name : String} {v : Value} {rest : List Placed} (fuel : Nat)
    (hs : c.stream = ⟨some (.propertyName name, c.propertyDepth), v.tokens c.propertyDepth ++ rest⟩)
    (hr : rest ≠ []) (hrole : c.role name = .reserved) :
    walk (fuel + 1) c = walk fuel { c with stream := on rest } := by
  rw [walk_name fuel hs, hrole]
  show (onStream TokenStream.skipMember >>= fun _ => walk fuel) c = _
  refine Attempt.bind_ok (onStream_ok (a := ()) ?_)
  rw [hs]
  exact TokenStream.skipMember_ok _ v _ hr

theorem walk_enter {c : Cursor} {name : String} {ms : Members} {rest : List Placed} (fuel : Nat)
    (hs : c.stream = ⟨some (.propertyName name, c.propertyDepth),
      (Value.object ((Component.markerKey, .string Component.markerValue) :: ms)).tokens
        c.propertyDepth ++ rest⟩)
    (hrole : c.role name = .component) :
    walk (fuel + 1) c = walk fuel { c with
      component := some name
      stream := on (Value.memberTokens (c.propertyDepth + 1) ms
        ++ (.endObject, c.propertyDepth) :: rest) } := by
  rw [walk_name fuel hs, hrole]
  simp only [Value.tokens, Value.memberTokens, List.cons_append, List.nil_append,
    List.append_assoc] at hs
  show (enterComponent name >>= fun _ => walk fuel) c = _
  refine Attempt.bind_ok (a := ()) ?_
  unfold enterComponent
  rw [Attempt.bind_ok (onStream_ok (by rw [hs]; exact TokenStream.advance_ok (by simp))),
    Attempt.bind_ok (onStream_ok (TokenStream.advance_ok (by simp))),
    Attempt.bind_ok (onStream_ok (TokenStream.advance_ok (by simp))),
    Attempt.bind_ok (onStream_ok (TokenStream.advance_ok (by simp)))]
  rfl

/-! ## Consuming a value -/

theorem atYielded_of_progress {c : Cursor} {name : String} {depth : Nat} {ahead : List Placed}
    (hp : c.progress = .yielded name depth)
    (hs : c.stream = ⟨some (.propertyName name, depth), ahead⟩) : c.atYielded = true := by
  simp [atYielded, hp, hs]

section Consuming

variable {c : Cursor} {name : String} {depth : Nat} {v : Value} {rest : List Placed}
  (hp : c.progress = .yielded name depth)
  (hs : c.stream = ⟨some (.propertyName name, depth), v.tokens depth ++ rest⟩) (hr : rest ≠ [])

include hp hs hr

theorem skipValue_ok : skipValue c = .ok () { c with stream := on rest } := by
  rw [skipValue, Attempt.get_bind]
  simp only [atYielded_of_progress hp hs, if_true]
  exact onStream_ok (by rw [hs]; exact TokenStream.skipMember_ok _ v _ hr)

theorem readValue_merge : readValue c = .ok v.merge { c with stream := on rest } := by
  rw [readValue, Attempt.get_bind]
  simp only [atYielded_of_progress hp hs, if_true]
  have hne : v.tokens depth ++ rest ≠ [] := by simp [hr]
  rw [Attempt.bind_ok (onStream_ok (by rw [hs]; exact TokenStream.advance_ok hne)),
    Attempt.bind_ok (onStream_ok (TokenStream.readValue_tokens v depth rest)),
    Attempt.bind_ok (onStream_ok (TokenStream.advance_ok hr))]
  rfl

theorem readValue_ok (hv : v.Distinct) : readValue c = .ok v { c with stream := on rest } := by
  rw [readValue_merge hp hs hr, v.merge_eq_self hv]

end Consuming

theorem ne_nil_of_isConsumed {name : String} {depth : Nat} {rest : List Placed}
    (h : isConsumed (on rest) name depth = true) : rest ≠ [] := by
  rintro rfl
  cases h

/-- Reading and skipping a value lead to the same cursor, from which the rest follows. -/
theorem Yields.consume {stop : TokenStream} {c : Cursor} {p : Property} {v : Value}
    {ps : List (Property × Value)} (h : Yields stop (.ok (some p) c) ((p, v) :: ps)) :
    ∃ c', readValue c = .ok v c' ∧ skipValue c = .ok () c' ∧ Yields stop (nextProperty c') ps := by
  cases h with
  | @property _ _ _ depth rest _ hp hs hv hr hrest =>
    have hne := ne_nil_of_isConsumed hr
    exact ⟨_, readValue_ok hp hs hne hv, skipValue_ok hp hs hne, hrest⟩

theorem nextProperty_of_isConsumed {c : Cursor} {name : String} {depth : Nat}
    (hp : c.progress = .yielded name depth) (h : isConsumed c.stream name depth = true) :
    nextProperty c = walk (c.stream.ahead.length + 1) c := by
  rw [nextProperty, Attempt.get_bind]
  simp only [hp, h, if_true]
  rfl

/-! ## Roles -/

theorem role_of_isReserved {name : String} (c : Cursor) (h : Document.isReserved name = true) :
    c.role name = .reserved := by
  rw [role, if_pos h]

theorem role_inside {c : Cursor} {name : String} (hc : c.component.isSome = true)
    (h : Document.isReserved name = false) :
    c.role name = if name = Component.markerKey then .reserved else .property := by
  simp [role, h, hc]

theorem role_outside {c : Cursor} {name : String} {t : Option Placed} {v : Value} {depth : Nat}
    {rest : List Placed} (hc : c.component = none) (h : Document.isReserved name = false)
    (hs : c.stream = ⟨t, v.tokens depth ++ rest⟩) :
    c.role name =
      if (entered? c.registry (name, v)).isSome then .component else .property := by
  unfold entered?
  cases hreg : c.registry.contains name <;> simp [role, h, hc, hs, atComponent_on, hreg]

/-! ## The rest of a walk -/

/-- The cursor is on the first token of this rest. -/
structure InFrontOf (c : Cursor) (r : Rest) (d : Nat) (after : List Placed) : Prop where
  component_eq : c.component = r.component?
  memberDepth_eq : c.memberDepth = d + 1
  stream_eq : c.stream = on (r.tokens d after)

/-- The cursor behind the value of a property that a walk led to. -/
def behind (c : Cursor) (d : Nat) (after : List Placed) (f : Landing) : Cursor := { c with
  component := f.property.component
  progress := .yielded f.property.name (f.behind.depth d)
  stream := on (f.behind.tokens d after) }

/-- The cursor on the name of a property that a walk led to. -/
def onLanding (c : Cursor) (d : Nat) (after : List Placed) (f : Landing) : Cursor :=
  { c.behind d after f with
    stream := ⟨some (.propertyName f.property.name, f.behind.depth d),
      f.value.tokens (f.behind.depth d) ++ f.behind.tokens d after⟩ }

/-- What a walk gives that leads to a property, or to the end. -/
def arrival (c : Cursor) (d : Nat) (after : List Placed) :
    Option Landing → EStateM.Result PropertyError Cursor (Option Property)
  | none => .ok none { c with
      component := none
      progress := .ended
      stream := ⟨some (.endObject, d), after⟩ }
  | some f => .ok (some f.property) (c.onLanding d after f)

section Rest

variable {r : Rest} {c : Cursor} {d : Nat} {after : List Placed}

/-- Where a walk arrives does not depend on where it began. -/
theorem arrival_moved (component : Option String) (s : TokenStream) (f : Option Landing) :
    arrival { c with component := component, stream := s } d after f = arrival c d after f := by
  cases f <;> rfl

theorem arrival_behind (g : Landing) (f : Option Landing) :
    arrival (c.behind d after g) d after f = arrival c d after f := by
  cases f <;> rfl

theorem role_of_passes {name : String} (hc : c.component = r.component?)
    (h : r.passes name = true) : c.role name = .reserved := by
  simp only [Rest.passes, Bool.or_eq_true, Bool.and_eq_true, decide_eq_true_eq] at h
  rcases h with h | ⟨hin, hm⟩
  · exact role_of_isReserved c h
  · simp [role, hc, hin, hm]

theorem role_of_not_passes {name : String} {t : Option Placed} {v : Value} {depth : Nat}
    {rest : List Placed} (hc : c.component = r.component?) (hm : r.passes name = false)
    (hi : r.component? = none → entered? c.registry (name, v) = none)
    (hs : c.stream = ⟨t, v.tokens depth ++ rest⟩) : c.role name = .property := by
  cases r with
  | outside members =>
    rw [Rest.passes_outside] at hm
    rw [role_outside hc hm hs, hi rfl]
    rfl
  | inside component inner members =>
    obtain ⟨hr, hmarker⟩ : Document.isReserved name = false ∧ name ≠ Component.markerKey := by
      simpa using hm
    have hin : c.component.isSome = true := by rw [hc]; rfl
    rw [role_inside hin hr, if_neg hmarker]

/-- Behind a value stands a member of another name, or the end of the object. -/
theorem isConsumed_rest {name : String} :
    isConsumed (on (r.tokens d after)) name (r.depth d) = true ↔ r.nextName? ≠ some name := by
  rcases r.exists_cons with ⟨⟨n, v⟩, r', rfl⟩ | hnil
  · simp [Rest.tokens_cons, isConsumed]
  · obtain ⟨d', ts, hdepth, htokens⟩ := r.tokens_of_current_nil d after hnil
    simp [htokens, hdepth, isConsumed, Rest.nextName?, hnil]

namespace InFrontOf

theorem propertyDepth_eq (h : c.InFrontOf r d after) : c.propertyDepth = r.depth d := by
  cases r <;> simp [propertyDepth, h.component_eq, h.memberDepth_eq, Rest.component?, Rest.depth]

theorem component_of_cons {m : String × Value} (h : c.InFrontOf (r.cons m) d after) :
    c.component = r.component? := by
  rw [h.component_eq, r.component?_cons]

theorem stream_of_cons {name : String} {v : Value} (h : c.InFrontOf (r.cons (name, v)) d after) :
    c.stream = ⟨some (.propertyName name, c.propertyDepth),
      v.tokens c.propertyDepth ++ r.tokens d after⟩ := by
  rw [h.stream_eq, r.tokens_cons, h.propertyDepth_eq, r.depth_cons]
  rfl

end InFrontOf

theorem exists_fuel {fuel : Nat} (h : (r.tokens d after).length ≤ fuel) : ∃ k, fuel = k + 1 :=
  Nat.exists_eq_add_of_le' (Nat.le_trans (List.length_pos_iff.2 (r.tokens_ne_nil d after)) h)

/-- A walk gives what it leads to. -/
theorem walk_leads {f : Option Landing} (h : Leads c.registry r f) (hc : c.InFrontOf r d after)
    {fuel : Nat} (hf : (r.tokens d after).length ≤ fuel) : walk fuel c = arrival c d after f := by
  generalize hreg : c.registry = registry at h
  -- The induction is on the steps of the walk. Each takes a token, and the tokens bound the fuel.
  induction h generalizing c fuel with
  | ended =>
    obtain ⟨fuel, rfl⟩ := exists_fuel hf
    obtain ⟨hc, hd, hs⟩ := hc
    rw [walk_end fuel hc hd hs]
    obtain ⟨stream, _, _, _, _, component, _⟩ := c
    cases hc
    cases hs
    rfl
  | @leave component members f _ ih =>
    obtain ⟨fuel, rfl⟩ := exists_fuel hf
    rw [walk_leave fuel hc.component_eq hc.memberDepth_eq hc.stream_eq (by simp)]
    refine Eq.trans (ih ⟨rfl, ?_, rfl⟩ ?_ ?_) (arrival_moved none _ f)
    · exact hc.memberDepth_eq
    · exact Nat.le_of_succ_le_succ hf
    · exact hreg
  | @pass r m f hm _ ih =>
    obtain ⟨fuel, rfl⟩ := exists_fuel hf
    obtain ⟨name, v⟩ := m
    have hin := hc.component_of_cons
    rw [walk_reserved fuel hc.stream_of_cons (r.tokens_ne_nil d after) (role_of_passes hin hm)]
    refine Eq.trans (ih ⟨?_, ?_, rfl⟩ ?_ ?_) (arrival_moved c.component _ f)
    · exact hin
    · exact hc.memberDepth_eq
    · simp only [Rest.tokens_cons, List.length_cons, List.length_append] at hf
      omega
    · exact hreg
  | @enter m inner members f hm hi _ ih =>
    obtain ⟨fuel, rfl⟩ := exists_fuel hf
    obtain ⟨name, v⟩ := m
    have hstream := hc.stream_of_cons (r := .outside members)
    have hrole : c.role name = .component := by
      rw [role_outside hc.component_eq hm hstream, hreg, hi]
      rfl
    obtain rfl := Document.eq_object_of_entered? hi
    have hdepth : c.propertyDepth = d + 1 := hc.propertyDepth_eq
    rw [walk_enter fuel hstream hrole, hdepth]
    refine Eq.trans (ih ⟨rfl, ?_, rfl⟩ ?_ ?_) (arrival_moved (some name) _ f)
    · exact hc.memberDepth_eq
    · simp only [Rest.tokens, Value.memberTokens, Value.tokens, List.cons_append, List.length_cons,
        List.length_append] at hf ⊢
      omega
    · exact hreg
  | @found r m hm hi =>
    obtain ⟨fuel, rfl⟩ := exists_fuel hf
    obtain ⟨name, v⟩ := m
    have hin := hc.component_of_cons
    have hstream := hc.stream_of_cons
    rw [walk_name fuel hstream, role_of_not_passes hin hm (hreg ▸ hi) hstream]
    rw [hc.propertyDepth_eq, r.depth_cons] at hstream ⊢
    obtain ⟨stream, _, _, _, _, component, _⟩ := c
    cases hin
    cases hstream
    rfl

/-- Behind a value the walk goes on, unless a member of the same name follows. -/
theorem nextProperty_rest {name : String} {f : Option Landing}
    (hp : c.progress = .yielded name (r.depth d)) (hc : c.InFrontOf r d after)
    (hn : r.nextName? ≠ some name) (h : Leads c.registry r f) :
    nextProperty c = arrival c d after f := by
  have hcons : isConsumed c.stream name (r.depth d) = true := by
    rw [hc.stream_eq]
    exact isConsumed_rest.2 hn
  rw [nextProperty_of_isConsumed hp hcons]
  refine walk_leads h hc ?_
  rw [hc.stream_eq]
  exact TokenStream.length_le_ahead _

end Rest

/-! ## The walk -/

/-- With the stream on `ts` the walk yields `ps`, whichever property was yielded last. -/
def YieldsFrom (stop : TokenStream) (c : Cursor) (ts : List Placed)
    (ps : List (Property × Value)) : Prop :=
  ∀ (progress : Progress) (fuel : Nat), ts.length ≤ fuel →
    Yields stop (walk fuel { c with progress := progress, stream := on ts }) ps

theorem YieldsFrom.walk {stop : TokenStream} {c : Cursor} {ts : List Placed}
    {ps : List (Property × Value)} {fuel : Nat} (h : YieldsFrom stop c ts ps)
    (hs : c.stream = on ts) (hf : ts.length ≤ fuel) : Yields stop (Cursor.walk fuel c) ps := by
  have := h c.progress fuel hf
  rwa [← hs] at this

/-- Where the names differ the walk goes on behind every property with those that remain. -/
theorem yields_arrival {r : Rest} {f : Option Landing} {c : Cursor} {d : Nat} {after : List Placed}
    (h : Leads c.registry r f) (hr : r.Differ) (hd : c.memberDepth = d + 1) :
    Yields ⟨some (.endObject, d), after⟩ (arrival c d after f) (r.properties c.registry) := by
  induction hps : r.properties c.registry generalizing r f c with
  | nil =>
    rw [h.properties_eq] at hps
    cases f with
    | none => exact .ended rfl rfl rfl
    | some f => cases hps
  | cons q ps ih =>
    rw [h.properties_eq] at hps
    cases f with
    | none => cases hps
    | some f =>
      cases hps
      obtain ⟨hv, hbehind, hnext⟩ := h.differ hr
      obtain ⟨f', hleads⟩ := Document.exists_leads c.registry f.behind
      have hgo : nextProperty (c.behind d after f) = arrival (c.behind d after f) d after f' :=
        nextProperty_rest rfl ⟨h.component?_behind.symm, hd, rfl⟩ hnext hleads
      refine .property rfl rfl hv (isConsumed_rest.2 hnext) ?_
      show Yields _ (nextProperty (c.behind d after f)) _
      rw [hgo, arrival_behind]
      exact ih hleads hbehind hd rfl

/-- From any member on, in a component or outside of one, the walk yields the properties that
remain. -/
theorem yieldsFrom_rest {r : Rest} {c : Cursor} {d : Nat} (after : List Placed) (hr : r.Differ)
    (hc : c.component = r.component?) (hd : c.memberDepth = d + 1) :
    YieldsFrom ⟨some (.endObject, d), after⟩ c (r.tokens d after) (r.properties c.registry) := by
  intro progress fuel hf
  obtain ⟨f, hleads⟩ := Document.exists_leads c.registry r
  rw [walk_leads (c := { c with progress := progress, stream := on (r.tokens d after) }) hleads
    ⟨hc, hd, rfl⟩ hf]
  exact yields_arrival hleads hr hd

end DeviceTwin.Cursor
