import DeviceTwin.Proofs.Document.Calls

/-!
# Repeated names

The tokens of a patch may name a member twice in an object. A caller that reads or skips the value of
each property consumes it exactly, and still the next property is refused where a member of the same
name follows: the cursor takes that name for the one that it yielded. Behind all other members it
goes on.

Results:
* `nextProperty_cases`: what asking for the next property does wherever the caller is.
* `Standing.after`: what one call preserves.
* `next_behind_value`: behind a value that was read or skipped the next property is refused exactly
  where the same name follows.
* `repeated_refused`: a value is consumed, and the next property is refused.
-/
namespace DeviceTwin.Cursor

open Document (Landing Leads Rest)
open Json (Members Value)
open TokenStream (on)
open Attempt (final)

/-- A walk over the members of a patch goes on from this rest. -/
structure LeftOf (members : Members) (registry : ComponentRegistry) (c : Cursor) (r : Rest) :
    Prop where
  registry_eq : c.registry = registry
  memberDepth_eq : c.memberDepth = 1
  /-- What is left of the properties is what the patch has last. -/
  properties : r.properties registry <:+ Document.properties registry members

/-- Where a caller is in the walk over the members of a patch. -/
inductive Standing (members : Members) (registry : ComponentRegistry) (filter : PropertyFilter)
    (c : Cursor) : Prop where
  | before (h : c = ⟨on ((Value.object members).tokens 0), registry, .desiredPatch, filter, .start,
      none, 1⟩)
  /-- On the first token of what is left, with a property of this name yielded last. -/
  | among {r : Rest} {name : String} (h : LeftOf members registry c r)
      (hp : c.progress = .yielded name (r.depth 0)) (hc : c.component = r.component?)
      (hs : c.stream = on (r.tokens 0 []))
  | ended (hp : c.progress = .ended)

/-- The cursor is on the name of the property `p`, with its value `v` ahead and `r` left behind it. -/
structure OnProperty (members : Members) (registry : ComponentRegistry) (c : Cursor) (p : Property)
    (v : Value) (r : Rest) : Prop where
  tokens : c.stream
    = ⟨some (.propertyName p.name, r.depth 0), v.tokens (r.depth 0) ++ r.tokens 0 []⟩
  component : r.component? = p.component
  /-- The patch has this property with this value, and behind it those that are left. -/
  properties : (p, v) :: r.properties registry <:+ Document.properties registry members

section Calls

variable {members : Members} {registry : ComponentRegistry} {filter : PropertyFilter} {c : Cursor}

/-- The stream is on the name that was yielded last exactly where what is left begins with a member
of that name. -/
theorem atYielded_iff {r : Rest} {name : String} (hp : c.progress = .yielded name (r.depth 0))
    (hs : c.stream = on (r.tokens 0 [])) : c.atYielded = true ↔ r.nextName? = some name := by
  rcases r.exists_cons with ⟨⟨n, v⟩, r', rfl⟩ | hnil
  · simp [atYielded, hp, hs, Rest.tokens_cons]
  · obtain ⟨d', ts, -, htokens⟩ := r.tokens_of_current_nil 0 [] hnil
    simp [atYielded, hp, hs, htokens, Rest.nextName?, hnil]

/-- On a member of the same name the next property is refused. -/
theorem nextProperty_same {r : Rest} {name : String} (hp : c.progress = .yielded name (r.depth 0))
    (hs : c.stream = on (r.tokens 0 [])) (hn : r.nextName? = some name) :
    nextProperty c = .error (.invalidState (.valueNotConsumed name)) c := by
  have hno : isConsumed c.stream name (r.depth 0) = false := by
    rw [hs]
    exact Bool.eq_false_iff.2 fun hyes => isConsumed_rest.1 hyes hn
  exact nextProperty_error hp hno

/-- Asking for the next property leads on from what is left, or is refused, or is answered with
nothing at the end. -/
theorem nextProperty_cases (h : Standing members registry filter c) :
    (∃ r f, LeftOf members registry c r ∧ Leads registry r f ∧ nextProperty c = arrival c 0 [] f) ∨
    (∃ e, nextProperty c = .error e c) ∨ (c.progress = .ended ∧ nextProperty c = .ok none c) := by
  cases h with
  | before h =>
    subst h
    obtain ⟨f, hleads⟩ := Document.exists_leads registry (.outside members)
    refine .inl ⟨_, f, ⟨rfl, rfl, List.suffix_rfl⟩, hleads, ?_⟩
    rw [nextProperty_of_enterSection rfl (enterSection_patch members registry filter)]
    exact walk_leads hleads ⟨rfl, rfl, rfl⟩ (TokenStream.length_le_ahead _)
  | @among r name h hp hc hs =>
    obtain ⟨f, hleads⟩ := Document.exists_leads registry r
    by_cases hn : r.nextName? = some name
    · exact .inr (.inl ⟨_, nextProperty_same hp hs hn⟩)
    · exact .inl ⟨r, f, h, hleads, nextProperty_rest hp ⟨hc, h.memberDepth_eq, hs⟩ hn
        (h.registry_eq ▸ hleads)⟩
  | ended hp => exact .inr (.inr ⟨hp, nextProperty_of_ended hp⟩)

/-- On the name of a property this member is still left. -/
theorem standing_onLanding {r : Rest} {f : Landing} (h : LeftOf members registry c r)
    (hf : Leads registry r (some f)) :
    Standing members registry filter (c.onLanding 0 [] f) := by
  have hprops : (f.behind.cons (f.property.name, f.value)).properties registry
      = r.properties registry := by
    rw [hf.again.properties_eq, hf.properties_eq]
  have hp : (c.onLanding 0 [] f).progress
      = .yielded f.property.name ((f.behind.cons (f.property.name, f.value)).depth 0) := by
    rw [Rest.depth_cons]
    rfl
  refine .among ⟨h.registry_eq, h.memberDepth_eq, hprops ▸ h.properties⟩ hp ?_ ?_
  · rw [Rest.component?_cons]
    exact hf.component?_behind.symm
  · rw [Rest.tokens_cons]
    rfl

theorem Standing.next (h : Standing members registry filter c) :
    Standing members registry filter (final (nextProperty c)) := by
  rcases nextProperty_cases h with ⟨r, f, hleft, hleads, hnext⟩ | ⟨e, hnext⟩ | ⟨-, hnext⟩
  · rw [hnext]
    cases f with
    | none => exact .ended rfl
    | some f => exact standing_onLanding hleft hleads
  · rw [hnext]
    exact h
  · rw [hnext]
    exact h

/-- Reading and skipping leave the same cursor, whether they are refused or not. -/
theorem Standing.consume (h : Standing members registry filter c) :
    Standing members registry filter (final (readValue c)) ∧
      Standing members registry filter (final (skipValue c)) := by
  cases hat : c.atYielded with
  | false =>
    rw [readValue_error hat, skipValue_error hat]
    exact ⟨h, h⟩
  | true =>
    cases h with
    | before hb => subst hb; cases hat
    | ended hp => simp [atYielded, hp] at hat
    | @among r name h hp hc hs =>
      have hname := (atYielded_iff hp hs).1 hat
      rcases r.exists_cons with ⟨⟨n, v⟩, r', rfl⟩ | hnil
      · obtain rfl : n = name := by simpa using hname
        rw [r'.depth_cons] at hp
        rw [r'.component?_cons] at hc
        rw [r'.tokens_cons] at hs
        have hpassed : Standing members registry filter { c with stream := on (r'.tokens 0 []) } :=
          .among ⟨h.registry_eq, h.memberDepth_eq,
            (r'.properties_cons_suffix _).trans h.properties⟩ hp hc rfl
        rw [readValue_merge hp hs (r'.tokens_ne_nil 0 []), skipValue_ok hp hs (r'.tokens_ne_nil 0 [])]
        exact ⟨hpassed, hpassed⟩
      · simp [Rest.nextName?, hnil] at hname

theorem Standing.after {w : Watch} (h : Standing members registry filter w.cursor) {call : Call}
    (hcall : call ≠ .advance) : Standing members registry filter (w.after call).cursor := by
  cases call with
  | next =>
    have hnext := h.next
    unfold Watch.after
    generalize nextProperty w.cursor = outcome at hnext
    cases outcome with
    | ok answer c => cases answer <;> exact hnext
    | error e c => exact hnext
  | read => exact h.consume.1
  | skip => exact h.consume.2
  | advance => exact absurd rfl hcall

theorem Standing.afterAll {calls : List Call} {w : Watch}
    (h : Standing members registry filter w.cursor) (hcalls : Call.advance ∉ calls) :
    Standing members registry filter (w.afterAll calls).cursor := by
  induction calls generalizing w with
  | nil => exact h
  | cons call calls ih =>
    have hne : call ≠ .advance := fun heq => hcalls (heq ▸ List.mem_cons_self)
    exact ih (h.after hne) (List.not_mem_of_not_mem_cons hcalls)

theorem start_patch {s : TokenStream}
    (hs : TokenStream.advance (TokenStream.ofValue (.object members)) = .ok () s)
    (hc : Cursor.start s registry .desiredPatch filter = .ok c) :
    c = ⟨on ((Value.object members).tokens 0), registry, .desiredPatch, filter, .start, none, 1⟩ := by
  rw [TokenStream.advance_ofValue] at hs
  cases hs
  exact (start_eq hc).2

theorem exists_landing {c' : Cursor} {p : Property} (h : Standing members registry filter c)
    (hp : nextProperty c = .ok (some p) c') :
    ∃ r f, LeftOf members registry c r ∧ Leads registry r (some f) ∧ p = f.property
      ∧ c' = c.onLanding 0 [] f := by
  rcases nextProperty_cases h with ⟨r, f, hleft, hleads, hnext⟩ | ⟨e, hnext⟩ | ⟨-, hnext⟩
  · rw [hnext] at hp
    cases f with
    | none => cases hp
    | some f => cases hp; exact ⟨r, f, hleft, hleads, rfl, rfl⟩
  · rw [hnext] at hp
    cases hp
  · rw [hnext] at hp
    cases hp

theorem arrival_eq_ok {r : Rest} {f : Option Landing} (h : Leads registry r f) (c : Cursor) :
    ∃ c', arrival c 0 [] f = .ok ((r.properties registry).head?.map Prod.fst) c' := by
  rw [h.properties_eq]
  cases f <;> exact ⟨_, rfl⟩

end Calls

/-- In a patch that may repeat names, whatever its caller asked for, read or skipped before: the value
of a property that was just yielded is read and skipped alike, each leaves the stream right behind
it, and then the next property is refused where a member of the same name follows in the object.
Everywhere else the next property that is left is yielded, or the end. -/
theorem next_behind_value (members : Members) (registry : ComponentRegistry)
    (filter : PropertyFilter) (s : TokenStream) (c₀ : Cursor)
    (hs : TokenStream.advance (TokenStream.ofValue (.object members)) = .ok () s)
    (hc : Cursor.start s registry .desiredPatch filter = .ok c₀) :
    (∃ c, nextProperty c₀
      = .ok ((Document.properties registry members).head?.map Prod.fst) c) ∧
    ∀ (calls : List Call) (p : Property) (c : Cursor), Call.advance ∉ calls →
      nextProperty ((Watch.start c₀).afterAll calls).cursor = .ok (some p) c →
      ∃ v r c', OnProperty members registry c p v r ∧
        readValue c = .ok v.merge c' ∧ skipValue c = .ok () c' ∧ c'.stream = on (r.tokens 0 []) ∧
        (r.nextName? = some p.name →
          nextProperty c' = .error (.invalidState (.valueNotConsumed p.name)) c') ∧
        (r.nextName? ≠ some p.name →
          ∃ c'', nextProperty c' = .ok ((r.properties registry).head?.map Prod.fst) c'') := by
  have hstart := start_patch hs hc
  refine ⟨?_, fun calls p c hcalls hp => ?_⟩
  · obtain ⟨f, hleads⟩ := Document.exists_leads registry (.outside members)
    rw [hstart, nextProperty_of_enterSection rfl (enterSection_patch members registry filter),
      walk_leads hleads ⟨rfl, rfl, rfl⟩ (TokenStream.length_le_ahead _)]
    exact arrival_eq_ok hleads _
  · have hstanding := Standing.afterAll (w := Watch.start c₀) (.before hstart) hcalls
    generalize ((Watch.start c₀).afterAll calls).cursor = c₁ at hp hstanding
    obtain ⟨r, f, hleft, hleads, rfl, rfl⟩ := exists_landing hstanding hp
    have hname : (c₁.onLanding 0 [] f).stream
        = ⟨some (.propertyName f.property.name, f.behind.depth 0),
          f.value.tokens (f.behind.depth 0) ++ f.behind.tokens 0 []⟩ := rfl
    have hne := f.behind.tokens_ne_nil 0 []
    refine ⟨f.value, f.behind, c₁.behind 0 [] f, ⟨rfl, hleads.component?_behind, ?_⟩,
      readValue_merge rfl hname hne, skipValue_ok rfl hname hne, rfl, nextProperty_same rfl rfl,
      fun hn => ?_⟩
    · have hprops := hleft.properties
      rw [hleads.properties_eq] at hprops
      exact hprops
    · obtain ⟨f', hf'⟩ := Document.exists_leads registry f.behind
      have hgo : nextProperty (c₁.behind 0 [] f) = arrival (c₁.behind 0 [] f) 0 [] f' :=
        nextProperty_rest rfl ⟨hleads.component?_behind.symm, hleft.memberDepth_eq, rfl⟩ hn
          (hleft.registry_eq ▸ hf')
      rw [hgo]
      exact arrival_eq_ok hf' _

/-- A name that is repeated, a component, and the name of its member behind it. -/
def repeatedMembers : Members :=
  [("a", .number (.integer 1)), ("a", .object [("x", .null), ("x", .bool true)]),
    ("heater", .object [("__t", .string "c"), ("target", .null)]), ("target", .bool false)]

/-- The next property is refused once, behind the first member, and `target` is yielded behind the
second one. -/
theorem next_behind_value_sample :
    ∃ s c₀ c, TokenStream.advance (TokenStream.ofValue (.object repeatedMembers)) = .ok () s ∧
      Cursor.start s (.ofList ["heater"]) .desiredPatch .writeableOnly = .ok c₀ ∧
      nextProperty ((Watch.start c₀).afterAll [.next, .skip, .next, .read]).cursor
        = .ok (some ⟨some "heater", "target"⟩) c ∧
      ∃ v r c', OnProperty repeatedMembers (.ofList ["heater"]) c ⟨some "heater", "target"⟩ v r ∧
        readValue c = .ok v.merge c' ∧ skipValue c = .ok () c' ∧ c'.stream = on (r.tokens 0 []) ∧
        (r.nextName? = some "target" →
          nextProperty c' = .error (.invalidState (.valueNotConsumed "target")) c') ∧
        (r.nextName? ≠ some "target" → ∃ c'', nextProperty c'
          = .ok ((r.properties (.ofList ["heater"])).head?.map Prod.fst) c'') := by
  have hs : TokenStream.advance (TokenStream.ofValue (.object repeatedMembers))
      = .ok () (on ((Value.object repeatedMembers).tokens 0)) := rfl
  obtain ⟨c, hc⟩ : ∃ c, nextProperty ((Watch.start ⟨on ((Value.object repeatedMembers).tokens 0),
      .ofList ["heater"], .desiredPatch, .writeableOnly, .start, none, 1⟩).afterAll
        [.next, .skip, .next, .read]).cursor = .ok (some ⟨some "heater", "target"⟩) c :=
    ⟨_, rfl⟩
  exact ⟨_, _, c, hs, rfl, hc, (next_behind_value repeatedMembers (.ofList ["heater"])
    .writeableOnly _ _ hs rfl).2 [.next, .skip, .next, .read] _ c (by decide) hc⟩

/-- A value is consumed, and still the next property is refused: the member behind it has the same
name. What is read then is the value of that member. -/
theorem repeated_refused :
    ∃ s c₀ c c' c'', TokenStream.advance (TokenStream.ofValue
        (.object [("a", .number (.integer 1)), ("a", .number (.integer 2))])) = .ok () s ∧
      Cursor.start s (.ofList []) .desiredPatch .writeableOnly = .ok c₀ ∧
      nextProperty c₀ = .ok (some ⟨none, "a"⟩) c ∧
      readValue c = .ok (.number (.integer 1)) c' ∧ skipValue c = .ok () c' ∧
      nextProperty c' = .error (.invalidState (.valueNotConsumed "a")) c' ∧
      readValue c' = .ok (.number (.integer 2)) c'' := by
  exact ⟨_, _, _, _, _, rfl, rfl, rfl, rfl, rfl, rfl, rfl⟩

end DeviceTwin.Cursor
