import DeviceTwin.Document.Members
import DeviceTwin.Proofs.TokenStream.Value

/-!
# The rest of a walk

What a walk has before it are the members left of the walked object and, in a component, those left
of the component in front of them. Names may be repeated. From there a walk leads to a property or
to the end: it passes over reserved members, enters components and leaves them at their ends.

Results:
* `tokens_cons`, `exists_cons`: a rest begins with a member or with the end of an object.
* `exists_leads`: every walk leads to a property or to the end.
* `Leads.properties_eq`: the properties of a rest are that property and those behind it.
* `Leads.differ`: where no object repeats a name, no such property is followed by a member of the
  same name.
-/
namespace DeviceTwin.Document

open Json (Members Value)

/-- What is left of a walk. -/
inductive Rest where
  /-- These members of the walked object. -/
  | outside (members : Members)
  /-- These members of a component, and then those of the walked object. -/
  | inside (component : String) (inner members : Members)
  deriving Repr

/-- Where a walk stops: on a property, with its value and what is left behind that. -/
structure Landing where
  property : Property
  value : Value
  behind : Rest
  deriving Repr

/-- The members behind the marker, where the walk enters the member as a component. -/
def entered? (registry : ComponentRegistry) (m : String × Value) : Option Members :=
  if registry.contains m.1 then componentMembers? m.2 else none

namespace Rest

def component? : Rest → Option String
  | outside _ => none
  | inside component _ _ => some component

/-- The members that are left of the object that the walk is in. -/
def current : Rest → Members
  | outside members => members
  | inside _ inner _ => inner

def nextName? (r : Rest) : Option String := (Members.names r.current).head?

/-- One more member of this object is left. -/
def cons (m : String × Value) : Rest → Rest
  | outside members => outside (m :: members)
  | inside component inner members => inside component (m :: inner) members

/-- The depth of the members of this object, where the walked object is at the depth `d`. -/
def depth (d : Nat) : Rest → Nat
  | outside _ => d + 1
  | inside _ _ _ => d + 1 + 1

/-- The tokens that are left of the walked object, with `after` behind them. -/
def tokens (d : Nat) (after : List Placed) : Rest → List Placed
  | outside members => Value.memberTokens (d + 1) members ++ (.endObject, d) :: after
  | inside _ inner members => Value.memberTokens (d + 1 + 1) inner ++ (.endObject, d + 1)
      :: (Value.memberTokens (d + 1) members ++ (.endObject, d) :: after)

def properties (registry : ComponentRegistry) : Rest → List (Property × Value)
  | outside members => Document.properties registry members
  | inside component inner members =>
    componentProperties component inner ++ Document.properties registry members

/-- The walk passes over members of this name. -/
def passes (r : Rest) (name : String) : Bool :=
  isReserved name || (r.component?.isSome && name = Component.markerKey)

/-- No object has a name twice among its members that are left. -/
def Differ : Rest → Prop
  | outside members => (Value.object members).Distinct
  | inside _ inner members => (Value.object inner).Distinct ∧ (Value.object members).Distinct

end Rest

def Landing.properties (registry : ComponentRegistry) (f : Landing) : List (Property × Value) :=
  (f.property, f.value) :: f.behind.properties registry

/-- From this rest a walk leads to a property, or to the end. There is one rule for each kind of
step. -/
inductive Leads (registry : ComponentRegistry) : Rest → Option Landing → Prop where
  | ended : Leads registry (.outside []) none
  | leave {component : String} {members : Members} {f : Option Landing}
      (h : Leads registry (.outside members) f) : Leads registry (.inside component [] members) f
  | pass {r : Rest} {m : String × Value} {f : Option Landing} (hm : r.passes m.1 = true)
      (h : Leads registry r f) : Leads registry (r.cons m) f
  | enter {m : String × Value} {inner members : Members} {f : Option Landing}
      (hm : isReserved m.1 = false) (hi : entered? registry m = some inner)
      (h : Leads registry (.inside m.1 inner members) f) :
      Leads registry (.outside (m :: members)) f
  | found {r : Rest} {m : String × Value} (hm : r.passes m.1 = false)
      (hi : r.component? = none → entered? registry m = none) :
      Leads registry (r.cons m) (some ⟨⟨r.component?, m.1⟩, m.2, r⟩)

variable {registry : ComponentRegistry}

theorem eq_object_of_componentMembers? {v : Value} {ms : Members}
    (h : componentMembers? v = some ms) :
    v = .object ((Component.markerKey, .string Component.markerValue) :: ms) := by
  unfold componentMembers? at h
  split at h
  · next n s ms' =>
    split at h
    · next hm => cases h; rw [hm.1, hm.2]
    · cases h
  · cases h

theorem eq_object_of_entered? {m : String × Value} {inner : Members}
    (h : entered? registry m = some inner) :
    m.2 = .object ((Component.markerKey, .string Component.markerValue) :: inner) := by
  unfold entered? at h
  split at h
  · exact eq_object_of_componentMembers? h
  · cases h

theorem memberProperties_eq (m : String × Value) :
    memberProperties registry m = if isReserved m.1 then [] else
      match entered? registry m with
      | some inner => componentProperties m.1 inner
      | none => [(⟨none, m.1⟩, m.2)] := by
  unfold memberProperties entered?
  split
  · rfl
  · split <;> rfl

namespace Rest

/-! ## Members that are passed over -/

@[simp] theorem passes_outside (members : Members) (name : String) :
    (outside members).passes name = isReserved name := by
  simp [passes, component?]

@[simp] theorem passes_inside (component : String) (inner members : Members) (name : String) :
    (inside component inner members).passes name
      = (isReserved name || name = Component.markerKey) :=
  rfl

/-! ## Tokens -/

section Tokens

variable (r : Rest) (d : Nat) (after : List Placed)

theorem tokens_ne_nil : r.tokens d after ≠ [] := by
  cases r <;> simp [tokens]

theorem tokens_cons (name : String) (v : Value) :
    (r.cons (name, v)).tokens d after = (.propertyName name, r.depth d)
      :: (v.tokens (r.depth d) ++ r.tokens d after) := by
  cases r <;> simp [cons, tokens, depth, Value.memberTokens]

theorem exists_cons : (∃ m r', r = cons m r') ∨ r.current = [] := by
  cases r with
  | outside members =>
    cases members with
    | nil => exact .inr rfl
    | cons m members => exact .inl ⟨m, .outside members, rfl⟩
  | inside component inner members =>
    cases inner with
    | nil => exact .inr rfl
    | cons m inner => exact .inl ⟨m, .inside component inner members, rfl⟩

theorem tokens_of_current_nil (h : r.current = []) :
    ∃ d' ts, r.depth d = d' + 1 ∧ r.tokens d after = (.endObject, d') :: ts := by
  cases r with
  | outside members =>
    cases h
    exact ⟨d, _, rfl, rfl⟩
  | inside component inner members =>
    cases h
    exact ⟨d + 1, _, rfl, rfl⟩

@[simp] theorem component?_cons (m : String × Value) : (r.cons m).component? = r.component? := by
  cases r <;> rfl

@[simp] theorem depth_cons (m : String × Value) : (r.cons m).depth d = r.depth d := by
  cases r <;> rfl

@[simp] theorem nextName?_cons (m : String × Value) : (r.cons m).nextName? = some m.1 := by
  cases r <;> rfl

end Tokens

/-! ## Properties -/

theorem properties_cons_of_passes {r : Rest} {m : String × Value} (h : r.passes m.1 = true) :
    (r.cons m).properties registry = r.properties registry := by
  cases r with
  | outside members =>
    rw [passes_outside] at h
    simp [cons, properties, Document.properties, memberProperties_of_isReserved registry h]
  | inside component inner members =>
    have hskip : componentProperties component (m :: inner) = componentProperties component inner := by
      unfold componentProperties
      rw [List.filter_cons_of_neg]
      simpa [Decidable.imp_iff_not_or] using h
    simp [cons, properties, hskip]

theorem properties_cons_suffix (r : Rest) (m : String × Value) :
    r.properties registry <:+ (r.cons m).properties registry := by
  cases r with
  | outside members => exact List.suffix_append (memberProperties registry m) _
  | inside component inner members =>
    have hsplit : componentProperties component (m :: inner)
        = componentProperties component [m] ++ componentProperties component inner := by
      simp only [componentProperties, ← List.map_append, ← List.filter_append, List.singleton_append]
    simp only [cons, properties, hsplit, List.append_assoc]
    exact List.suffix_append _ _

theorem properties_enter {m : String × Value} {inner members : Members}
    (hm : isReserved m.1 = false) (hi : entered? registry m = some inner) :
    (outside (m :: members)).properties registry
      = (inside m.1 inner members).properties registry := by
  simp [properties, Document.properties, memberProperties_eq, hm, hi]

theorem properties_found {r : Rest} {m : String × Value} (hm : r.passes m.1 = false)
    (hi : r.component? = none → entered? registry m = none) :
    (r.cons m).properties registry = (⟨r.component?, m.1⟩, m.2) :: r.properties registry := by
  cases r with
  | outside members =>
    rw [passes_outside] at hm
    simp [cons, properties, Document.properties, memberProperties_eq, hm, hi rfl, component?]
  | inside component inner members =>
    have hkeep : isReserved m.1 = false ∧ m.1 ≠ Component.markerKey := by simpa using hm
    simp [cons, properties, componentProperties, hkeep, component?]

/-! ## Names -/

theorem distinct_object_cons {m : String × Value} {ms : Members}
    (h : (Value.object (m :: ms)).Distinct) :
    m.1 ∉ Members.names ms ∧ m.2.Distinct ∧ (Value.object ms).Distinct := by
  obtain ⟨hn, hv⟩ := (Value.distinct_object _).1 h
  obtain ⟨hnew, hn⟩ := List.nodup_cons.1 hn
  exact ⟨hnew, hv m List.mem_cons_self,
    (Value.distinct_object _).2 ⟨hn, fun m hm => hv m (List.mem_cons_of_mem _ hm)⟩⟩

theorem differ_of_cons {r : Rest} {m : String × Value} (h : (r.cons m).Differ) :
    m.2.Distinct ∧ r.Differ ∧ r.nextName? ≠ some m.1 := by
  have hnext : m.1 ∉ Members.names r.current → r.nextName? ≠ some m.1 := fun hnew hsame =>
    hnew (List.mem_of_head? hsame)
  cases r with
  | outside members =>
    obtain ⟨hnew, hv, hrest⟩ := distinct_object_cons h
    exact ⟨hv, hrest, hnext hnew⟩
  | inside component inner members =>
    obtain ⟨hnew, hv, hrest⟩ := distinct_object_cons h.1
    exact ⟨hv, ⟨hrest, h.2⟩, hnext hnew⟩

theorem differ_of_enter {m : String × Value} {inner members : Members}
    (hi : entered? registry m = some inner) (h : (outside (m :: members)).Differ) :
    (inside m.1 inner members).Differ := by
  obtain ⟨-, hv, hrest⟩ := distinct_object_cons h
  rw [eq_object_of_entered? hi] at hv
  exact ⟨(distinct_object_cons hv).2.2, hrest⟩

end Rest

/-! ## Where a walk leads -/

theorem exists_leads_inside (component : String) {members : Members} {f : Option Landing}
    (h : Leads registry (.outside members) f) (inner : Members) :
    ∃ f, Leads registry (.inside component inner members) f := by
  induction inner with
  | nil => exact ⟨f, .leave h⟩
  | cons m inner ih =>
    obtain ⟨f, hf⟩ := ih
    cases hm : (Rest.inside component inner members).passes m.1 with
    | true => exact ⟨f, .pass (r := .inside component inner members) hm hf⟩
    | false => exact ⟨_, .found (r := .inside component inner members) hm (fun hc => nomatch hc)⟩

/-- Every walk leads to a property or to the end. -/
theorem exists_leads (registry : ComponentRegistry) (r : Rest) : ∃ f, Leads registry r f := by
  have houtside : ∀ members, ∃ f, Leads registry (.outside members) f := by
    intro members
    induction members with
    | nil => exact ⟨none, .ended⟩
    | cons m members ih =>
      obtain ⟨f, hf⟩ := ih
      have hpasses := Rest.passes_outside members m.1
      cases hm : isReserved m.1 with
      | true => exact ⟨f, .pass (r := .outside members) (hpasses.trans hm) hf⟩
      | false =>
        cases hi : entered? registry m with
        | none => exact ⟨_, .found (r := .outside members) (hpasses.trans hm) fun _ => hi⟩
        | some inner =>
          obtain ⟨f', hf'⟩ := exists_leads_inside m.1 hf inner
          exact ⟨f', .enter hm hi hf'⟩
  cases r with
  | outside members => exact houtside members
  | inside component inner members =>
    obtain ⟨f, hf⟩ := houtside members
    exact exists_leads_inside component hf inner

namespace Leads

variable {r : Rest} {f : Option Landing}

/-- The properties of a rest are the one that the walk leads to and those behind it. -/
theorem properties_eq (h : Leads registry r f) :
    r.properties registry = f.elim [] (Landing.properties registry) := by
  induction h with
  | ended => rfl
  | leave _ ih => exact ih
  | pass hm _ ih => rw [Rest.properties_cons_of_passes hm, ih]
  | enter hm hi _ ih => rw [Rest.properties_enter hm hi, ih]
  | found hm hi => exact Rest.properties_found hm hi

theorem component?_behind {f : Landing} (h : Leads registry r (some f)) :
    f.behind.component? = f.property.component := by
  generalize hf : some f = found at h
  induction h with
  | ended => cases hf
  | leave _ ih | pass _ _ ih | enter _ _ _ ih => exact ih hf
  | found _ _ => cases hf; rfl

/-- From the name of the property the walk leads to it again. -/
theorem again {f : Landing} (h : Leads registry r (some f)) :
    Leads registry (f.behind.cons (f.property.name, f.value)) (some f) := by
  generalize hf : some f = found at h
  induction h with
  | ended => cases hf
  | leave _ ih | pass _ _ ih | enter _ _ _ ih => exact ih hf
  | found hm hi => cases hf; exact .found hm hi

/-- Where the names differ no property is followed by a member of the same name. -/
theorem differ {f : Landing} (h : Leads registry r (some f)) (hr : r.Differ) :
    f.value.Distinct ∧ f.behind.Differ ∧ f.behind.nextName? ≠ some f.property.name := by
  generalize hf : some f = found at h
  induction h with
  | ended => cases hf
  | leave _ ih => exact ih hr.2 hf
  | pass _ _ ih => exact ih (Rest.differ_of_cons hr).2.1 hf
  | enter _ hi _ ih => exact ih (Rest.differ_of_enter hi hr) hf
  | found _ _ => cases hf; exact Rest.differ_of_cons hr

end Leads

end DeviceTwin.Document
