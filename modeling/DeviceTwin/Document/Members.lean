import DeviceTwin.Document
import DeviceTwin.Property

/-!
# What a document says, by its value

The version and the properties of a document, read off its members. This is what a pass over the
tokens of the document is to find, said without a stream.

Results:
* `mem_componentProperties`: a component has its members but the reserved ones and its marker.
* `memberProperties_of_isReserved`: a reserved member is no property.
-/
namespace DeviceTwin

def Json.Value.members? : Json.Value → Option Json.Members
  | .object members => some members
  | _ => none

namespace Document

/-- The object whose members are walked. -/
def walked? (kind : ResponseKind) (filter : PropertyFilter) (document : Json.Value) :
    Option Json.Members := do
  let members ← document.members?
  match kind with
  | .documentGet => (← members.get? filter.section).members?
  | .desiredPatch | .reportedAck => some members

/-- The members of a component behind its marker, where the value begins with one. -/
def componentMembers? : Json.Value → Option Json.Members
  | .object ((name, .string text) :: members) =>
    if name = Component.markerKey ∧ text = Component.markerValue then some members else none
  | _ => none

def componentProperties (component : String) (members : Json.Members) :
    List (Property × Json.Value) :=
  (members.filter fun m => !isReserved m.1 && m.1 ≠ Component.markerKey).map fun m =>
    (⟨some component, m.1⟩, m.2)

/-- The properties that one member of the walked object stands for. -/
def memberProperties (registry : ComponentRegistry) (m : String × Json.Value) :
    List (Property × Json.Value) :=
  if isReserved m.1 then []
  else if registry.contains m.1 then
    match componentMembers? m.2 with
    | some members => componentProperties m.1 members
    | none => [(⟨none, m.1⟩, m.2)]
  else [(⟨none, m.1⟩, m.2)]

/-- The properties of the walked object, in their order. -/
def properties (registry : ComponentRegistry) (members : Json.Members) :
    List (Property × Json.Value) :=
  members.flatMap (memberProperties registry)

/-- The version that an object names. -/
def versionAmong (members : Json.Members) : Except PropertyError Int :=
  match members.get? versionKey with
  | none => .error .versionNotFound
  | some (.number n) =>
    match n.signed? with
    | some version => .ok version
    | none => .error (.malformedDocument .versionNotInteger)
  | some _ => .error (.malformedDocument .versionNotInteger)

/-- The version of a document: its own, or that of its desired section where the whole document was
asked for. -/
def versionOf (kind : ResponseKind) (document : Json.Value) : Except PropertyError Int :=
  match document.members? with
  | none => .error (.invalidState .notAtDocument)
  | some members =>
    match kind with
    | .documentGet =>
      match members.get? desiredSection with
      | none => .error .versionNotFound
      | some desired =>
        match desired.members? with
        | none => .error (.malformedDocument (.sectionNotObject desiredSection))
        | some members => versionAmong members
    | .desiredPatch | .reportedAck => versionAmong members

theorem mem_componentProperties {component : String} {members : Json.Members} {p : Property}
    {v : Json.Value} :
    (p, v) ∈ componentProperties component members ↔
      p.component = some component ∧ (p.name, v) ∈ members ∧ isReserved p.name = false
        ∧ p.name ≠ Component.markerKey := by
  obtain ⟨c, n⟩ := p
  simp only [componentProperties, List.mem_map, List.mem_filter, Bool.and_eq_true,
    Bool.not_eq_true', decide_eq_true_eq, Prod.exists, Prod.mk.injEq, Property.mk.injEq]
  constructor
  · rintro ⟨_, _, ⟨hm, hr, hk⟩, ⟨rfl, rfl⟩, rfl⟩
    exact ⟨rfl, hm, hr, hk⟩
  · rintro ⟨rfl, hm, hr, hk⟩
    exact ⟨n, v, ⟨hm, hr, hk⟩, ⟨rfl, rfl⟩, rfl⟩

theorem memberProperties_of_isReserved (registry : ComponentRegistry) {m : String × Json.Value}
    (h : isReserved m.1 = true) : memberProperties registry m = [] := by
  rw [memberProperties, if_pos h]

end Document
end DeviceTwin
