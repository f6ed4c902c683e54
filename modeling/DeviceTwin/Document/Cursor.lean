import DeviceTwin.Document
import DeviceTwin.Property

/-!
# Walking the properties of a document

A cursor goes through the members of the walked object in their order. A member that is a registered
component is entered and its members are yielded as properties of the component; all other members
are properties by themselves. Reserved members are passed over.

`nextProperty` stops on the name of a property. The caller then consumes its value, with `readValue`,
with `skipValue` or by moving the stream, and asks for the next one. A value that has not been
consumed is noticed by where the stream stands.
-/
namespace DeviceTwin

/-- How far a walk has come. -/
inductive Progress where
  | start
  /-- The property of this name, at this depth, was yielded last. -/
  | yielded (name : String) (depth : Nat)
  | ended
  deriving DecidableEq, Repr

/-- A walk over the document in a stream. -/
structure Cursor where
  stream : TokenStream
  registry : ComponentRegistry
  kind : ResponseKind
  filter : PropertyFilter
  progress : Progress
  /-- The component that is being walked. -/
  component : Option String
  /-- The depth of the members of the walked object. -/
  memberDepth : Nat
  deriving DecidableEq, Repr

/-- What a member of the walked object is. -/
inductive MemberRole where
  | reserved
  | component
  | property
  deriving DecidableEq, Repr

namespace Cursor

/-- A cursor over a stream that is on the opening brace of a document of this kind. -/
def start (stream : TokenStream) (registry : ComponentRegistry) (kind : ResponseKind)
    (filter : PropertyFilter) : Except PropertyError Cursor :=
  if !kind.hasDocument then .error (.invalidArgument (.noDocument kind))
  else if kind = .desiredPatch ∧ filter = .allReportedByDevice then
    .error (.invalidArgument .noReportedProperties)
  else .ok ⟨stream, registry, kind, filter, .start, none, 1⟩

def onStream {α : Type} (x : Attempt TokenStream α) : Attempt Cursor α := fun c =>
  match x c.stream with
  | .ok a s => .ok a { c with stream := s }
  | .error e s => .error e { c with stream := s }

/-- The depth at which the names of properties stand. -/
def propertyDepth (c : Cursor) : Nat :=
  if c.component.isSome then c.memberDepth + 1 else c.memberDepth

/-- Whether the value behind the current name begins with the marker of a component. -/
def atComponent (s : TokenStream) : Bool :=
  s.peek? 1 = some .beginObject && s.peek? 2 = some (.propertyName Component.markerKey)
    && s.peek? 3 = some (.string Component.markerValue)

/-- What the member called `name` is, whose name is the current token. -/
def role (c : Cursor) (name : String) : MemberRole :=
  if Document.isReserved name then .reserved
  else if c.component.isSome then
    if name = Component.markerKey then .reserved else .property
  else if atComponent c.stream && c.registry.contains name then .component
  else .property

/-- From a name in the document, moves to the first member of the section, if there is one. -/
def findSection (name : String) : (fuel : Nat) → Attempt Cursor Bool
  | 0 => throw (.invalidState .noTokensLeft)
  | fuel + 1 => do
    let s := (← get).stream
    match s.token? with
    | some (.propertyName n) =>
      if n = name then
        if s.peek? 1 = some .beginObject then
          onStream TokenStream.advance
          onStream TokenStream.advance
          return true
        else throw (.malformedDocument (.sectionNotObject name))
      else
        onStream TokenStream.skipMember
        findSection name fuel
    | some .endObject => return false
    | _ => throw (.invalidState .notInDocument)

/-- From the opening brace of the document, moves to the first member of the walked object, if there
is one. -/
def enterSection : Attempt Cursor Bool := do
  let c ← get
  unless c.stream.atDocument do throw (.invalidState .notAtDocument)
  if c.kind = .documentGet then
    modify fun c => { c with memberDepth := 2 }
    onStream TokenStream.advance
    findSection c.filter.section ((← get).stream.ahead.length + 1)
  else
    modify fun c => { c with memberDepth := 1 }
    onStream TokenStream.advance
    return true

/-- From the name of a component, moves past its marker. -/
def enterComponent (name : String) : Attempt Cursor Unit := do
  onStream TokenStream.advance
  onStream TokenStream.advance
  onStream TokenStream.advance
  onStream TokenStream.advance
  modify fun c => { c with component := some name }

/-- Goes on to the next property, at most `fuel` members, and stops on its name. -/
def walk : (fuel : Nat) → Attempt Cursor (Option Property)
  | 0 => throw (.invalidState .noTokensLeft)
  | fuel + 1 => do
    let c ← get
    let depth := c.stream.depth
    match c.stream.token? with
    | some .endObject =>
      if c.component.isSome ∧ depth = c.memberDepth then
        set { c with component := none }
        onStream TokenStream.advance
        walk fuel
      else if depth + 1 = c.memberDepth then
        set { c with progress := .ended }
        return none
      else throw (.invalidState (.unexpectedEnd depth))
    | some (.propertyName name) =>
      if depth = c.propertyDepth then
        match c.role name with
        | .reserved =>
          onStream TokenStream.skipMember
          walk fuel
        | .component =>
          enterComponent name
          walk fuel
        | .property =>
          set { c with progress := .yielded name depth }
          return some ⟨c.component, name⟩
      else throw (.invalidState (.misplacedProperty name depth c.propertyDepth))
    | some _ => throw (.invalidState .notAMember)
    | none => throw (.invalidState .notOnToken)

/-- Whether the stream is right behind the value of the property `name` at `depth`. -/
def isConsumed (s : TokenStream) (name : String) (depth : Nat) : Bool :=
  match s.token? with
  | some (.propertyName n) => s.depth = depth && n ≠ name
  | some .endObject => s.depth + 1 = depth
  | _ => false

/-- Goes on from where the stream is. -/
def walkOn : Attempt Cursor (Option Property) := do
  walk ((← get).stream.ahead.length + 1)

/-- The next property, or nothing once the walked object is closed. -/
def nextProperty : Attempt Cursor (Option Property) := do
  let c ← get
  match c.progress with
  | .ended => return none
  | .start =>
    if ← enterSection then walkOn
    else
      modify fun c => { c with progress := .ended }
      return none
  | .yielded name depth =>
    if isConsumed c.stream name depth then walkOn
    else throw (.invalidState (.valueNotConsumed name))

/-- Whether the stream is on the name that was yielded last. -/
def atYielded (c : Cursor) : Bool :=
  match c.progress with
  | .yielded name depth => c.stream.current? = some (.propertyName name, depth)
  | _ => false

/-- From the yielded name, moves past its value. -/
def skipValue : Attempt Cursor Unit := do
  unless (← get).atYielded do throw (.invalidState .notAtYielded)
  onStream TokenStream.skipMember

/-- From the yielded name, reads its value and moves past it. -/
def readValue : Attempt Cursor Json.Value := do
  unless (← get).atYielded do throw (.invalidState .notAtYielded)
  onStream TokenStream.advance
  let v ← onStream TokenStream.readValue
  onStream TokenStream.advance
  return v

end Cursor
end DeviceTwin
