import DeviceTwin.Acknowledgement.Tree
import DeviceTwin.Proofs.Writer.Outline

/-!
# What the calls on a payload say

A payload is written by framing calls and, within a block, by pieces of its value. A draft is what
these calls say, without any text: the parts of the payload so far, the members of the open
component, and the value of the open block as far as it goes. `Draft.take?` is the whole of the frame
rules.

Results:
* `push_inside`, `push_inside_none`: within a block the grammar of the whole payload is that of the
  value.
* `pushAll_componentOpening`, `pushAll_blockOpening`: the pieces of a framing call lead to the
  outline of what it says.
-/
namespace DeviceTwin

open Json (Members Value)

/-! ## Outlines within an outline -/

namespace Outline

/-- The outline of a member's value as one of the whole text, where `members` stand in front of it
and `name` is its name. -/
def inside (members : Members) (name : String) (outer : List Hole) : Outline → Outline
  | blank => named members name outer
  | array items holes => array items (holes ++ .member members name :: outer)
  | object ms holes => object ms (holes ++ .member members name :: outer)
  | named ms n holes => named ms n (holes ++ .member members name :: outer)
  | whole v => object (members ++ [(name, v)]) outer

section Inside

variable (members : Members) (name : String) (outer : List Hole)

theorem fill_inside (v : Value) (holes : List Hole) :
    (fill v holes).inside members name outer = fill v (holes ++ .member members name :: outer) := by
  match holes with
  | [] | .item _ :: _ | .member _ _ :: _ => rfl

theorem holes?_inside {o : Outline} {holes : List Hole} (h : o.holes? = some holes) :
    (o.inside members name outer).holes? = some (holes ++ .member members name :: outer) := by
  cases o with
  | object | whole => cases h
  | blank | array | named => cases h; rfl

/-- Within a member the grammar is that of its value. -/
theorem push_inside {o o' : Outline} {p : Piece} (h : o.push p = some o') :
    (o.inside members name outer).push p = some (o'.inside members name outer) := by
  cases p with
  | value v =>
    obtain ⟨holes, hh, rfl⟩ := Option.map_eq_some_iff.1 h
    rw [push, holes?_inside members name outer hh, fill_inside]
    rfl
  | opening scope =>
    cases scope with
    | array | object =>
      obtain ⟨holes, hh, rfl⟩ := Option.map_eq_some_iff.1 h
      rw [push, holes?_inside members name outer hh]
      rfl
  | name n =>
    cases o with
    | object => cases h; rfl
    | blank | array | named | whole => cases h
  | closing scope =>
    cases scope with
    | array =>
      cases o with
      | array => cases h; rw [fill_inside]; rfl
      | blank | object | named | whole => cases h
    | object =>
      cases o with
      | object => cases h; rw [fill_inside]; rfl
      | blank | array | named | whole => cases h

/-- As long as the value is not complete nothing else may stand there. -/
theorem push_inside_none {o : Outline} {p : Piece} (hwhole : o.isWhole = false)
    (h : o.push p = none) : (o.inside members name outer).push p = none := by
  cases o with
  | whole => cases hwhole
  | blank | named | array | object =>
    cases p with
    | value | name => first | rfl | cases h
    | opening scope | closing scope => cases scope <;> first | rfl | cases h

theorem isWhole_inside (o : Outline) : (o.inside members name outer).isWhole = false := by
  cases o <;> rfl

end Inside

end Outline

namespace Acknowledgement

/-! ## Calls -/

/-- A call on a payload that is being written. -/
inductive Step where
  | beginComponent (name : String)
  | endComponent
  | beginStatus (name : String) (code : Nat) (version : Int) (description : Option String)
  | endStatus
  | property (name : String) (v : Value)
  /-- A piece of the value of a block. -/
  | append (p : Piece)
  deriving DecidableEq, Repr

namespace Step

def run : Step → Attempt Acknowledgement Unit
  | beginComponent name => Acknowledgement.beginComponent name
  | endComponent => Acknowledgement.endComponent
  | beginStatus name code version description =>
    Acknowledgement.beginStatus name code version description
  | endStatus => Acknowledgement.endStatus
  | property name v => Acknowledgement.property name v
  | append p => Acknowledgement.append p

def isAppend : Step → Bool
  | append _ => true
  | _ => false

end Step

/-! ## Drafts -/

inductive Part where
  | member (m : String × Value)
  | component (name : String) (members : Members)

def Part.toMember : Part → String × Value
  | member m => m
  | component name members => (name, wrapper members)

/-- What a block says of its value. -/
structure Heading where
  name : String
  code : Nat
  version : Int
  description : Option String

def Heading.member (h : Heading) (v : Value) : String × Value :=
  (h.name, block h.code h.version h.description v)

/-- What the calls on a payload have said so far. -/
structure Draft where
  /-- The parts of the root. -/
  parts : List Part
  /-- The open component with its members. -/
  component? : Option (String × Members)
  /-- The open block with its value. -/
  block? : Option (Heading × Outline)

namespace Draft

def empty : Draft := ⟨[], none, none⟩

/-- Adds a member to the open component, or to the root. -/
def add (d : Draft) (m : String × Value) : Draft :=
  match d.component? with
  | some (c, ms) => { d with component? := some (c, ms ++ [m]) }
  | none => { d with parts := d.parts ++ [.member m] }

/-- What a call adds, where the open frames admit it: a component begins in the root, a block or a
property outside of a block, and only the innermost frame ends, a block once its value is complete. -/
def take? (d : Draft) : Step → Option Draft
  | .beginComponent c =>
    match d.component?, d.block? with
    | none, none => some { d with component? := some (c, []) }
    | _, _ => none
  | .endComponent =>
    match d.component?, d.block? with
    | some (c, ms), none => some ⟨d.parts ++ [.component c ms], none, none⟩
    | _, _ => none
  | .beginStatus name code version description =>
    match d.block? with
    | none => some { d with block? := some (⟨name, code, version, description⟩, .blank) }
    | some _ => none
  | .endStatus =>
    match d.block? with
    | some (h, .whole v) => some ({ d with block? := none }.add (h.member v))
    | _ => none
  | .property name v =>
    match d.block? with
    | none => some (d.add (name, v))
    | some _ => none
  | .append p =>
    match d.block? with
    | some (h, o) => (o.push p).map fun o => { d with block? := some (h, o) }
    | none => none

def ofSteps (steps : List Step) : Option Draft := steps.foldlM take? empty

/-- Whether the value of a block is being written. -/
def isWriting (d : Draft) : Bool :=
  match d.block? with
  | some (_, o) => !o.isWhole
  | none => false

/-- Whether neither a component nor a block is open. -/
def isClosed (d : Draft) : Bool := d.component?.isNone && d.block?.isNone

def members (d : Draft) : Members := d.parts.map Part.toMember

/-- The members of the innermost open component, or of the root. -/
def level (d : Draft) : Members :=
  match d.component? with
  | some (_, ms) => (Component.markerKey, .string Component.markerValue) :: ms
  | none => d.members

/-- The hole that the open component is to fill. -/
def outer (d : Draft) : List Hole :=
  match d.component? with
  | some (c, _) => [.member d.members c]
  | none => []

end Draft

/-- The members of a block in front of its value. -/
def Heading.members (h : Heading) : Members :=
  [(codeKey, .number (.integer h.code)), (versionKey, .number (.integer h.version))]
    ++ (h.description.map fun text => (descriptionKey, Value.string text)).toList

def Draft.outline (d : Draft) : Outline :=
  match d.block? with
  | none => .object d.level d.outer
  | some (h, o) => o.inside h.members valueKey (.member d.level h.name :: d.outer)

def Draft.frames (d : Draft) : List Frame :=
  (match d.block? with
    | some _ => [.statusBlock (d.outer.length + 2)]
    | none => [])
  ++ (match d.component? with
    | some _ => [.component]
    | none => [])

/-! ## Pieces -/

theorem pushAll_componentOpening (ms : Members) (outer : List Hole) (c : String) :
    (Outline.object ms outer).pushAll (componentOpening c)
      = some (.object [(Component.markerKey, .string Component.markerValue)]
          (.member ms c :: outer)) :=
  rfl

theorem pushAll_blockOpening (ms : Members) (outer : List Hole) (h : Heading) :
    (Outline.object ms outer).pushAll (blockOpening h.name h.code h.version h.description)
      = some (.named h.members valueKey (.member ms h.name :: outer)) := by
  obtain ⟨name, code, version, description⟩ := h
  cases description with
  | none | some _ => rfl

theorem pushAll_closing (ms : Members) (outer : List Hole) :
    (Outline.object ms outer).pushAll [.closing .object]
      = some (.fill (.object ms) outer) :=
  rfl

theorem pushAll_member (ms : Members) (outer : List Hole) (name : String) (v : Value) :
    (Outline.object ms outer).pushAll [.name name, .value v]
      = some (.object (ms ++ [(name, v)]) outer) :=
  rfl

end Acknowledgement
end DeviceTwin
