import DeviceTwin.Component
import DeviceTwin.Response
import DeviceTwin.Writer

/-!
# Acknowledgements

The payload of a patch of reported properties is an object. It holds properties, blocks that
acknowledge a property that the service has set, and components, which hold the same. A block has the
status code `ac`, the version `av`, perhaps a description `ad`, and the `value`, which the caller
writes. A framing call that fails leaves the payload as it was.
-/
namespace DeviceTwin

/-- A payload that is being written, and the frames that are open within its root. -/
structure Acknowledgement where
  writer : Writer
  /-- The open components and blocks, the innermost first. -/
  frames : List Acknowledgement.Frame
  deriving DecidableEq, Repr

namespace Acknowledgement

def codeKey : String := "ac"
def versionKey : String := "av"
def descriptionKey : String := "ad"
def valueKey : String := "value"

/-- The innermost open frame. -/
def top (a : Acknowledgement) : Frame := a.frames.head?.getD .root

/-- Opens the root of a payload. -/
def start : Attempt Writer Acknowledgement := do
  Writer.append (.opening .object)
  return ⟨← get, []⟩

def appendAll : List Piece → Attempt Writer Unit
  | [] => return ()
  | p :: ps => do
    Writer.append p
    appendAll ps

/-- Makes calls on the writer of a payload. Where one of them fails, none was made. -/
def atomically (calls : Attempt Writer Unit) : Attempt Acknowledgement Unit := fun a =>
  match calls a.writer with
  | .ok () w => .ok () { a with writer := w }
  | .error e w => .error e { a with writer := w.rollback a.writer.checkpoint }

/-- Appends pieces to the payload, all of them or none. -/
def write (pieces : List Piece) : Attempt Acknowledgement Unit := atomically (appendAll pieces)

section Write

variable {ps : List Piece} {a : Acknowledgement} {w : Writer} {e : PropertyError}

theorem write_ok (h : appendAll ps a.writer = .ok () w) :
    write ps a = .ok () { a with writer := w } := by
  rw [write, atomically, h]

theorem write_error (h : appendAll ps a.writer = .error e w) :
    write ps a = .error e { a with writer := w.rollback a.writer.checkpoint } := by
  rw [write, atomically, h]

end Write

/-- Fails unless the innermost frame is admitted. -/
def expectTop (call : Call) (admitted : Frame → Bool) : Attempt Acknowledgement Unit := do
  let top := (← get).top
  unless admitted top do throw (.framing (.notAllowed call top))

def push (frame : Frame) : Attempt Acknowledgement Unit :=
  modify fun a => { a with frames := frame :: a.frames }

def pop : Attempt Acknowledgement Unit := modify fun a => { a with frames := a.frames.tail }

def Frame.isRoot : Frame → Bool
  | root => true
  | _ => false

def Frame.isComponent : Frame → Bool
  | component => true
  | _ => false

def Frame.isBlock : Frame → Bool
  | statusBlock _ => true
  | _ => false

def componentOpening (name : String) : List Piece := [
  .name name, .opening .object,
  .name Component.markerKey, .value (.string Component.markerValue)]

/-- The pieces that open a block, up to the name of its value. -/
def blockOpening (name : String) (code : Nat) (version : Int) (description : Option String) :
    List Piece :=
  [.name name, .opening .object,
    .name codeKey, .value (.number (.integer code)),
    .name versionKey, .value (.number (.integer version))]
  ++ (match description with
    | some text => [.name descriptionKey, .value (.string text)]
    | none => [])
  ++ [.name valueKey]

/-- Opens a component, directly in the root. -/
def beginComponent (name : String) : Attempt Acknowledgement Unit := do
  expectTop .beginComponent Frame.isRoot
  write (componentOpening name)
  push .component

def endComponent : Attempt Acknowledgement Unit := do
  expectTop .endComponent Frame.isComponent
  write [.closing .object]
  pop

/-- Opens the block that acknowledges a property and leaves the writer ready for one value. -/
def beginStatus (name : String) (code : Nat) (version : Int) (description : Option String) :
    Attempt Acknowledgement Unit := do
  expectTop .beginStatus fun top => !top.isBlock
  write (blockOpening name code version description)
  push (.statusBlock (← get).writer.depth)

/-- Whether the writer is at `depth` and no name waits for its value. -/
def valueComplete (w : Writer) (depth : Nat) : Bool := !w.valueDue && w.depth = depth

/-- Closes the open block, behind its value. -/
def endStatus : Attempt Acknowledgement Unit := do
  let a ← get
  match a.top with
  | .statusBlock depth =>
    unless valueComplete a.writer depth do throw (.framing .valueIncomplete)
    write [.closing .object]
    pop
  | top => throw (.framing (.notAllowed .endStatus top))

/-- Writes a property, in the root or in a component, of which the value may have no encoding. The
name is written before this is found out. -/
def propertyGiven (name : String) (v : Except String Json.Value) : Attempt Acknowledgement Unit := do
  expectTop .property fun top => !top.isBlock
  atomically do
    Writer.append (.name name)
    Writer.give (v.map .value)

def property (name : String) (v : Json.Value) : Attempt Acknowledgement Unit :=
  propertyGiven name (.ok v)

/-- Closes the root. -/
def finish : Attempt Acknowledgement Unit := do
  expectTop .finish Frame.isRoot
  write [.closing .object]

/-- Appends what a call gives for the value of a block. -/
def give (given : Writer.Given) : Attempt Acknowledgement Unit := fun a =>
  match Writer.give given a.writer with
  | .ok () w => .ok () { a with writer := w }
  | .error e w => .error e { a with writer := w }

/-- Appends a piece of the value of a block. -/
def append (p : Piece) : Attempt Acknowledgement Unit := give (.ok p)

section Append

variable {p : Piece} {a : Acknowledgement} {w : Writer} {e : PropertyError}

theorem append_ok (h : Writer.append p a.writer = .ok () w) :
    append p a = .ok () { a with writer := w } := by
  rw [append, give, Writer.give, h]

theorem append_error (h : Writer.append p a.writer = .error e w) :
    append p a = .error e { a with writer := w } := by
  rw [append, give, Writer.give, h]

end Append

/-- What `write` makes of a new payload, where it has at most `capacity` bytes. -/
def within (capacity : Nat) (write : Attempt Acknowledgement Unit) : Except PropertyError Bytes :=
  match start (Writer.ofRegion (List.replicate capacity 0)) with
  | .error e _ => .error e
  | .ok a _ =>
    match write a with
    | .error e _ => .error e
    | .ok () a => .ok a.writer.written

end Acknowledgement
end DeviceTwin
