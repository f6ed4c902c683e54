import DeviceTwin.Acknowledgement
import DeviceTwin.Property

/-!
# The payload that acknowledges accepted properties

Each property gets a block with status 200 and the version of its document. Properties that follow
each other and belong to one component share one wrapper.
-/
namespace DeviceTwin.Acknowledgement

/-- A property with the value that was accepted for it. -/
abbrev Accepted := Property × Json.Value

/-- The description of an accepted property. -/
def success : String := "success"

def writeBlock (version : Int) (name : String) (v : Json.Value) : Attempt Acknowledgement Unit := do
  beginStatus name Status.ok version (some success)
  append (.value v)
  endStatus

/-- Closes the component that is open, if one is. -/
def leave (component : Option String) : Attempt Acknowledgement Unit :=
  if component.isSome then endComponent else return ()

/-- Opens a component, if there is one. -/
def enter : (component : Option String) → Attempt Acknowledgement Unit
  | some name => beginComponent name
  | none => return ()

/-- Writes the blocks of properties; `component` is open before the first of them. -/
def writeBlocks (version : Int) : (component : Option String) → List Accepted →
    Attempt Acknowledgement Unit
  | component, [] => leave component
  | component, (p, v) :: rest => do
    if p.component ≠ component then
      leave component
      enter p.component
    writeBlock version p.name v
    writeBlocks version p.component rest

def writePayload (version : Int) (accepted : List Accepted) : Attempt Acknowledgement Unit := do
  writeBlocks version none accepted
  finish

/-- The payload that acknowledges properties of a document of this version, where it has at most
`capacity` bytes. -/
def payload (capacity : Nat) (version : Int) (accepted : List Accepted) :
    Except PropertyError Bytes :=
  within capacity (writePayload version accepted)

end DeviceTwin.Acknowledgement
