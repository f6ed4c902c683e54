import DeviceTwin.Acknowledgement.Payload

/-!
# The payload that acknowledges one property

The payload is written into ever larger room, each four times the one before, until it fits or the
largest one is too small.
-/
namespace DeviceTwin.Acknowledgement

/-- The answer to a property that the service has set. -/
structure Single where
  component : Option String
  name : String
  code : Nat
  version : Int
  description : Option String
  value : Json.Value
  deriving DecidableEq, Repr

namespace Single

def write (s : Single) : Attempt Acknowledgement Unit := do
  enter s.component
  beginStatus s.name s.code s.version s.description
  append (.value s.value)
  endStatus
  leave s.component
  finish

def firstCapacity : Nat := 256
def largerCapacities : List Nat := [1024, 4096, 16384, 65536]

/-- What `make` gives for the first capacity that is large enough, or for the last one. -/
def grow {α : Type} (make : Nat → Except PropertyError α) :
    (capacity : Nat) → (larger : List Nat) → Except PropertyError α
  | capacity, [] => make capacity
  | capacity, next :: larger =>
    match make capacity with
    | .error (.insufficientBuffer _ _) => grow make next larger
    | outcome => outcome

def payload (s : Single) : Except PropertyError Bytes :=
  grow (fun capacity => within capacity s.write) firstCapacity largerCapacities

end Single
end DeviceTwin.Acknowledgement
