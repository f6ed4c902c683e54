import DeviceTwin.Acknowledgement.Payload
import DeviceTwin.Device.Pending
import DeviceTwin.Document.Payload
import DeviceTwin.Store
import DeviceTwin.Topic.Classify
import DeviceTwin.Transport

/-!
# The state of a device

A device knows its topics and its components, holds the properties that it has accepted and the
requests that wait for an answer. Of a document it accepts the properties that are not older than
those it has.
-/
namespace DeviceTwin

structure Device where
  scheme : TopicScheme
  registry : ComponentRegistry
  /-- The greatest number of bytes of a topic. -/
  topicCapacity : Nat
  /-- The greatest number of bytes of an acknowledgement. -/
  payloadCapacity : Nat
  store : Store
  /-- The number of the next request. -/
  nextRequest : Nat
  pending : Pending
  deriving DecidableEq

inductive Warning where
  | handlingFailed (topic : String) (error : PropertyError)
  | requestDropped (number : Nat) (request : Request)
  | documentRefused (id : String) (status : Option Nat)
  | patchRefused (id : String) (status : Option Nat)
  deriving DecidableEq, Repr

def Warning.message : Warning → String
  | handlingFailed _ _ => "Failed to handle message"
  | requestDropped _ _ => "Dropping unanswered request"
  | documentRefused _ _ => "Property document request failed"
  | patchRefused _ _ => "Reported properties rejected"

inductive DeviceError where
  | transport (error : TransportError)
  | property (error : PropertyError)
  deriving DecidableEq, Repr

def DeviceError.message : DeviceError → String
  | transport error => "transport error: " ++ error.text
  | property error => error.message

namespace Device

def new (scheme : TopicScheme) (registry : ComponentRegistry)
    (topicCapacity payloadCapacity : Nat) : Device :=
  ⟨scheme, registry, topicCapacity, payloadCapacity, .empty, 1, []⟩

/-- The greatest number of a request. -/
def maxNumber : Nat := 18446744073709551615

/-- The number that a correlation id names. -/
def number? (id : String) : Option Nat :=
  (Integer.readNatural maxNumber id.toList).toOption

/-- The kind of a message that answers `request`: what answers a patch is no document. -/
def effectiveKind (kind : ResponseKind) (request : Option Request) : ResponseKind :=
  if kind = .documentGet ∧ request = some .reportedPatch then .reportedAck else kind

/-- Stores the properties in front of a cursor, at most `fuel` of them, and tells which of them were
accepted. -/
def acceptAll (version : Int) : (fuel : Nat) → Cursor →
    Attempt Store (List Acknowledgement.Accepted)
  | 0, _ => fun store => .error (.invalidState .noTokensLeft) store
  | fuel + 1, c => fun store =>
    match c.nextProperty with
    | .error e _ => .error e store
    | .ok none _ => .ok [] store
    | .ok (some p) c =>
      match c.readValue with
      | .error e _ => .error e store
      | .ok v c =>
        let (accepted, store) := store.apply p v version
        match acceptAll version fuel c store with
        | .error e store => .error e store
        | .ok rest store => .ok (if accepted then (p, v) :: rest else rest) store

end Device

end DeviceTwin
