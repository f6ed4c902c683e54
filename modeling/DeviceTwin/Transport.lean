import DeviceTwin.Text.Utf8

/-!
# Transports

A device talks to the service over a publish/subscribe client. Any type of state with the three
operations of `Transport` can carry it.
-/
namespace DeviceTwin

/-- How surely a message arrives. -/
inductive QoS where
  | atMostOnce
  | atLeastOnce
  deriving DecidableEq, Repr

structure Message where
  topic : String
  payload : Bytes
  deriving DecidableEq, Repr

/-- Why a transport fails, in its own words. -/
structure TransportError where
  text : String
  deriving DecidableEq, Repr

/-- A publish/subscribe client with states in `τ`. -/
class Transport (τ : Type) where
  subscribe : (filter : String) → QoS → EStateM TransportError τ Unit
  publish : (topic : String) → (payload : Bytes) → QoS → EStateM TransportError τ Unit
  /-- The next message, or nothing where none came in time. -/
  receive : EStateM TransportError τ (Option Message)

end DeviceTwin
