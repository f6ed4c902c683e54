import DeviceTwin.Transport

/-!
# A transport in memory

Messages are taken from a queue, and what a device subscribes to and publishes is noted down. Each of
the three operations can be made to fail.
-/
namespace DeviceTwin

structure Loopback where
  /-- The messages that wait, the next one first. -/
  inbound : List Message
  subscribed : List (String × QoS)
  published : List (String × Bytes × QoS)
  refuseSubscribe : Bool
  refusePublish : Bool
  closed : Bool
  /-- Whether a message was asked for when none waited. -/
  drained : Bool
  deriving DecidableEq, Repr

namespace Loopback

def empty : Loopback := ⟨[], [], [], false, false, false, false⟩

def queue (l : Loopback) (m : Message) : Loopback := { l with inbound := l.inbound ++ [m] }

instance : Transport Loopback where
  subscribe filter qos := fun l =>
    if l.refuseSubscribe then .error ⟨"subscribe refused"⟩ l
    else .ok () { l with subscribed := l.subscribed ++ [(filter, qos)] }
  publish topic payload qos := fun l =>
    if l.refusePublish then .error ⟨"publish refused"⟩ l
    else .ok () { l with published := l.published ++ [(topic, payload, qos)] }
  receive := fun l =>
    if l.closed then .error ⟨"transport closed"⟩ l
    else
      match l.inbound with
      | [] => .ok none { l with drained := true }
      | m :: rest => .ok (some m) { l with inbound := rest }

end Loopback
end DeviceTwin
