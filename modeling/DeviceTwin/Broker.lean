import DeviceTwin.Text.Integer
import DeviceTwin.Uri

/-!
# Brokers

The address of a broker is `tcp://host:portNumber`, `mqtt://host:portNumber` or `host:portNumber`,
where the number may be missing. It has no path.
-/
namespace DeviceTwin

/-- Where a broker is reached. -/
structure Broker where
  host : String
  portNumber : Nat
  deriving DecidableEq, Repr

inductive BrokerFault where
  | address (fault : Uri.Fault)
  | unsupportedScheme (scheme : String)
  | unexpectedPath (path : String)
  | noHost
  deriving DecidableEq, Repr

def BrokerFault.message : BrokerFault → String
  | address fault => fault.message
  | unsupportedScheme scheme => "scheme `" ++ scheme ++ "` is not supported"
  | unexpectedPath path => "unexpected path `" ++ path ++ "`"
  | noHost => "no host"

/-- An address that names no broker, and why. -/
structure BrokerError where
  address : String
  fault : BrokerFault
  deriving DecidableEq, Repr

def BrokerError.message (e : BrokerError) : String :=
  "invalid MQTT broker URL `" ++ e.address ++ "`: " ++ e.fault.message

namespace Broker

def standardPort : Nat := 1883

def schemes : List String := ["tcp", "mqtt"]

/-- The address with a scheme, where it has none. -/
def withScheme (address : String) : String :=
  if (cut? "://".toList address.toList).isSome then address else "tcp://" ++ address

def ofUri (uri : Uri) : Except BrokerFault Broker :=
  if uri.scheme ∉ schemes then .error (.unsupportedScheme uri.scheme)
  else if ¬uri.path.all (· = '/') then .error (.unexpectedPath (String.ofList uri.path))
  else
    match uri.host with
    | none => .error .noHost
    | some host => .ok ⟨String.ofList host.render, uri.portNumber.getD standardPort⟩

def ofText (address : String) : Except BrokerError Broker :=
  match Uri.parse (withScheme address) with
  | .error fault => .error ⟨address, .address fault⟩
  | .ok uri => (ofUri uri).mapError (⟨address, ·⟩)

end Broker
end DeviceTwin
