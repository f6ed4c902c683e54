import DeviceTwin.Device
import DeviceTwin.Json.Reader.Names

/-!
# Settings

What an agent needs to know before it starts: who it is, which broker it talks to and which
components it has. Each of these is taken from a variable of the environment, or is a default where
the variable is missing.
-/
namespace DeviceTwin

/-- The settings of an agent; times are in milliseconds. -/
structure Settings where
  deviceId : String
  modelId : Option String
  /-- The address of the broker, as given. -/
  broker : String
  keepAlive : Nat
  /-- How long one receive waits. -/
  receiveTimeout : Nat
  scheme : TopicScheme
  components : ComponentRegistry
  topicCapacity : Nat
  payloadCapacity : Nat
  deriving DecidableEq, Repr

inductive SettingsError where
  | components (failure : Json.Failure)
  | receiveTimeout (fault : Integer.Fault)
  | payloadCapacity (fault : Integer.Fault)
  deriving DecidableEq, Repr

def SettingsError.message : SettingsError → String
  | components failure => "Invalid PNP_TWIN_COMPONENTS JSON: " ++ failure.message
  | receiveTimeout fault => "Invalid PNP_TWIN_RECEIVE_TIMEOUT_MS: " ++ fault.message
  | payloadCapacity fault => "Invalid PNP_TWIN_PAYLOAD_CAPACITY: " ++ fault.message

namespace Settings

/-- The settings of a device without any variables. -/
def standard (deviceId : String) : Settings where
  deviceId := deviceId
  modelId := none
  broker := "tcp://localhost:1883"
  keepAlive := 30000
  receiveTimeout := 500
  scheme := ⟨TopicScheme.standardRoot⟩
  components := .empty
  topicCapacity := 128
  payloadCapacity := 1024

/-- The id of a device that was given none, from 32 random hexadecimal digits. -/
def randomId (digits : String) : String := "pnp-twin-" ++ digits

def valueOr {α : Type} (default : α) (read : String → Except SettingsError α) :
    Option String → Except SettingsError α
  | none => .ok default
  | some text => read text

def readComponents (text : String) : Except SettingsError ComponentRegistry :=
  match Json.readNames (Utf8.ofText text) with
  | .ok names => .ok (.ofList names)
  | .error failure => .error (.components failure)

/-- Reads a number. Those of a setting go as far as those of a request. -/
def readNumber (error : Integer.Fault → SettingsError) (text : String) :
    Except SettingsError Nat :=
  (Integer.readNatural Device.maxNumber text.toList).mapError error

/-- The settings that variables give; `digits` stand in for a missing device id. -/
def ofVariables (digits : String) (lookup : String → Option String) :
    Except SettingsError Settings := do
  let base := standard (randomId digits)
  let components ←
    valueOr base.components readComponents (lookup "PNP_TWIN_COMPONENTS")
  let receiveTimeout ←
    valueOr base.receiveTimeout (readNumber .receiveTimeout) (lookup "PNP_TWIN_RECEIVE_TIMEOUT_MS")
  let payloadCapacity ←
    valueOr base.payloadCapacity (readNumber .payloadCapacity) (lookup "PNP_TWIN_PAYLOAD_CAPACITY")
  return { base with
    deviceId := (lookup "PNP_TWIN_DEVICE_ID").getD base.deviceId
    modelId := lookup "PNP_TWIN_MODEL_ID"
    broker := (lookup "PNP_TWIN_MQTT_BROKER").getD base.broker
    scheme := ⟨(lookup "PNP_TWIN_TOPIC_PREFIX").getD base.scheme.root⟩
    components, receiveTimeout, payloadCapacity }

def device (s : Settings) : Device :=
  Device.new s.scheme s.components s.topicCapacity s.payloadCapacity

end Settings
end DeviceTwin
