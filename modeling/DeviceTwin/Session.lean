import DeviceTwin.Device

/-!
# Sessions of a device

A device subscribes to its property topics and asks for the whole document. Of each document that
arrives it stores the properties that are not older than those it has, and publishes one patch that
acknowledges them. Answers are matched with the requests that wait for one. A message that cannot be
handled is noted as a warning and stops nothing.
-/
namespace DeviceTwin

/-- A device, its transport and its warnings so far. -/
structure Session (τ : Type) where
  device : Device
  transport : τ
  warnings : List Warning

namespace Session

variable {τ : Type}

abbrev Action (τ : Type) := EStateM DeviceError (Session τ)

def ofDevice (device : Device) (transport : τ) : Session τ := ⟨device, transport, []⟩

def onDevice (f : Device → Device) : Action τ Unit :=
  modify fun s => { s with device := f s.device }

def warn (ws : List Warning) : Action τ Unit :=
  modify fun s => { s with warnings := s.warnings ++ ws }

def onTransport {α : Type} (x : EStateM TransportError τ α) : Action τ α := fun s =>
  match x s.transport with
  | .ok a t => .ok a { s with transport := t }
  | .error e t => .error (.transport e) { s with transport := t }

/-- The outcome of a computation on properties. -/
def ofExcept {α : Type} : Except PropertyError α → Action τ α
  | .ok a => return a
  | .error e => throw (.property e)

def onStore {α : Type} (x : Attempt Store α) : Action τ α := fun s =>
  match x s.device.store with
  | .ok a store => .ok a { s with device := { s.device with store := store } }
  | .error e store => .error (.property e) { s with device := { s.device with store := store } }

def takeNumber : Action τ Nat := do
  let n := (← get).device.nextRequest
  onDevice fun d => { d with nextRequest := n + 1 }
  return n

variable [Transport τ]

/-- Publishes a request under a new number. Once it is sent it waits for its answer, and the oldest
requests are given up where too many wait. -/
def publish (request : Request) (payload : Bytes) : Action τ Unit := do
  let number ← takeNumber
  let d := (← get).device
  let topic ← ofExcept (d.scheme.topicWithin d.topicCapacity request (Integer.ofNat number))
  onTransport (Transport.publish topic payload .atLeastOnce)
  let pending := d.pending ++ [(number, request)]
  onDevice fun d => { d with pending := pending.trim }
  warn (pending.surplus.map fun (n, r) => .requestDropped n r)

def requestDocument : Action τ Unit := publish .documentGet []

/-- Subscribes to the property topics and asks for the whole document. -/
def start : Action τ Unit := do
  let scheme := (← get).device.scheme
  onTransport (Transport.subscribe scheme.responseFilter .atLeastOnce)
  onTransport (Transport.subscribe scheme.desiredPatchFilter .atLeastOnce)
  requestDocument

/-- Acknowledges accepted properties, if there are any. -/
def acknowledge (version : Int) (accepted : List Acknowledgement.Accepted) : Action τ Unit := do
  if accepted.isEmpty then return ()
  let payload ← ofExcept
    (Acknowledgement.payload (← get).device.payloadCapacity version accepted)
  publish .reportedPatch payload

def takeDocument (kind : ResponseKind) (payload : Bytes) : Action τ Unit := do
  let version ← ofExcept (Document.payloadVersion kind payload)
  let cursor ← ofExcept (Document.payloadCursor kind .writeableOnly (← get).device.registry payload)
  let accepted ← onStore (Device.acceptAll version (cursor.stream.ahead.length + 1) cursor)
  acknowledge version accepted

/-- Notes an answer that is no success, or that answers a request for the whole document. -/
def noteAnswer (response : Response) (request : Option Request) : Action τ Unit :=
  let id := response.correlationId.getD ""
  if request = some .documentGet then warn [.documentRefused id response.status]
  else if response.isSuccess then return ()
  else warn [.patchRefused id response.status]

/-- Takes up an answer without a document. A patch that is answered makes all earlier ones void. -/
def takeAnswer (response : Response) (number : Option Nat) (request : Option Request) :
    Action τ Unit := do
  noteAnswer response request
  match number, request with
  | some n, some .reportedPatch =>
    onDevice fun d => { d with pending := d.pending.forgetPatches n }
  | _, _ => return ()

/-- Takes up a property message. The request that it answers no longer waits. -/
def takeResponse (response : Response) (payload : Bytes) : Action τ Unit := do
  let number := response.correlationId.bind Device.number?
  let pending := (← get).device.pending
  let request := number.bind pending.get?
  onDevice fun d => { d with pending := (number.map pending.erase).getD pending }
  let kind := Device.effectiveKind response.kind request
  if kind.hasDocument then takeDocument kind payload else takeAnswer response number request

def handle (m : Message) : Action τ Unit := do
  match ← ofExcept ((← get).device.scheme.classify m.topic) with
  | none => return ()
  | some response => takeResponse response m.payload

/-- Handles a message; where that fails for the sake of the message, this is only noted. -/
def handleOrWarn (m : Message) : Action τ Unit := fun s =>
  match handle m s with
  | .ok () s => .ok () s
  | .error (.property e) s => warn [.handlingFailed m.topic e] s
  | .error e s => .error e s

/-- Waits for a message and handles it. Tells whether one came. -/
def poll : Action τ Bool := do
  match ← onTransport Transport.receive with
  | none => return false
  | some m =>
    handleOrWarn m
    return true

/-- Handles messages until `stopped` holds of the transport, at most `rounds` of them. -/
def pollUntil (stopped : τ → Bool) : (rounds : Nat) → Action τ Unit
  | 0 => return ()
  | rounds + 1 => do
    if stopped (← get).transport then return ()
    let _ ← poll
    pollUntil stopped rounds

/-- Starts and then handles messages until `stopped` holds of the transport, at most `rounds` of
them. -/
def run (stopped : τ → Bool) (rounds : Nat) : Action τ Unit := do
  start
  pollUntil stopped rounds

end Session
end DeviceTwin
