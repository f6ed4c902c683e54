/-!
# Incoming property messages

The kinds of message that the service sends, and what a topic says about one.
-/
namespace DeviceTwin

inductive ResponseKind where
  /-- The answer to a request for the whole document. -/
  | documentGet
  /-- A change of desired properties. -/
  | desiredPatch
  /-- The answer to a patch of reported properties. -/
  | reportedAck
  deriving DecidableEq, Repr

namespace ResponseKind

/-- Whether messages of this kind carry a property document. -/
def hasDocument : ResponseKind → Bool
  | reportedAck => false
  | _ => true

def text : ResponseKind → String
  | documentGet => "document-get"
  | desiredPatch => "desired-patch"
  | reportedAck => "reported-ack"

end ResponseKind

namespace Status

/-- The request succeeded. -/
def ok : Nat := 200

/-- The statuses from 200 to 299. -/
def isSuccess (status : Nat) : Bool := 200 ≤ status && status < 300

end Status

/-- What the topic of a property message says. -/
structure Response where
  kind : ResponseKind
  /-- The correlation id of the request that is answered. -/
  correlationId : Option String
  status : Option Nat
  /-- The document version that the topic names. -/
  version : Option Int
  deriving DecidableEq, Repr

/-- No status counts as success. -/
def Response.isSuccess (r : Response) : Bool :=
  match r.status with
  | some status => Status.isSuccess status
  | none => true

end DeviceTwin
