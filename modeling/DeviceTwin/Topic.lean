import DeviceTwin.Error
import DeviceTwin.Text.Utf8

/-!
# Topics of outgoing messages

A scheme puts all topics of the twin below one root: `root/twin/operation/?query`. The query names
the correlation id as `$rid` and, where there is one, the document version as `$version`.
-/
namespace DeviceTwin

/-- What is sent, and what the service answers. -/
inductive Request where
  /-- Asks for the whole document. -/
  | documentGet
  /-- Sends reported properties. -/
  | reportedPatch
  /-- The answer of the service, with the document version where it confirms a patch. -/
  | response (status : Nat) (version : Option Int)
  deriving DecidableEq, Repr

/-- The root below which all topics lie. -/
structure TopicScheme where
  root : String
  deriving DecidableEq, Repr

namespace TopicScheme

def standardRoot : String := "$iothub"

def idKey : String := "$rid"
def versionKey : String := "$version"

/-- The path of changes of desired properties. -/
def desiredPath : String := "PATCH/properties/desired"

def base (s : TopicScheme) : String := s.root ++ "/twin"

/-- The filter for answers of either kind. -/
def responseFilter (s : TopicScheme) : String := s.base ++ "/res/#"

def desiredPatchFilter (s : TopicScheme) : String := s.base ++ "/" ++ desiredPath ++ "/#"

/-- The characters that would end a correlation id within a topic. -/
def isReserved (c : Char) : Bool := c ∈ ['&', '/', '#', '+', '?', '=']

/-- A correlation id has at least one character and none that is reserved. -/
def checkId (id : String) : Except TopicFault Unit :=
  if id.toList = [] then .error .emptyCorrelationId
  else if id.toList.any isReserved then .error (.reservedCharacter id)
  else .ok ()

/-- The operation and the query of a request. -/
def operation (id : String) : Request → String
  | .documentGet => "/GET/?" ++ idKey ++ "=" ++ id
  | .reportedPatch => "/PATCH/properties/reported/?" ++ idKey ++ "=" ++ id
  | .response status none => "/res/" ++ Integer.ofNat status ++ "/?" ++ idKey ++ "=" ++ id
  | .response status (some version) =>
    "/res/" ++ Integer.ofNat status ++ "/?" ++ idKey ++ "=" ++ id ++ "&" ++ versionKey ++ "="
      ++ Integer.ofInt version

/-- The topic of a request with the given correlation id. -/
def topic (s : TopicScheme) (request : Request) (id : String) : Except PropertyError String :=
  match checkId id with
  | .error fault => .error (.invalidTopic fault)
  | .ok () => .ok (s.base ++ operation id request)

def requiredLength (s : TopicScheme) (request : Request) (id : String) : Except PropertyError Nat :=
  (s.topic request id).map fun topic => (Utf8.ofText topic).length

/-- The topic of a request, where it has at most `capacity` bytes. -/
def topicWithin (s : TopicScheme) (capacity : Nat) (request : Request) (id : String) :
    Except PropertyError String :=
  match s.topic request id with
  | .error e => .error e
  | .ok topic =>
    let length := (Utf8.ofText topic).length
    if length ≤ capacity then .ok topic else .error (.insufficientBuffer length capacity)

/-- Writes the topic at the start of a region and tells its length. A topic that does not fit leaves
the region as it was. -/
def writeTopic (s : TopicScheme) (request : Request) (id : String) (region : Bytes) :
    Except PropertyError Nat × Bytes :=
  match s.topicWithin region.length request id with
  | .error e => (.error e, region)
  | .ok topic =>
    let bytes := Utf8.ofText topic
    (.ok bytes.length, bytes ++ region.drop bytes.length)

end DeviceTwin.TopicScheme
