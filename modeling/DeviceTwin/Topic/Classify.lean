import DeviceTwin.Text.Start
import DeviceTwin.Topic

/-!
# Recognising incoming topics

Two families of topics carry properties: answers (`root/twin/res/status/?query`) and changes of
desired properties (`root/twin/PATCH/properties/desired/?query`). `classify` tells them from all
other topics and reads status, correlation id and version.
-/
namespace DeviceTwin.TopicScheme

def maxStatus : Nat := 65535
def maxVersion : Nat := 9223372036854775807

structure Query where
  correlationId : Option String
  version : Option Int
  deriving DecidableEq, Repr

/-- The key and the value of a piece of a query, parted at the first equals sign. -/
def keyValue (piece : List Char) : List Char × List Char :=
  (piece.takeWhile (· ≠ '='), (piece.dropWhile (· ≠ '=')).drop 1)

/-- Takes up one piece of the query of `topic`. Of a repeated key the last value counts; pieces with
other keys say nothing. -/
def Query.step (topic : String) (q : Query) (piece : List Char) : Except TopicFault Query :=
  let (key, value) := keyValue piece
  if key = idKey.toList then
    if value = [] then .error (.blankCorrelationId topic)
    else .ok { q with correlationId := some (String.ofList value) }
  else if key = versionKey.toList then
    match Integer.readInteger (maxVersion + 1) maxVersion value with
    | .ok version => .ok { q with version := some version }
    | .error _ => .error (.badVersion topic (String.ofList value))
  else .ok q

/-- The pieces of a query between ampersands, without the empty ones. -/
def pieces (query : List Char) : List (List Char) :=
  (query.splitOn '&').filter (· ≠ [])

def Query.read (topic : String) (query : List Char) : Except TopicFault Query :=
  (pieces query).foldlM (Query.step topic) ⟨none, none⟩

/-- What follows the optional `/` and the optional `?` behind a path. -/
def queryPart (rest : List Char) : List Char := dropStart ['?'] (dropStart ['/'] rest)

/-- Whether a character ends a level of the path. -/
def endsLevel (c : Char) : Bool := c = '/' || c = '?'

/-- Reads what follows `res/` in the topic of an answer: the status, then the query, in which the
correlation id may not be missing. -/
def readAnswer (topic : String) (rest : List Char) : Except TopicFault Response :=
  let level := rest.takeWhile fun c => !endsLevel c
  match Integer.readNatural maxStatus level with
  | .error _ => .error (.badStatus topic (String.ofList level))
  | .ok status =>
    match Query.read topic (queryPart (rest.dropWhile fun c => !endsLevel c)) with
    | .error fault => .error fault
    | .ok query =>
      match query.correlationId with
      | none => .error (.noCorrelationId topic)
      | some id =>
        .ok {
          kind := if status = Status.ok then .documentGet else .reportedAck
          correlationId := some id
          status := some status
          version := query.version }

def readPatch (topic : String) (rest : List Char) : Except TopicFault Response :=
  match Query.read topic (queryPart rest) with
  | .error fault => .error fault
  | .ok query =>
    .ok {
      kind := .desiredPatch
      correlationId := query.correlationId
      status := none
      version := query.version }

/-- What the topic says, or nothing where it is no property topic. -/
def classify (s : TopicScheme) (topic : String) : Except PropertyError (Option Response) :=
  match strip? (s.root.toList ++ "/twin/".toList) topic.toList with
  | none => .ok none
  | some rest =>
    match strip? "res/".toList rest with
    | some rest => ((readAnswer topic rest).map some).mapError .invalidTopic
    | none =>
      match strip? desiredPath.toList rest with
      | none => .ok none
      | some rest =>
        if rest.head?.all endsLevel then ((readPatch topic rest).map some).mapError .invalidTopic
        else .ok none

end DeviceTwin.TopicScheme
