import DeviceTwin.Acknowledgement.Frame
import DeviceTwin.Json.Fault
import DeviceTwin.Response

/-!
# Errors

The causes for which a call on a topic, a document or a payload fails, and their wording.
-/
namespace DeviceTwin

inductive TopicFault where
  | emptyCorrelationId
  | reservedCharacter (id : String)
  | badStatus (topic segment : String)
  | badVersion (topic value : String)
  | noCorrelationId (topic : String)
  | blankCorrelationId (topic : String)
  deriving DecidableEq, Repr

def TopicFault.message : TopicFault → String
  | emptyCorrelationId => "correlation id must not be empty"
  | reservedCharacter id => "correlation id `" ++ id ++ "` contains a reserved character"
  | badStatus topic segment => topic ++ ": status `" ++ segment ++ "`"
  | badVersion topic value => topic ++ ": version `" ++ value ++ "`"
  | noCorrelationId topic => topic ++ ": missing `$rid`"
  | blankCorrelationId topic => topic ++ ": empty `$rid`"

/-- A container of JSON. -/
inductive Scope where
  | object
  | array
  deriving DecidableEq, Repr

def Scope.text : Scope → String
  | object => "Object"
  | array => "Array"

/-- A call on a stream, cursor or writer that its state does not admit. -/
inductive StateFault where
  | noTokensLeft
  | nothingToSkip
  | nothingToRead
  | notAName
  | notAValue
  | notAtDocument
  | notInObject
  | notInDocument
  | unexpectedEnd (depth : Nat)
  | misplacedProperty (name : String) (depth expected : Nat)
  | notAMember
  | notOnToken
  | valueNotConsumed (name : String)
  | notAtYielded
  | nameMissing
  | cannotClose (scope : Scope)
  | nameOutsideObject
  deriving DecidableEq, Repr

def StateFault.message : StateFault → String
  | noTokensLeft => "no tokens left in document"
  | nothingToSkip => "no current token to skip"
  | nothingToRead => "no current token to read"
  | notAName => "expected a property name inside an object"
  | notAValue => "current token does not start a value"
  | notAtDocument => "stream must be positioned on the opening brace of the document"
  | notInObject => "unexpected token while scanning an object"
  | notInDocument => "expected a top-level property name or the end of the document"
  | unexpectedEnd depth => "unexpected end of object at depth " ++ Integer.ofNat depth
  | misplacedProperty name depth expected =>
    "property `" ++ name ++ "` at depth " ++ Integer.ofNat depth ++ ", expected depth "
      ++ Integer.ofNat expected
  | notAMember => "expected a property name or the end of an object"
  | notOnToken => "stream is not positioned on a token"
  | valueNotConsumed name =>
    "value of `" ++ name ++ "` was not fully consumed before requesting the next property"
  | notAtYielded => "stream is not positioned on the property just returned"
  | nameMissing => "object members need a property name before the value"
  | cannotClose scope => "cannot close " ++ scope.text ++ " at this position"
  | nameOutsideObject => "property names are only valid directly inside an object"

inductive DocumentFault where
  /-- It is no JSON text. -/
  | text (failure : Json.Failure)
  | sectionNotObject (name : String)
  | versionNotInteger
  deriving DecidableEq, Repr

def DocumentFault.message : DocumentFault → String
  | text failure => failure.message
  | sectionNotObject name => "`" ++ name ++ "` section is not an object"
  | versionNotInteger => "`$version` is not an integer"

/-- A framing call that the open frames do not admit. -/
inductive FramingFault where
  | notAllowed (call : Acknowledgement.Call) (frame : Acknowledgement.Frame)
  | valueIncomplete
  deriving DecidableEq, Repr

def FramingFault.message : FramingFault → String
  | notAllowed call frame => call.text ++ " is not allowed inside " ++ frame.text
  | valueIncomplete => "end_status before the status value was completely written"

/-- A choice of properties that no document offers, or a value that cannot be written. -/
inductive ArgumentFault where
  | noDocument (kind : ResponseKind)
  | noReportedProperties
  /-- The value has no encoding. -/
  | unencodable (reason : String)
  deriving DecidableEq, Repr

def ArgumentFault.message : ArgumentFault → String
  | noDocument kind => kind.text ++ " messages carry no property document"
  | noReportedProperties => "desired patches carry no reported properties"
  | unencodable reason => reason

/-- Why a call on a topic, a document or a payload fails. -/
inductive PropertyError where
  | invalidTopic (fault : TopicFault)
  /-- The output needs `required` bytes and `available` are left. -/
  | insufficientBuffer (required available : Nat)
  | invalidState (fault : StateFault)
  | malformedDocument (fault : DocumentFault)
  | versionNotFound
  | framing (fault : FramingFault)
  | invalidArgument (fault : ArgumentFault)
  deriving DecidableEq, Repr

def PropertyError.message : PropertyError → String
  | invalidTopic fault => "invalid topic: " ++ fault.message
  | insufficientBuffer required available =>
    "insufficient buffer: " ++ Integer.ofNat required ++ " bytes required, "
      ++ Integer.ofNat available ++ " available"
  | invalidState fault => "invalid JSON state: " ++ fault.message
  | malformedDocument fault => "malformed JSON document: " ++ fault.message
  | versionNotFound => "property version not found"
  | framing fault => "builder state error: " ++ fault.message
  | invalidArgument fault => "invalid argument: " ++ fault.message

end DeviceTwin
