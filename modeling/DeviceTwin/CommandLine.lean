import DeviceTwin.Acknowledgement.Single
import DeviceTwin.CommandLine.Command
import DeviceTwin.Document.Payload
import DeviceTwin.Topic.Classify

/-!
# The command line

Commands that inspect topics and documents and write acknowledgements. `respond` tells what a command
line prints or why it fails; files are seen through the function that reads them.
-/
namespace DeviceTwin

/-- Why a file cannot be read, in the words of the system and by its number. -/
structure FileFault where
  words : String
  number : Nat
  deriving DecidableEq, Repr

def FileFault.message (f : FileFault) : String :=
  f.words ++ " (os error " ++ Integer.ofNat f.number ++ ")"

def FileFault.missing : FileFault := ⟨"No such file or directory", 2⟩

def FileFault.directory : FileFault := ⟨"Is a directory", 21⟩

inductive CommandError where
  | property (error : PropertyError)
  | notPropertyTopic (topic : String)
  | badValue (failure : Json.Failure)
  | unreadable (file : String) (fault : FileFault)
  deriving DecidableEq, Repr

namespace CommandError

def message : CommandError → String
  | property error => error.message
  | notPropertyTopic topic => "Not a property topic: " ++ topic
  | badValue _ => "Invalid --value JSON"
  | unreadable file _ => "Failed to read " ++ file

/-- What lies behind an error. -/
def cause? : CommandError → Option String
  | property _ => none
  | notPropertyTopic _ => none
  | badValue failure => some failure.message
  | unreadable _ fault => some fault.message

/-- The error and its cause as they are printed. -/
def report (e : CommandError) : String :=
  "Error: " ++ e.message ++ "\n" ++
    match e.cause? with
    | none => ""
    | some cause => "\nCaused by:\n    " ++ cause ++ "\n"

end CommandError

inductive Outcome where
  | printed (text : String)
  | failed (error : CommandError)
  /-- The arguments make no command. -/
  | refused
  deriving DecidableEq, Repr

namespace CommandLine

abbrev Files := String → Except FileFault Bytes

def programVersion : String := "pnp-twin 0.1.0"

/-- What a topic says, as an object. -/
def summary (r : Response) : Json.Value := .object [
  ("kind", .string r.kind.text),
  ("rid", (r.correlationId.map .string).getD .null),
  ("status", (r.status.map fun n => .number (.integer n)).getD .null),
  ("version", (r.version.map fun n => .number (.integer n)).getD .null)]

def classify (scheme : TopicScheme) (topic : String) : Except CommandError String :=
  match scheme.classify topic with
  | .error e => .error (.property e)
  | .ok none => .error (.notPropertyTopic topic)
  | .ok (some r) => .ok (summary r).text

/-- A property and its value. -/
def line (p : Property) (v : Json.Value) : String :=
  let name := match p.component with
    | some component => component ++ "/" ++ p.name
    | none => p.name
  name ++ " = " ++ v.text

def readFile (files : Files) (file : String) : Except CommandError Bytes :=
  (files file).mapError (.unreadable file)

/-- The properties of the document in a file, one on each line. -/
def walk (files : Files) (file : String) (kind : ResponseKind) (filter : PropertyFilter)
    (components : List String) : Except CommandError String :=
  match readFile files file with
  | .error e => .error e
  | .ok payload =>
    match Document.payloadProperties kind filter (.ofList components) payload with
    | .error e => .error (.property e)
    | .ok properties => .ok ("\n".intercalate (properties.map fun (p, v) => line p v))

def version (files : Files) (file : String) (kind : ResponseKind) : Except CommandError String :=
  match readFile files file with
  | .error e => .error e
  | .ok payload =>
    match Document.payloadVersion kind payload with
    | .error e => .error (.property e)
    | .ok n => .ok (Integer.ofInt n)

/-- The payload that acknowledges a property, whose value is given as a JSON text. -/
def acknowledge (component : Option String) (property : String) (code : Nat) (version : Int)
    (description : Option String) (value : String) : Except CommandError String :=
  match Json.read (Utf8.ofText value) with
  | .error failure => .error (.badValue failure)
  | .ok v =>
    let single : Acknowledgement.Single := ⟨component, property, code, version, description, v⟩
    match single.payload with
    | .error e => .error (.property e)
    | .ok payload => .ok (String.ofList (Utf8.decode payload).1)

def run (files : Files) (scheme : TopicScheme) : Command → Except CommandError String
  | .classify topic => classify scheme topic
  | .topic request id => (scheme.topic request id).mapError .property
  | .walk file kind filter components => walk files file kind filter components
  | .version file kind => version files file kind
  | .acknowledge component property code v description value =>
    acknowledge component property code v description value

def respond (files : Files) (arguments : List String) : Outcome :=
  match Call.read? none arguments with
  | none => .refused
  | some .version => .printed (programVersion ++ "\n")
  | some (.run scheme command) =>
    match run files scheme command with
    | .ok text => .printed (text ++ "\n")
    | .error e => .failed e

end CommandLine
end DeviceTwin
