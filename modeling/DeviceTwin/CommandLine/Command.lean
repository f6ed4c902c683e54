import DeviceTwin.CommandLine.Arguments
import DeviceTwin.Document
import DeviceTwin.Topic

/-!
# Commands

The commands of the command line and how they are read from arguments.
-/
namespace DeviceTwin

inductive Command where
  | classify (topic : String)
  | topic (request : Request) (id : String)
  | walk (file : String) (kind : ResponseKind) (filter : PropertyFilter) (components : List String)
  | version (file : String) (kind : ResponseKind)
  | acknowledge (component : Option String) (property : String) (code : Nat) (version : Int)
      (description : Option String) (value : String)
  deriving DecidableEq, Repr

namespace Command

def file? : Command → Option String
  | walk file _ _ _ => some file
  | version file _ => some file
  | _ => none

/-- The option that names the root of all topics, known to all commands. -/
def rootOption : String := "prefix"

/-- The options of a command besides the root, by its name. -/
def options? : (name : String) → Option (List (String × OptionForm))
  | "classify" => some []
  | "topic" => some []
  | "walk" => some [("kind", .value), ("reported", .switch), ("component", .value)]
  | "version" => some [("kind", .value)]
  | "ack" => some [("property", .value), ("code", .value), ("version", .value),
      ("component", .value), ("description", .value), ("value", .anyValue)]
  | _ => none

def request? : String → Option Request
  | "get" => some .documentGet
  | "patch" => some .reportedPatch
  | _ => none

def kind? : String → Option ResponseKind
  | "get" => some .documentGet
  | "patch" => some .desiredPatch
  | _ => none

/-- The one word of a command. -/
def word? (a : Arguments) : Option String :=
  match a.words with
  | [w] => some w
  | _ => none

def fileName? (a : Arguments) : Option String := (word? a).filter (· ≠ "")

/-- A number of 64 bits with a sign. -/
def integer? (text : String) : Option Int :=
  (Integer.readInteger 9223372036854775808 9223372036854775807 text.toList).toOption

def maxCode : Int := 65535

def code? (text : String) : Option Nat :=
  (integer? text).bind fun n => if 0 ≤ n ∧ n ≤ maxCode then some n.toNat else none

/-- Makes a command from its name and its arguments. -/
def make? (name : String) (a : Arguments) : Option Command :=
  match name with
  | "classify" => do return classify (← word? a)
  | "topic" =>
    match a.words with
    | [request, id] => do return topic (← request? request) id
    | _ => none
  | "walk" => do
    let filter ← match a.values "reported" with
      | [] => some .writeableOnly
      | [_] => some .allReportedByDevice
      | _ => none
    return walk (← fileName? a) (← kind? (← a.required? "kind")) filter (a.values "component")
  | "version" => do return version (← fileName? a) (← kind? (← a.required? "kind"))
  | "ack" => do
    guard (a.words = [])
    return acknowledge (← a.optional? "component") (← a.required? "property")
      (← code? (← a.required? "code")) (← integer? (← a.required? "version"))
      (← a.optional? "description") (← a.required? "value")
  | _ => none

/-- The form of an option among those of a command. -/
def form? (options : List (String × OptionForm)) (name : String) : Option OptionForm :=
  if name = rootOption then some .value else options.lookup name

/-- A command by its name and arguments, and the root that is given among them. -/
def read? (name : String) (arguments : List String) : Option (Command × Option String) :=
  (options? name).bind fun options =>
    (Arguments.read? (form? options) arguments).bind fun a =>
      (make? name a).bind fun command => (a.optional? rootOption).map (command, ·)

end Command

/-- What a whole command line asks for. -/
inductive Call where
  /-- The version of the program. -/
  | version
  | run (scheme : TopicScheme) (command : Command)
  deriving DecidableEq, Repr

def Call.file? : Call → Option String
  | version => none
  | run _ command => command.file?

/-- Reads a command line; `root` was given by an option further in front. A root given behind the name
of the command counts for more. -/
def Call.read? (root : Option String) : List String → Option Call
  | [] => none
  | arg :: rest =>
    match Argument.ofText arg with
    | .word name =>
      (Command.read? name rest).map fun (command, inner) =>
        run ⟨(inner <|> root).getD TopicScheme.standardRoot⟩ command
    | .long name (some v) =>
      if name = Command.rootOption ∧ root = none then read? (some v) rest else none
    | .long name none =>
      if name = "version" then some version
      else if name = Command.rootOption ∧ root = none then
        match rest with
        | [] => none
        | v :: rest => if OptionForm.value.admits v then read? (some v) rest else none
      else none
    | .short ('V' :: _) => some version
    | _ => none

end DeviceTwin
