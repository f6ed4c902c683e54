import DeviceTwin.Document
import DeviceTwin.Json.Form
import DeviceTwin.Topic.Classify
import DeviceTwin.Transport

/-!
# The JSON forms of the public types

Each type has a reader of its form and a value that it is written as. Constants are written as their
name, records as objects with the fields in their order.
-/
namespace DeviceTwin

open Json (Form Value)

def Json.Value.ofOption {α : Type} (f : α → Value) : Option α → Value
  | some a => f a
  | none => .null

def Json.Value.ofInt (n : Int) : Value := .number (.integer n)

namespace ComponentRegistry

/-- An array of texts. -/
def form : Form ComponentRegistry := Form.ofValue fun
  | .array items => (items.mapM Form.text).map ofList
  | _ => none

def toValue (r : ComponentRegistry) : Value := .array (r.names.map .string)

end ComponentRegistry

namespace PropertyFilter

def name : PropertyFilter → String
  | writeableOnly => "WriteableOnly"
  | allReportedByDevice => "AllReportedByDevice"

def ofName? (s : String) : Option PropertyFilter :=
  [writeableOnly, allReportedByDevice].find? fun f => f.name = s

def form : Form PropertyFilter := Form.constant ofName?

def toValue (f : PropertyFilter) : Value := .string f.name

end PropertyFilter

namespace ResponseKind

def name : ResponseKind → String
  | documentGet => "DocumentGet"
  | desiredPatch => "DesiredPatch"
  | reportedAck => "ReportedAck"

def ofName? (s : String) : Option ResponseKind :=
  [documentGet, desiredPatch, reportedAck].find? fun k => k.name = s

def form : Form ResponseKind := Form.constant ofName?

def toValue (k : ResponseKind) : Value := .string k.name

/-- The kind as the value of a field. -/
def ofValue? : Value → Option ResponseKind
  | .string s => ofName? s
  | .object [(n, .null)] => ofName? n
  | _ => none

end ResponseKind

namespace QoS

def name : QoS → String
  | atMostOnce => "AtMostOnce"
  | atLeastOnce => "AtLeastOnce"

def ofName? (s : String) : Option QoS := [atMostOnce, atLeastOnce].find? fun q => q.name = s

def form : Form QoS := Form.constant ofName?

def toValue (q : QoS) : Value := .string q.name

end QoS

namespace TopicScheme

def rootField : String := "prefix"

def form : Form TopicScheme :=
  Form.ofRecord [rootField] fun found => (Form.required Form.text rootField found).map (⟨·⟩)

def toValue (s : TopicScheme) : Value := .object [(rootField, .string s.root)]

end TopicScheme

def Status.ofValue? (v : Value) : Option Nat :=
  (Form.integer 0 TopicScheme.maxStatus v).map Int.toNat

def Document.versionOfValue? : Value → Option Int :=
  Form.integer Json.Number.minSigned Json.Number.maxSigned

namespace Response

def fieldNames : List String := ["kind", "correlation_id", "status", "version"]

def form : Form Response :=
  Form.ofRecord fieldNames fun found =>
    (Form.required ResponseKind.ofValue? "kind" found).bind fun kind =>
      (Form.optional Form.text "correlation_id" found).bind fun id =>
        (Form.optional Status.ofValue? "status" found).bind fun status =>
          (Form.optional Document.versionOfValue? "version" found).map fun version =>
            ⟨kind, id, status, version⟩

def toValue (r : Response) : Value := .object [
  ("kind", r.kind.toValue),
  ("correlation_id", .ofOption .string r.correlationId),
  ("status", .ofOption (fun n => .ofInt n) r.status),
  ("version", .ofOption .ofInt r.version)]

end Response

namespace Request

/-- The requests that are written as their name. -/
def ofName? : String → Option Request
  | "DocumentGet" => some .documentGet
  | "ReportedPatch" => some .reportedPatch
  | _ => none

/-- The status and the version of an answer. -/
def responseForm : Form Request :=
  Form.ofRecord ["status", "version"] fun found =>
    (Form.required Status.ofValue? "status" found).bind fun status =>
      (Form.optional Document.versionOfValue? "version" found).map (.response status)

def form : Form Request :=
  Form.variant ofName? fun n =>
    if n = "Response" then responseForm
    else Form.ofValue fun
      | .null => ofName? n
      | _ => none

def toValue : Request → Value
  | documentGet => .string "DocumentGet"
  | reportedPatch => .string "ReportedPatch"
  | response status version => .object [("Response", .object [
      ("status", .ofInt status), ("version", .ofOption .ofInt version)])]

end Request
end DeviceTwin
