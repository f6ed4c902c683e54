import DeviceTwin.Document.Cursor
import DeviceTwin.Document.Version

/-!
# Documents in payloads

What a document says, from its bytes: its version and its properties.
-/
namespace DeviceTwin

namespace Document

/-- A stream on the first token of a document. -/
def payloadStream (payload : Bytes) : Except PropertyError TokenStream :=
  match TokenStream.ofBytes payload with
  | .error e => .error e
  | .ok s =>
    match TokenStream.advance s with
    | .error e _ => .error e
    | .ok () s => .ok s

def payloadVersion (kind : ResponseKind) (payload : Bytes) : Except PropertyError Int :=
  match payloadStream payload with
  | .error e => .error e
  | .ok s =>
    match Document.version kind s with
    | .error e _ => .error e
    | .ok version _ => .ok version

def payloadCursor (kind : ResponseKind) (filter : PropertyFilter) (registry : ComponentRegistry)
    (payload : Bytes) : Except PropertyError Cursor :=
  match payloadStream payload with
  | .error e => .error e
  | .ok s => Cursor.start s registry kind filter

end Document

/-- The properties in front of a cursor with their values, at most `fuel` of them. -/
def Cursor.readAll : (fuel : Nat) → Attempt Cursor (List (Property × Json.Value))
  | 0 => throw (.invalidState .noTokensLeft)
  | fuel + 1 => do
    match ← nextProperty with
    | none => return []
    | some p =>
      let v ← readValue
      let rest ← readAll fuel
      return (p, v) :: rest

/-- The properties of the document in a payload with their values. -/
def Document.payloadProperties (kind : ResponseKind) (filter : PropertyFilter)
    (registry : ComponentRegistry) (payload : Bytes) :
    Except PropertyError (List (Property × Json.Value)) :=
  match payloadCursor kind filter registry payload with
  | .error e => .error e
  | .ok c =>
    match Cursor.readAll (c.stream.ahead.length + 1) c with
    | .error e _ => .error e
    | .ok properties _ => .ok properties

end DeviceTwin
