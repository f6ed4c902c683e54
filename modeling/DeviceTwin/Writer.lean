import DeviceTwin.Json.Printer
import DeviceTwin.TokenStream

/-!
# Writing JSON text into a bounded region

A writer appends pieces of a JSON text to a region of fixed size and puts commas between siblings. A
piece that is not admitted or does not fit changes nothing. A checkpoint can be returned to while the
containers that were open at it still are.

Results:
* `capacity_append`: no call changes the size of the region.
* `append_error`: a call that fails leaves the writer as it was.
-/
namespace DeviceTwin

/-- What is appended in one step. -/
inductive Piece where
  /-- The opening of a container. -/
  | opening (scope : Scope)
  /-- The end of a container. -/
  | closing (scope : Scope)
  /-- The name of a member. -/
  | name (n : String)
  /-- A whole value. -/
  | value (v : Json.Value)
  deriving DecidableEq, Repr

def Piece.text : Piece → List Char
  | opening .object => ['{']
  | opening .array => ['[']
  | closing .object => ['}']
  | closing .array => [']']
  | name n => Json.quoted n ++ [':']
  | value v => v.render

def Piece.bytes (p : Piece) : Bytes := Utf8.encode p.text

/-- A place in a text that a writer can return to. -/
structure Checkpoint where
  /-- The number of bytes written. -/
  length : Nat
  /-- The number of open containers. -/
  depth : Nat
  separatorDue : Bool
  valueDue : Bool
  deriving DecidableEq, Repr

/-- A text in a region of fixed size. -/
structure Writer where
  written : Bytes
  /-- The bytes of the region behind the text. -/
  spare : Bytes
  /-- The open containers, the innermost first. -/
  scopes : List Scope
  /-- Whether a comma comes before the next sibling. -/
  separatorDue : Bool
  /-- Whether a name waits for its value. -/
  valueDue : Bool
  deriving DecidableEq, Repr

namespace Writer

def ofRegion (region : Bytes) : Writer := ⟨[], region, [], false, false⟩

def depth (w : Writer) : Nat := w.scopes.length

def remaining (w : Writer) : Nat := w.spare.length

def capacity (w : Writer) : Nat := w.written.length + w.spare.length

/-- Whether the innermost container is an object and no name waits for its value. -/
def atName (w : Writer) : Bool := w.scopes.head? = some .object && !w.valueDue

/-- Why a piece may not stand here, if it may not. -/
def refusal? (w : Writer) : Piece → Option StateFault
  | .opening _ | .value _ => if w.atName then some .nameMissing else none
  | .name _ => if w.atName then none else some .nameOutsideObject
  | .closing scope =>
    if w.scopes.head? = some scope ∧ !w.valueDue then none else some (.cannotClose scope)

/-- The comma that comes before a piece, if one is due. -/
def separator (w : Writer) : Piece → Bytes
  | .closing _ => []
  | _ => if w.separatorDue && !w.valueDue then [Json.byte ','] else []

def scopesAfter (w : Writer) : Piece → List Scope
  | .opening scope => scope :: w.scopes
  | .closing _ => w.scopes.tail
  | _ => w.scopes

def separatorDueAfter : Piece → Bool
  | .opening _ | .name _ => false
  | .closing _ | .value _ => true

def valueDueAfter : Piece → Bool
  | .name _ => true
  | _ => false

def append (p : Piece) : Attempt Writer Unit := fun w =>
  match w.refusal? p with
  | some fault => .error (.invalidState fault) w
  | none =>
    let bytes := w.separator p ++ p.bytes
    if bytes.length ≤ w.remaining then
      .ok () {
        written := w.written ++ bytes
        spare := w.spare.drop bytes.length
        scopes := w.scopesAfter p
        separatorDue := separatorDueAfter p
        valueDue := valueDueAfter p }
    else .error (.insufficientBuffer bytes.length w.remaining) w

/-- What a call gives to a writer: a piece, or a value of which only is known why it has no
encoding. -/
abbrev Given := Except String Piece

/-- Appends what a call gives. A value without an encoding is refused wherever it would stand. -/
def give : Given → Attempt Writer Unit
  | .ok p => append p
  | .error reason => throw (.invalidArgument (.unencodable reason))

/-- The place behind all that is written. -/
def checkpoint (w : Writer) : Checkpoint :=
  ⟨w.written.length, w.depth, w.separatorDue, w.valueDue⟩

/-- Returns to a checkpoint. What was written behind it stays in the region as spare bytes. -/
def rollback (w : Writer) (c : Checkpoint) : Writer where
  written := w.written.take c.length
  spare := w.written.drop c.length ++ w.spare
  scopes := w.scopes.drop (w.scopes.length - c.depth)
  separatorDue := c.separatorDue
  valueDue := c.valueDue

/-- A call that fails leaves the writer as it was. -/
theorem append_error {p : Piece} {w w' : Writer} {e : PropertyError}
    (h : append p w = .error e w') : w' = w := by
  unfold append at h
  split at h
  · cases h; rfl
  · dsimp only at h
    split at h
    · cases h
    · cases h; rfl

theorem capacity_append {p : Piece} {w w' : Writer} (h : append p w = .ok () w') :
    w'.capacity = w.capacity := by
  unfold append at h
  split at h
  · cases h
  · dsimp only at h
    split at h
    · next fits =>
      cases h
      simp only [capacity, remaining, List.length_append, List.length_drop] at *
      omega
    · cases h

end Writer
end DeviceTwin
