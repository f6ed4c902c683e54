import DeviceTwin.Proofs.Json.Text
import DeviceTwin.Writer

/-!
# What a writer has written

A writer knows the open containers and two flags. An outline is the value that the pieces so far
describe: the containers that are open with the parts that they have, or the whole value. It says
which piece may come next by the grammar of JSON alone.

Results:
* `text_push`: a piece adds its own text, behind a comma where one is due.
* `Shows.appended`: a writer that shows an outline shows the next one behind a piece.
* `Shows.refusal?_eq_none`, `Shows.refusal?_ne_none`: it refuses what the grammar refuses, as long as
  the value is not whole.
-/
namespace DeviceTwin

open Json (Members Value comma itemsText membersText quoted)
open Utf8 (encode)

def Piece.beginsPart : Piece → Bool
  | closing _ => false
  | _ => true

/-- A place in an open container that a value is to fill, with what stands in front of it. -/
inductive Hole where
  | item (before : List Value)
  | member (before : Members) (name : String)

namespace Hole

def scope : Hole → Scope
  | item _ => .array
  | member _ _ => .object

/-- The text of the container up to the hole. -/
def text : Hole → List Char
  | item before => '[' :: itemsText before ++ comma (!before.isEmpty)
  | member before name =>
    '{' :: membersText false before ++ comma (!before.isEmpty) ++ quoted name ++ [':']

/-- The text up to the innermost hole, which comes first. -/
def textAll : List Hole → List Char
  | [] => []
  | hole :: outer => textAll outer ++ hole.text

end Hole

/-- A value that is being written. The holes that it is to fill are the innermost first. -/
inductive Outline where
  /-- Nothing is written yet. -/
  | blank
  /-- In an array with these items. -/
  | array (items : List Value) (outer : List Hole)
  /-- In an object with these members. -/
  | object (members : Members) (outer : List Hole)
  /-- In an object with these members, behind the name of the next one. -/
  | named (members : Members) (name : String) (outer : List Hole)
  /-- The value is complete. -/
  | whole (v : Value)

namespace Outline

def fill (v : Value) : List Hole → Outline
  | [] => whole v
  | .item before :: outer => array (before ++ [v]) outer
  | .member before name :: outer => object (before ++ [(name, v)]) outer

/-- The holes that a value would fill, where one may stand. -/
def holes? : Outline → Option (List Hole)
  | blank => some []
  | array items outer => some (.item items :: outer)
  | named members name outer => some (.member members name :: outer)
  | object _ _ | whole _ => none

def push (o : Outline) : Piece → Option Outline
  | .value v => o.holes?.map (fill v)
  | .opening .array => o.holes?.map (array [])
  | .opening .object => o.holes?.map (object [])
  | .name n =>
    match o with
    | object members outer => some (named members n outer)
    | _ => none
  | .closing .array =>
    match o with
    | array items outer => some (fill (.array items) outer)
    | _ => none
  | .closing .object =>
    match o with
    | object members outer => some (fill (.object members) outer)
    | _ => none

def pushAll (o : Outline) : List Piece → Option Outline
  | [] => some o
  | p :: ps => (o.push p).bind fun o => o.pushAll ps

def text : Outline → List Char
  | blank => []
  | array items outer => Hole.textAll outer ++ '[' :: itemsText items
  | object members outer => Hole.textAll outer ++ '{' :: membersText false members
  | named members name outer => Hole.textAll (.member members name :: outer)
  | whole v => v.render

def scopes : Outline → List Scope
  | blank | whole _ => []
  | array _ outer => .array :: outer.map Hole.scope
  | object _ outer | named _ _ outer => .object :: outer.map Hole.scope

def separatorDue : Outline → Bool
  | blank | named _ _ _ => false
  | array items _ => !items.isEmpty
  | object members _ => !members.isEmpty
  | whole _ => true

def valueDue : Outline → Bool
  | named _ _ _ => true
  | _ => false

def isWhole : Outline → Bool
  | whole _ => true
  | _ => false

def separator (o : Outline) : Piece → List Char
  | .closing _ => []
  | _ => comma (o.separatorDue && !o.valueDue)

theorem text_fill (v : Value) (holes : List Hole) :
    (fill v holes).text = Hole.textAll holes ++ v.render := by
  match holes with
  | [] => rfl
  | .item before :: outer =>
    simp [fill, text, Hole.textAll, Hole.text, Json.itemsText_concat]
  | .member before name :: outer =>
    simp [fill, text, Hole.textAll, Hole.text, Json.membersText_append, Json.memberText]

theorem scopes_fill (v : Value) (holes : List Hole) :
    (fill v holes).scopes = holes.map Hole.scope := by
  match holes with
  | [] | .item _ :: _ | .member _ _ :: _ => rfl

@[simp] theorem separatorDue_fill (v : Value) (holes : List Hole) :
    (fill v holes).separatorDue = true := by
  match holes with
  | [] => rfl
  | .item _ :: _ | .member _ _ :: _ => simp [fill, separatorDue]

@[simp] theorem valueDue_fill (v : Value) (holes : List Hole) :
    (fill v holes).valueDue = false := by
  match holes with
  | [] | .item _ :: _ | .member _ _ :: _ => rfl

/-- The text in front of a value, its comma included. -/
theorem textAll_of_holes? {o : Outline} {holes : List Hole} (h : o.holes? = some holes) :
    Hole.textAll holes = o.text ++ comma (o.separatorDue && !o.valueDue) := by
  cases o with
  | object | whole => cases h
  | blank | named => cases h; simp [text, separatorDue, valueDue, Hole.textAll]
  | array => cases h; simp [text, separatorDue, valueDue, Hole.textAll, Hole.text]

theorem scopes_of_holes? {o : Outline} {holes : List Hole} (h : o.holes? = some holes) :
    o.scopes = holes.map Hole.scope := by
  cases o with
  | object | whole => cases h
  | blank | named | array => cases h; rfl

theorem text_push {o o' : Outline} {p : Piece} (h : o.push p = some o') :
    o'.text = o.text ++ o.separator p ++ p.text := by
  cases p with
  | value v =>
    obtain ⟨holes, hh, rfl⟩ := Option.map_eq_some_iff.1 h
    rw [text_fill, textAll_of_holes? hh]
    rfl
  | opening scope =>
    cases scope with
    | array | object =>
      obtain ⟨holes, hh, rfl⟩ := Option.map_eq_some_iff.1 h
      simp [text, textAll_of_holes? hh, separator, Piece.text, itemsText, Value.renderItems]
  | name n =>
    cases o with
    | object members outer =>
      cases h
      simp [text, Hole.textAll, Hole.text, separator, separatorDue, valueDue, Piece.text]
    | blank | array | named | whole => cases h
  | closing scope =>
    cases scope with
    | array =>
      cases o with
      | array items outer =>
        cases h
        rw [text_fill, Json.render_array]
        simp [text, separator, Piece.text]
      | blank | object | named | whole => cases h
    | object =>
      cases o with
      | object members outer =>
        cases h
        rw [text_fill, Json.render_object]
        simp [text, separator, Piece.text]
      | blank | array | named | whole => cases h

end Outline

namespace Writer

/-- A writer that has written this outline. -/
structure Shows (w : Writer) (o : Outline) : Prop where
  written : w.written = encode o.text
  scopes : w.scopes = o.scopes
  separatorDue : w.separatorDue = o.separatorDue
  valueDue : w.valueDue = o.valueDue

/-- The bytes that a piece takes, with the comma in front of it. -/
def needed (w : Writer) (p : Piece) : Bytes := w.separator p ++ p.bytes

theorem needed_eq (w : Writer) (p : Piece) :
    w.needed p = encode (comma (p.beginsPart && (w.separatorDue && !w.valueDue)) ++ p.text) := by
  have hcomma : ∀ due, (if due then [Json.byte ','] else []) = encode (comma due) := by
    intro due
    cases due <;> rfl
  rw [needed, Piece.bytes, Utf8.encode_append]
  congr 1
  cases p with
  | closing => rfl
  | opening | name | value => exact hcomma _

/-- The writer behind a piece that is admitted and fits. -/
def appended (w : Writer) (p : Piece) : Writer where
  written := w.written ++ w.needed p
  spare := w.spare.drop (w.needed p).length
  scopes := w.scopesAfter p
  separatorDue := separatorDueAfter p
  valueDue := valueDueAfter p

/-- A piece is refused, or it is appended, or there is no room for it. -/
theorem append_eq (w : Writer) (p : Piece) :
    append p w = match w.refusal? p with
      | some fault => .error (.invalidState fault) w
      | none =>
        if (w.needed p).length ≤ w.remaining then .ok () (w.appended p)
        else .error (.insufficientBuffer (w.needed p).length w.remaining) w :=
  rfl

theorem eq_appended {w w' : Writer} {p : Piece} (h : append p w = .ok () w') :
    w' = w.appended p := by
  rw [append_eq] at h
  split at h
  · cases h
  · split at h
    · cases h
      rfl
    · cases h

namespace Shows

variable {w : Writer} {o o' : Outline} {p : Piece}

theorem needed_eq (h : w.Shows o) (p : Piece) :
    w.needed p = encode (o.separator p ++ p.text) := by
  rw [Writer.needed_eq, h.separatorDue, h.valueDue]
  cases p <;> rfl

/-- What the grammar admits is not refused. -/
theorem refusal?_eq_none (h : w.Shows o) (hp : o.push p = some o') : w.refusal? p = none := by
  have hvalue : ∀ holes, o.holes? = some holes → w.atName = false := by
    intro holes hh
    rw [atName, h.scopes, h.valueDue]
    cases o with
    | object | whole => cases hh
    | blank | array | named => simp [Outline.scopes, Outline.valueDue]
  cases p with
  | value v =>
    obtain ⟨holes, hh, -⟩ := Option.map_eq_some_iff.1 hp
    simp [refusal?, hvalue holes hh]
  | opening scope =>
    have hholes : ∃ holes, o.holes? = some holes := by
      cases scope with
      | array | object =>
        obtain ⟨holes, hh, -⟩ := Option.map_eq_some_iff.1 hp
        exact ⟨holes, hh⟩
    obtain ⟨holes, hh⟩ := hholes
    simp [refusal?, hvalue holes hh]
  | name n =>
    cases o with
    | object => simp [refusal?, atName, h.scopes, h.valueDue, Outline.scopes, Outline.valueDue]
    | blank | array | named | whole => cases hp
  | closing scope =>
    cases scope with
    | array =>
      cases o with
      | array => simp [refusal?, h.scopes, h.valueDue, Outline.scopes, Outline.valueDue]
      | blank | object | named | whole => cases hp
    | object =>
      cases o with
      | object => simp [refusal?, h.scopes, h.valueDue, Outline.scopes, Outline.valueDue]
      | blank | array | named | whole => cases hp

/-- What the grammar does not admit is refused. Behind a whole value this fails: there the writer
takes another one. -/
theorem refusal?_ne_none (h : w.Shows o) (hwhole : o.isWhole = false) (hp : o.push p = none) :
    w.refusal? p ≠ none := by
  cases p with
  | value v =>
    cases o with
    | object =>
      simp [refusal?, atName, h.scopes, h.valueDue, Outline.scopes, Outline.valueDue]
    | whole => cases hwhole
    | blank | array | named => cases hp
  | opening scope =>
    cases o with
    | object =>
      simp [refusal?, atName, h.scopes, h.valueDue, Outline.scopes, Outline.valueDue]
    | whole => cases hwhole
    | blank | array | named => cases scope <;> cases hp
  | name n =>
    cases o with
    | object => cases hp
    | whole => cases hwhole
    | blank | array | named =>
      simp [refusal?, atName, h.scopes, h.valueDue, Outline.scopes, Outline.valueDue]
  | closing scope =>
    cases o with
    | whole => cases hwhole
    | blank | named =>
      simp [refusal?, h.scopes, h.valueDue, Outline.scopes, Outline.valueDue]
    | array =>
      cases scope with
      | array => cases hp
      | object => simp [refusal?, h.scopes, h.valueDue, Outline.scopes, Outline.valueDue]
    | object =>
      cases scope with
      | object => cases hp
      | array => simp [refusal?, h.scopes, h.valueDue, Outline.scopes, Outline.valueDue]

theorem appended (h : w.Shows o) (hp : o.push p = some o') : (w.appended p).Shows o' := by
  have hwritten : (w.appended p).written = encode o'.text := by
    show w.written ++ w.needed p = _
    rw [h.written, h.needed_eq, Outline.text_push hp]
    simp
  cases p with
  | value v =>
    obtain ⟨holes, hh, rfl⟩ := Option.map_eq_some_iff.1 hp
    have hscopes := (h.scopes.trans (Outline.scopes_of_holes? hh)).trans
      (Outline.scopes_fill v holes).symm
    exact ⟨hwritten, hscopes, (Outline.separatorDue_fill v holes).symm,
      (Outline.valueDue_fill v holes).symm⟩
  | opening scope =>
    cases scope with
    | array | object =>
      obtain ⟨holes, hh, rfl⟩ := Option.map_eq_some_iff.1 hp
      have hscopes := h.scopes.trans (Outline.scopes_of_holes? hh)
      exact ⟨hwritten, congrArg (_ :: ·) hscopes, rfl, rfl⟩
  | name n =>
    cases o with
    | object =>
      cases hp
      exact ⟨hwritten, h.scopes, rfl, rfl⟩
    | blank | array | named | whole => cases hp
  | closing scope =>
    have hfill : ∀ v outer, o' = Outline.fill v outer → w.scopes.tail = outer.map Hole.scope →
        (w.appended (.closing scope)).Shows o' := by
      rintro v outer rfl hscopes
      exact ⟨hwritten, hscopes.trans (Outline.scopes_fill v outer).symm,
        (Outline.separatorDue_fill v outer).symm, (Outline.valueDue_fill v outer).symm⟩
    cases scope with
    | array =>
      cases o with
      | array items outer =>
        cases hp
        exact hfill _ outer rfl (congrArg List.tail h.scopes)
      | blank | object | named | whole => cases hp
    | object =>
      cases o with
      | object members outer =>
        cases hp
        exact hfill _ outer rfl (congrArg List.tail h.scopes)
      | blank | array | named | whole => cases hp

end Shows
end Writer
end DeviceTwin
