import DeviceTwin.Proofs.Writer.Outline

/-!
# Calls on a writer

Pieces are given to a writer one after the other, and it takes or refuses each of them. What it took
says by itself what the region holds: which containers are open, whether a name waits for its value,
and where the commas stand. A comma stands between two pieces if a part of a container ends with the
first one and the next part begins with the second.

Results:
* `append_ok_iff`: a call succeeds if its piece is admitted and fits.
* `append_full_iff`: what a call reports that finds too little room.
* `Trial.after_cases`: a call appends its piece or leaves everything as it was.
* `Trial.afterAll_of_after`: what every appended piece keeps holds behind all calls.
* `Records.refusal?_eq_none_iff`, `Records.needed_eq`: which pieces are admitted and what they take is
  known from the pieces in front of them.
* `records_afterAll`: behind any calls a writer holds the text of the pieces that it took.
-/
namespace DeviceTwin

open Json (comma)
open Utf8 (encode)

namespace Piece

/-- Whether an item or a member ends with the piece. -/
def endsPart : Piece → Bool
  | closing _ | value _ => true
  | _ => false

def beginsValue : Piece → Bool
  | opening _ | value _ => true
  | _ => false

def isName : Piece → Bool
  | name _ => true
  | _ => false

/-- The containers that are open behind the piece, the innermost first. -/
def scopesBehind (scopes : List Scope) : Piece → List Scope
  | opening scope => scope :: scopes
  | closing _ => scopes.tail
  | _ => scopes

end Piece

/-! ## Pieces in a row -/

namespace Pieces

def openScopes (ps : List Piece) : List Scope := ps.foldl Piece.scopesBehind []

/-- Whether the last piece is a name, which waits for its value. -/
def nameWaits (ps : List Piece) : Bool := ps.getLast?.any Piece.isName

/-- Whether the pieces stand directly within an object, with no name that waits for its value. -/
def InObject (ps : List Piece) : Prop := (openScopes ps).head? = some .object ∧ nameWaits ps = false

/-- Whether the grammar of JSON allows a piece behind others: a name directly within an object, a
value or an opening everywhere else, and the end of the innermost container where no name waits. -/
def Allows (ps : List Piece) : Piece → Prop
  | .name _ => InObject ps
  | .opening _ | .value _ => ¬InObject ps
  | .closing scope => (openScopes ps).head? = some scope ∧ nameWaits ps = false

def commaDue (ps : List Piece) (p : Piece) : Bool := ps.getLast?.any Piece.endsPart && p.beginsPart

/-- The text of pieces behind another one. -/
def textBehind : (before? : Option Piece) → List Piece → List Char
  | _, [] => []
  | before?, p :: ps =>
    comma (before?.any Piece.endsPart && p.beginsPart) ++ p.text ++ textBehind (some p) ps

/-- The text of pieces, with commas between the parts of containers. -/
def text (ps : List Piece) : List Char := textBehind none ps

/-- Whether the pieces end with a value that stands in no container. -/
def isComplete (ps : List Piece) : Bool := !ps.isEmpty && (openScopes ps).isEmpty

variable (ps : List Piece) (p : Piece)

theorem openScopes_concat : openScopes (ps ++ [p]) = p.scopesBehind (openScopes ps) := by
  rw [openScopes, List.foldl_append]
  rfl

theorem textBehind_concat (before? : Option Piece) : textBehind before? (ps ++ [p])
    = textBehind before? ps
      ++ comma ((ps.getLast?.or before?).any Piece.endsPart && p.beginsPart) ++ p.text := by
  induction ps generalizing before? with
  | nil => simp [textBehind]
  | cons q qs ih =>
    rw [List.cons_append, textBehind, ih, textBehind, List.getLast?_cons]
    cases qs.getLast? with
    | none | some _ => simp

theorem text_concat : text (ps ++ [p]) = text ps ++ comma (commaDue ps p) ++ p.text := by
  rw [text, textBehind_concat, Option.or_none]
  rfl

end Pieces

/-! ## Runs -/

namespace Writer

theorem atName_iff (w : Writer) :
    w.atName = true ↔ w.scopes.head? = some .object ∧ w.valueDue = false := by
  unfold atName
  rw [Bool.and_eq_true, decide_eq_true_iff, Bool.not_eq_true']

theorem append_ok_iff (w : Writer) (p : Piece) :
    (∃ w', append p w = .ok () w') ↔ w.refusal? p = none ∧ (w.needed p).length ≤ w.remaining := by
  rw [append_eq]
  cases w.refusal? p with
  | some fault => simp
  | none =>
    by_cases hfits : (w.needed p).length ≤ w.remaining
    · simp [hfits]
    · simp [hfits]

/-- A piece that is admitted and does not fit reports the bytes that it takes with its comma, and the
ones that are left. -/
theorem append_full_iff (w : Writer) (p : Piece) (required available : Nat) :
    (∃ w', append p w = .error (.insufficientBuffer required available) w') ↔
      w.refusal? p = none ∧ required = (w.needed p).length ∧ available = w.remaining ∧
        available < required := by
  rw [append_eq]
  cases w.refusal? p with
  | some fault => simp
  | none =>
    dsimp only
    by_cases hfits : (w.needed p).length ≤ w.remaining
    · rw [if_pos hfits]
      constructor
      · rintro ⟨w', h⟩
        cases h
      · rintro ⟨-, rfl, rfl, hless⟩
        omega
    · rw [if_neg hfits]
      constructor
      · rintro ⟨w', h⟩
        cases h
        exact ⟨rfl, rfl, rfl, by omega⟩
      · rintro ⟨-, rfl, rfl, -⟩
        exact ⟨w, rfl⟩

/-- A writer, and the pieces that it took. -/
structure Trial where
  writer : Writer
  accepted : List Piece
  deriving DecidableEq

namespace Trial

def of (region : Bytes) : Trial := ⟨ofRegion region, []⟩

/-- What a call leaves behind, whether it succeeds or fails. -/
def after (t : Trial) (p : Piece) : Trial :=
  match append p t.writer with
  | .ok () w => ⟨w, t.accepted ++ [p]⟩
  | .error _ w => ⟨w, t.accepted⟩

def afterAll (t : Trial) : List Piece → Trial
  | [] => t
  | p :: ps => (t.after p).afterAll ps

theorem after_cases (t : Trial) (p : Piece) :
    (t.writer.refusal? p = none ∧ (t.writer.needed p).length ≤ t.writer.remaining ∧
      t.after p = ⟨t.writer.appended p, t.accepted ++ [p]⟩) ∨ t.after p = t := by
  rw [after, append_eq]
  cases hrefusal : t.writer.refusal? p with
  | some fault => exact .inr rfl
  | none =>
    by_cases hfits : (t.writer.needed p).length ≤ t.writer.remaining
    · exact .inl ⟨rfl, hfits, by simp only [if_pos hfits]⟩
    · exact .inr (by simp only [if_neg hfits])

/-- What every appended piece keeps holds behind all calls. -/
theorem afterAll_of_after {motive : Trial → Prop}
    (step : ∀ (t : Trial) (p : Piece), motive t → t.writer.refusal? p = none →
      (t.writer.needed p).length ≤ t.writer.remaining →
      motive ⟨t.writer.appended p, t.accepted ++ [p]⟩)
    {t : Trial} (h : motive t) (ps : List Piece) : motive (t.afterAll ps) := by
  induction ps generalizing t with
  | nil => exact h
  | cons p ps ih =>
    rcases t.after_cases p with ⟨hrefusal, hfits, heq⟩ | heq
    · exact ih (heq ▸ step t p h hrefusal hfits)
    · exact ih (heq.symm ▸ h)

theorem capacity_afterAll (t : Trial) (ps : List Piece) :
    (t.afterAll ps).writer.capacity = t.writer.capacity := by
  refine afterAll_of_after (motive := fun t' => t'.writer.capacity = t.writer.capacity) ?_ rfl ps
  intro t' p h hrefusal hfits
  refine (capacity_append (p := p) (w := t'.writer) ?_).trans h
  rw [append_eq, hrefusal]
  exact if_pos hfits

end Trial

/-! ## What a writer took and what it holds -/

/-- The writer holds the text of these pieces and knows how they end. -/
structure Records (w : Writer) (ps : List Piece) : Prop where
  written : w.written = encode (Pieces.text ps)
  scopes : w.scopes = Pieces.openScopes ps
  separatorDue : w.separatorDue = ps.getLast?.any Piece.endsPart
  valueDue : w.valueDue = Pieces.nameWaits ps

namespace Records

variable {w : Writer} {ps : List Piece} (h : w.Records ps) (p : Piece)
include h

theorem inObject_iff : Pieces.InObject ps ↔ w.atName = true := by
  simp [Pieces.InObject, atName, h.scopes, h.valueDue]

/-- A piece is admitted where the grammar allows it. -/
theorem refusal?_eq_none_iff : w.refusal? p = none ↔ Pieces.Allows ps p := by
  cases p with
  | opening scope | value v => simp [refusal?, Pieces.Allows, h.inObject_iff]
  | name n => simp [refusal?, Pieces.Allows, h.inObject_iff]
  | closing scope => simp [refusal?, Pieces.Allows, h.scopes, h.valueDue]

/-- A piece takes its own text and the comma that stands in front of it. -/
theorem needed_eq : w.needed p = encode (comma (Pieces.commaDue ps p) ++ p.text) := by
  -- Behind a name no comma is due, so that the writer need not ask whether a value is.
  have hdue : (w.separatorDue && !w.valueDue) = ps.getLast?.any Piece.endsPart := by
    rw [h.separatorDue, h.valueDue, Pieces.nameWaits]
    cases ps.getLast? with
    | none => rfl
    | some q => cases q <;> rfl
  rw [Writer.needed_eq, hdue, Pieces.commaDue, Bool.and_comm]

theorem appended : (w.appended p).Records (ps ++ [p]) where
  written := by
    show w.written ++ w.needed p = _
    rw [h.written, h.needed_eq, Pieces.text_concat, List.append_assoc, ← Utf8.encode_append]
  scopes := by
    rw [Pieces.openScopes_concat, ← h.scopes]
    cases p <;> rfl
  separatorDue := by
    rw [List.getLast?_concat]
    cases p <;> rfl
  valueDue := by
    rw [Pieces.nameWaits, List.getLast?_concat]
    cases p <;> rfl

end Records

/-- Behind any calls a writer holds the text of the pieces that it took. -/
theorem records_afterAll (region : Bytes) (ps : List Piece) :
    ((Trial.of region).afterAll ps).writer.Records ((Trial.of region).afterAll ps).accepted :=
  Trial.afterAll_of_after (motive := fun t => t.writer.Records t.accepted)
    (fun _ p h _ _ => h.appended p) ⟨rfl, rfl, rfl, rfl⟩ ps

end Writer
end DeviceTwin
