import DeviceTwin.Acknowledgement
import DeviceTwin.Proofs.Attempt
import DeviceTwin.Proofs.Writer.Page

/-!
# Pieces in a row on a writer

Pieces that are given to a writer at once take the bytes of each of them and the commas in front.
Which pieces are admitted and what they take follows from the open containers and the two flags. The
room decides only how far the writer gets.

Results:
* `appendAll_ok_iff`: all pieces are appended if each is admitted and all of them fit.
* `appendAll_full`: where the room ends the piece that does not fit is reported, and no other.
* `neededAll_eq_nil_iff`: every piece takes room.
* `Roomier.appendedAll`: more room changes nothing of what is written.
* `Holds.appendedAll`, `Holds.pushAll`: what is described behind pieces in a row.
-/
namespace DeviceTwin

open Acknowledgement (appendAll)

namespace Writer

/-- The writer behind pieces that are admitted and fit, one after the other. -/
def appendedAll (w : Writer) (ps : List Piece) : Writer := ps.foldl appended w

def neededAll (w : Writer) : List Piece → Bytes
  | [] => []
  | p :: ps => w.needed p ++ (w.appended p).neededAll ps

/-- Whether no piece is refused, one after the other. -/
def Admits (w : Writer) : List Piece → Prop
  | [] => True
  | p :: ps => w.refusal? p = none ∧ (w.appended p).Admits ps

section Rows

variable (w : Writer) (p : Piece) (ps qs : List Piece)

@[simp] theorem appendedAll_nil : w.appendedAll [] = w := rfl

@[simp] theorem appendedAll_cons : w.appendedAll (p :: ps) = (w.appended p).appendedAll ps := rfl

@[simp] theorem neededAll_nil : w.neededAll [] = [] := rfl

@[simp] theorem neededAll_cons :
    w.neededAll (p :: ps) = w.needed p ++ (w.appended p).neededAll ps := rfl

@[simp] theorem neededAll_append :
    w.neededAll (ps ++ qs) = w.neededAll ps ++ (w.appendedAll ps).neededAll qs := by
  induction ps generalizing w with
  | nil => rfl
  | cons p ps ih => simp [ih]

@[simp] theorem admits_nil : w.Admits [] := trivial

@[simp] theorem admits_cons :
    w.Admits (p :: ps) ↔ w.refusal? p = none ∧ (w.appended p).Admits ps := Iff.rfl

/-! Where a name may stand next. -/

@[simp] theorem atName_name (n : String) : (w.appended (.name n)).atName = false := by
  simp [atName, appended, valueDueAfter]

@[simp] theorem atName_value (v : Json.Value) :
    (w.appended (.value v)).atName = true ↔ w.scopes.head? = some .object :=
  (atName_iff _).trans (and_iff_left rfl)

@[simp] theorem atName_opening : (w.appended (.opening .object)).atName = true :=
  (atName_iff _).2 ⟨rfl, rfl⟩

@[simp] theorem scopes_name (n : String) : (w.appended (.name n)).scopes = w.scopes := rfl

@[simp] theorem scopes_value (v : Json.Value) : (w.appended (.value v)).scopes = w.scopes := rfl

@[simp] theorem scopes_opening (scope : Scope) :
    (w.appended (.opening scope)).scopes = scope :: w.scopes := rfl

theorem remaining_appended : (w.appended p).remaining = w.remaining - (w.needed p).length := by
  simp [appended, remaining]

theorem written_appendedAll : (w.appendedAll ps).written = w.written ++ w.neededAll ps := by
  induction ps generalizing w with
  | nil => simp
  | cons p ps ih => simp [ih, appended]

theorem needed_ne_nil : w.needed p ≠ [] := by
  have htext : p.text ≠ [] := by
    cases p with
    | opening scope | closing scope => cases scope <;> simp [Piece.text]
    | name n => simp [Piece.text]
    | value v => exact Json.Value.render_ne_nil v
  rw [needed_eq, ne_eq, Utf8.encode_eq_nil_iff, List.append_eq_nil_iff, not_and]
  exact fun _ => htext

theorem neededAll_eq_nil_iff : w.neededAll ps = [] ↔ ps = [] := by
  cases ps with
  | nil => simp
  | cons p ps => simp [w.needed_ne_nil p]

end Rows

theorem append_eq_ok_iff {w w' : Writer} {p : Piece} :
    append p w = .ok () w' ↔
      w.refusal? p = none ∧ (w.needed p).length ≤ w.remaining ∧ w' = w.appended p := by
  constructor
  · intro h
    obtain ⟨hnone, hfits⟩ := (w.append_ok_iff p).1 ⟨w', h⟩
    exact ⟨hnone, hfits, eq_appended h⟩
  · rintro ⟨hnone, hfits, rfl⟩
    rw [append_eq, hnone]
    exact if_pos hfits

/-- All pieces are appended if each is admitted and all of them fit. -/
theorem appendAll_ok_iff {w w' : Writer} {ps : List Piece} :
    appendAll ps w = .ok () w' ↔
      w.Admits ps ∧ (w.neededAll ps).length ≤ w.remaining ∧ w' = w.appendedAll ps := by
  induction ps generalizing w with
  | nil =>
    constructor
    · intro h
      cases h
      simp
    · rintro ⟨-, -, rfl⟩
      rfl
  | cons p ps ih =>
    rw [appendAll, admits_cons, neededAll_cons, List.length_append, appendedAll_cons]
    constructor
    · intro h
      cases hp : append p w with
      | error e w₁ =>
        rw [Attempt.bind_error hp] at h
        cases h
      | ok _ w₁ =>
        rw [Attempt.bind_ok hp] at h
        obtain ⟨hnone, hfits, rfl⟩ := append_eq_ok_iff.1 hp
        obtain ⟨hrest, hroom, rfl⟩ := ih.1 h
        rw [remaining_appended] at hroom
        exact ⟨⟨hnone, hrest⟩, by omega, rfl⟩
    · rintro ⟨⟨hnone, hrest⟩, hroom, rfl⟩
      have hp : append p w = .ok () (w.appended p) :=
        append_eq_ok_iff.2 ⟨hnone, by omega, rfl⟩
      rw [Attempt.bind_ok hp]
      refine ih.2 ⟨hrest, ?_, rfl⟩
      rw [remaining_appended]
      omega

/-- Where the room ends the piece that does not fit is reported: what it takes itself, and what is
left behind the pieces in front of it. -/
theorem appendAll_full {w w' : Writer} {ps : List Piece} {required available : Nat}
    (h : appendAll ps w = .error (.insufficientBuffer required available) w') :
    ∃ before p behind, ps = before ++ p :: behind ∧ w.Admits (before ++ [p]) ∧
      required = ((w.appendedAll before).needed p).length ∧
      available + (w.neededAll before).length = w.remaining ∧ available < required := by
  induction ps generalizing w with
  | nil => cases h
  | cons p ps ih =>
    rw [appendAll] at h
    cases hp : append p w with
    | error e w₁ =>
      rw [Attempt.bind_error hp] at h
      cases h
      obtain ⟨hnone, hrequired, havailable, hless⟩ := (w.append_full_iff p _ _).1 ⟨_, hp⟩
      exact ⟨[], p, ps, rfl, ⟨hnone, trivial⟩, hrequired, by simpa using havailable, hless⟩
    | ok _ w₁ =>
      rw [Attempt.bind_ok hp] at h
      obtain ⟨hnone, hfits, rfl⟩ := append_eq_ok_iff.1 hp
      obtain ⟨before, q, behind, rfl, hadmits, hrequired, havailable, hless⟩ := ih h
      rw [remaining_appended] at havailable
      refine ⟨p :: before, q, behind, rfl, ⟨hnone, hadmits⟩, hrequired, ?_, hless⟩
      rw [neededAll_cons, List.length_append]
      omega

/-! ## More room -/

/-- The second writer holds the same text in a region that is larger by so many bytes. -/
def Roomier (more : Nat) (w w' : Writer) : Prop :=
  ∃ spare, spare.length = w.spare.length + more ∧ w' = { w with spare := spare }

namespace Roomier

variable {more : Nat} {w w' : Writer} (h : w.Roomier more w')
include h

theorem remaining : w'.remaining = w.remaining + more := by
  obtain ⟨spare, hspare, rfl⟩ := h
  exact hspare

theorem written_eq : w'.written = w.written := by
  obtain ⟨spare, -, rfl⟩ := h
  rfl

theorem refusal?_eq (p : Piece) : w'.refusal? p = w.refusal? p := by
  obtain ⟨spare, -, rfl⟩ := h
  rfl

theorem needed_eq (p : Piece) : w'.needed p = w.needed p := by
  obtain ⟨spare, -, rfl⟩ := h
  rfl

theorem appended {p : Piece} (hfits : (w.needed p).length ≤ w.remaining) :
    (w.appended p).Roomier more (w'.appended p) := by
  obtain ⟨spare, hspare, rfl⟩ := h
  refine ⟨spare.drop (w.needed p).length, ?_, rfl⟩
  unfold Writer.remaining at hfits
  simp only [Writer.appended, List.length_drop, hspare]
  omega

theorem appendedAll {ps : List Piece} (hfits : (w.neededAll ps).length ≤ w.remaining) :
    (w.appendedAll ps).Roomier more (w'.appendedAll ps) := by
  induction ps generalizing w w' with
  | nil => exact h
  | cons p ps ih =>
    rw [neededAll_cons, List.length_append] at hfits
    refine ih (h.appended (by omega)) ?_
    rw [remaining_appended]
    omega

end Roomier

/-- Which pieces are admitted and what they take does not depend on the bytes behind the text. -/
theorem neededAll_spare (w : Writer) (spare : Bytes) (ps : List Piece) :
    ({ w with spare := spare } : Writer).neededAll ps = w.neededAll ps ∧
      (({ w with spare := spare } : Writer).Admits ps ↔ w.Admits ps) := by
  induction ps generalizing w spare with
  | nil => exact ⟨rfl, Iff.rfl⟩
  | cons p ps ih =>
    obtain ⟨hneeded, hadmits⟩ := ih (w.appended p) (spare.drop (w.needed p).length)
    exact ⟨congrArg (w.needed p ++ ·) hneeded, and_congr_right fun _ => hadmits⟩

theorem Roomier.neededAll_eq {more : Nat} {w w' : Writer} (h : w.Roomier more w')
    (ps : List Piece) : w'.neededAll ps = w.neededAll ps := by
  obtain ⟨spare, -, rfl⟩ := h
  exact (w.neededAll_spare spare ps).1

theorem Roomier.admits_iff {more : Nat} {w w' : Writer} (h : w.Roomier more w')
    (ps : List Piece) : w'.Admits ps ↔ w.Admits ps := by
  obtain ⟨spare, -, rfl⟩ := h
  exact (w.neededAll_spare spare ps).2

/-! ## What is described -/

theorem Holds.appendedAll {w : Writer} {g : Page} {ps : List Piece} (h : w.Holds g)
    (hps : w.Admits ps) : ∃ g', (w.appendedAll ps).Holds g' := by
  induction ps generalizing w g with
  | nil => exact ⟨g, h⟩
  | cons p ps ih =>
    obtain ⟨g', hp⟩ := h.refusal?_eq_none_iff.1 hps.1
    exact ih (h.appended hp) hps.2

theorem Holds.pushAll {w : Writer} {values : List Json.Value} {o o' : Outline}
    {hopen : o.isWhole = false} {ps : List Piece} (h : w.Holds ⟨values, o, hopen⟩)
    (hps : o.pushAll ps = some o') : (w.appendedAll ps).Holds (Page.settle values o') := by
  induction ps generalizing w o with
  | nil =>
    cases hps
    rw [Page.settle_of_open values hopen]
    exact h
  | cons p ps ih =>
    obtain ⟨o₁, hp, hrest⟩ := Option.bind_eq_some_iff.1 hps
    have hnext : (w.appended p).Holds (Page.settle values o₁) :=
      h.appended (by rw [Page.push, hp]; rfl)
    cases hwhole : o₁.isWhole with
    | false =>
      rw [Page.settle_of_open values hwhole] at hnext
      exact ih hnext hrest
    | true =>
      -- Nothing may stand behind a value that is complete, so that this was the last piece.
      obtain ⟨v, rfl⟩ := Outline.eq_whole hwhole
      obtain ⟨rfl, rfl⟩ := Outline.pushAll_whole hrest
      exact hnext

end Writer
end DeviceTwin
