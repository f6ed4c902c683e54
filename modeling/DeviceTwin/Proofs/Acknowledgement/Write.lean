import DeviceTwin.Acknowledgement
import DeviceTwin.Proofs.Attempt
import DeviceTwin.Proofs.Writer.Outline

/-!
# Writing all pieces or none

A framing call writes several pieces. Where one of them does not fit the writer goes back to where
it was, which it can do because the pieces in front of that one have closed nothing.

Results:
* `Writer.Grows.rollback`: going back shows what was shown before.
* `write_cases`: pieces that the grammar admits are written, or there is no room for them and the
  writer shows what it showed before.
-/
namespace DeviceTwin

def Piece.closes : Piece → Bool
  | closing _ => true
  | _ => false

namespace Writer

/-- The second writer still has all that the first one had. -/
structure Grows (w w' : Writer) : Prop where
  written : w.written <+: w'.written
  scopes : w.scopes <:+ w'.scopes

namespace Grows

variable {w w' w'' : Writer} {o : Outline} {p : Piece}

theorem refl (w : Writer) : w.Grows w := ⟨List.prefix_rfl, List.suffix_rfl⟩

theorem trans (h : w.Grows w') (h' : w'.Grows w'') : w.Grows w'' :=
  ⟨h.written.trans h'.written, h.scopes.trans h'.scopes⟩

theorem appended (h : p.closes = false) : w.Grows (w.appended p) := by
  refine ⟨List.prefix_append _ _, ?_⟩
  cases p with
  | closing => cases h
  | opening scope => exact List.suffix_cons _ _
  | name | value => exact List.suffix_rfl

theorem written_rollback (h : w.Grows w') : (w'.rollback w.checkpoint).written = w.written := by
  obtain ⟨more, hmore⟩ := h.written
  show w'.written.take w.written.length = _
  rw [← hmore, List.take_left]

theorem scopes_rollback (h : w.Grows w') : (w'.rollback w.checkpoint).scopes = w.scopes := by
  obtain ⟨inner, hinner⟩ := h.scopes
  show w'.scopes.drop (w'.scopes.length - w.scopes.length) = _
  rw [← hinner, List.length_append, Nat.add_sub_cancel, List.drop_left]

theorem rollback (h : w.Grows w') (hw : w.Shows o) : (w'.rollback w.checkpoint).Shows o :=
  ⟨h.written_rollback.trans hw.written, h.scopes_rollback.trans hw.scopes, hw.separatorDue,
    hw.valueDue⟩

end Grows
end Writer

namespace Acknowledgement

variable {w : Writer} {o o' : Outline}

/-- Pieces that the grammar admits are appended, or the room ends. -/
theorem appendAll_cases {ps : List Piece} (h : w.Shows o) (hp : o.pushAll ps = some o') :
    (∃ w', appendAll ps w = .ok () w' ∧ w'.Shows o') ∨
    ∃ required available w', appendAll ps w = .error (.insufficientBuffer required available) w' := by
  induction ps generalizing w o with
  | nil =>
    cases hp
    exact .inl ⟨w, rfl, h⟩
  | cons p ps ih =>
    obtain ⟨o₁, hpush, hrest⟩ := Option.bind_eq_some_iff.1 hp
    have happend := w.append_eq p
    rw [h.refusal?_eq_none hpush] at happend
    dsimp only at happend
    split at happend
    · rw [appendAll, Attempt.bind_ok happend]
      exact ih (h.appended hpush) hrest
    · rw [appendAll, Attempt.bind_error happend]
      exact .inr ⟨_, _, _, rfl⟩

/-- Where the room ends behind pieces that close nothing, all that stood before is still there. -/
theorem grows_of_appendAll {ps : List Piece} {e : PropertyError} {w w' : Writer}
    (hps : ∀ p ∈ ps.dropLast, p.closes = false) (h : appendAll ps w = .error e w') :
    w.Grows w' := by
  induction ps generalizing w with
  | nil => cases h
  | cons p ps ih =>
    cases happend : Writer.append p w with
    | error e' w₁ =>
      rw [appendAll, Attempt.bind_error happend] at h
      cases h
      rw [Writer.append_error happend]
      exact .refl w
    | ok _ w₁ =>
      rw [appendAll, Attempt.bind_ok happend] at h
      cases ps with
      | nil => cases h
      | cons q ps =>
        have hfirst : p.closes = false := hps p (by simp)
        have hgrows : w.Grows w₁ := Writer.eq_appended happend ▸ .appended hfirst
        exact hgrows.trans (ih (fun p' hp' => hps p' (by simp_all)) h)

/-- The name and the value of a property are written as any pieces are. -/
theorem property_eq (name : String) (v : Json.Value) :
    property name v
      = expectTop .property (fun top => !top.isBlock) >>= fun _ => write [.name name, .value v] := by
  have hpieces : appendAll [.name name, .value v]
      = Writer.append (.name name) >>= fun _ => Writer.append (.value v) := by
    unfold appendAll appendAll appendAll
    rw [bind_pure_unit]
  rw [write, hpieces]
  rfl

/-- Pieces that the grammar admits are written, or there is no room for them and the writer shows
what it showed before. -/
theorem write_cases {ps : List Piece} {a : Acknowledgement} (h : a.writer.Shows o)
    (hp : o.pushAll ps = some o') (hps : ∀ p ∈ ps.dropLast, p.closes = false) :
    (∃ w', write ps a = .ok () { a with writer := w' } ∧ w'.Shows o') ∨
    ∃ required available w', write ps a
      = .error (.insufficientBuffer required available) { a with writer := w' } ∧ w'.Shows o := by
  rcases appendAll_cases h hp with ⟨w', happend, hshows⟩ | ⟨required, available, w', happend⟩
  · exact .inl ⟨w', write_ok happend, hshows⟩
  · have hgrows := grows_of_appendAll hps happend
    exact .inr ⟨required, available, _, write_error happend, hgrows.rollback h⟩

end Acknowledgement
end DeviceTwin
