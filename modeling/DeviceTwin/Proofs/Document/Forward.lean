import DeviceTwin.Document.Cursor
import DeviceTwin.Proofs.Attempt

/-!
# Moving forward

Whatever a stream holds, balanced or not, no call moves it backwards, and neither does a walk over
it, whether the call succeeds or fails.

Results:
* `Reaches`: a stream is where another one was, or on one of the tokens that were ahead of it.
* `reaches_advance`, `reaches_skipValue`, `reaches_skipMember`: calls on a stream.
* `forward_walk`, `forward_nextProperty`: calls on a cursor.
-/
namespace DeviceTwin

open Attempt (final final_bind)

namespace TokenStream

/-- The second stream is the first, or stands on one of the tokens ahead of it. -/
inductive Reaches (s : TokenStream) : TokenStream → Prop where
  | refl : Reaches s s
  | moved {t : Placed} {rest : List Placed} (h : t :: rest <:+ s.ahead) : Reaches s ⟨some t, rest⟩

namespace Reaches

theorem suffix {s s' : TokenStream} (h : s.Reaches s') : s'.ahead <:+ s.ahead := by
  cases h with
  | refl => exact List.suffix_rfl
  | moved h => exact (List.suffix_cons _ _).trans h

theorem length_le {s s' : TokenStream} (h : s.Reaches s') : s'.ahead.length ≤ s.ahead.length :=
  h.suffix.length_le

theorem trans {s s' s'' : TokenStream} (h : s.Reaches s') (h' : s'.Reaches s'') :
    s.Reaches s'' := by
  cases h' with
  | refl => exact h
  | moved h' => exact .moved (h'.trans h.suffix)

end Reaches

theorem reaches_advance (s : TokenStream) : s.Reaches (final (advance s)) := by
  obtain ⟨c, ts⟩ := s
  cases ts with
  | nil => exact .refl
  | cons t ts => exact .moved List.suffix_rfl

theorem reaches_closeAt (depth : Nat) (c : Option Placed) (ts : List Placed) :
    Reaches ⟨c, ts⟩ (final (closeAt depth c ts)) := by
  induction ts generalizing c with
  | nil => exact .refl
  | cons t ts ih =>
    have hstep : Reaches ⟨c, t :: ts⟩ ⟨some t, ts⟩ := .moved List.suffix_rfl
    rw [closeAt]
    split
    · exact hstep
    · exact hstep.trans (ih (some t))

theorem reaches_skipValue (s : TokenStream) : s.Reaches (final (skipValue s)) := by
  unfold skipValue
  split
  · exact .refl
  · split
    · exact reaches_closeAt _ _ _
    · exact .refl

theorem reaches_skipMember (s : TokenStream) : s.Reaches (final (skipMember s)) := by
  unfold skipMember
  refine final_bind (r := Reaches) Reaches.trans (reaches_advance s) fun _ s' _ => ?_
  exact final_bind (r := Reaches) Reaches.trans (reaches_skipValue s') fun _ s'' _ =>
    reaches_advance s''

end TokenStream

namespace Cursor

variable {α β : Type}

/-- From this cursor the computation does not move the stream backwards. -/
def Forward (c : Cursor) (x : Attempt Cursor α) : Prop :=
  c.stream.Reaches (final (x c)).stream

namespace Forward

theorem of_eq {c : Cursor} {x : Attempt Cursor α} (h : (final (x c)).stream = c.stream) :
    c.Forward x := by
  rw [Forward, h]
  exact .refl

theorem bind {x : Attempt Cursor α} {f : α → Attempt Cursor β} {c : Cursor} (hx : c.Forward x)
    (hf : ∀ a c', Forward c' (f a)) : c.Forward (x >>= f) :=
  final_bind (r := fun c c' => c.stream.Reaches c'.stream) TokenStream.Reaches.trans hx
    fun a c' _ => hf a c'

theorem get_bind {f : Cursor → Attempt Cursor β} {c : Cursor} (hf : c.Forward (f c)) :
    c.Forward (get >>= f) :=
  hf

/-- Behind a change that keeps the stream it does not matter which state was changed. -/
theorem set_bind {f : Unit → Attempt Cursor β} {c t : Cursor} (hs : t.stream = c.stream)
    (hf : t.Forward (f ())) : c.Forward (set t >>= f) := by
  unfold Forward at hf ⊢
  rw [← hs]
  exact hf

theorem onStream {x : Attempt TokenStream α} (hx : ∀ s : TokenStream, s.Reaches (final (x s)))
    (c : Cursor) : c.Forward (onStream x) := by
  have h := hx c.stream
  unfold Forward Cursor.onStream
  cases hc : x c.stream with
  | ok a s => rw [hc] at h; exact h
  | error e s => rw [hc] at h; exact h

end Forward

theorem forward_advance (c : Cursor) : c.Forward (onStream TokenStream.advance) :=
  .onStream TokenStream.reaches_advance c

theorem forward_skipMember (c : Cursor) : c.Forward (onStream TokenStream.skipMember) :=
  .onStream TokenStream.reaches_skipMember c

theorem forward_findSection (name : String) (fuel : Nat) (c : Cursor) :
    c.Forward (findSection name fuel) := by
  induction fuel generalizing c with
  | zero => exact .of_eq rfl
  | succ fuel ih =>
    rw [findSection]
    refine .get_bind ?_
    dsimp only
    split
    · split
      · split
        · refine .bind (forward_advance c) fun _ c' => ?_
          exact .bind (forward_advance c') fun _ _ => .of_eq rfl
        · exact .of_eq rfl
      · exact .bind (forward_skipMember c) fun _ c' => ih c'
    · exact .of_eq rfl
    · exact .of_eq rfl

theorem forward_enterSection (c : Cursor) : c.Forward enterSection := by
  rw [enterSection]
  refine .get_bind ?_
  dsimp only
  split
  · split
    · refine .bind (.of_eq rfl) fun _ c₁ => ?_
      refine .bind (forward_advance c₁) fun _ c₂ => ?_
      exact forward_findSection _ _ c₂
    · refine .bind (.of_eq rfl) fun _ c₁ => ?_
      exact .bind (forward_advance c₁) fun _ _ => .of_eq rfl
  · exact .of_eq rfl

theorem forward_enterComponent (name : String) (c : Cursor) : c.Forward (enterComponent name) := by
  unfold enterComponent
  refine .bind (forward_advance c) fun _ c₁ => ?_
  refine .bind (forward_advance c₁) fun _ c₂ => ?_
  refine .bind (forward_advance c₂) fun _ c₃ => ?_
  exact .bind (forward_advance c₃) fun _ _ => .of_eq rfl

theorem forward_walk (fuel : Nat) (c : Cursor) : c.Forward (walk fuel) := by
  induction fuel generalizing c with
  | zero => exact .of_eq rfl
  | succ fuel ih =>
    rw [walk]
    refine .get_bind ?_
    dsimp only
    split
    · split
      · exact .set_bind rfl (.bind (forward_advance _) fun _ c' => ih c')
      · split
        · exact .of_eq rfl
        · exact .of_eq rfl
    · split
      · split
        · exact .bind (forward_skipMember c) fun _ c' => ih c'
        · exact .bind (forward_enterComponent _ c) fun _ c' => ih c'
        · exact .of_eq rfl
      · exact .of_eq rfl
    · exact .of_eq rfl
    · exact .of_eq rfl

theorem forward_walkOn (c : Cursor) : c.Forward walkOn :=
  forward_walk _ c

theorem forward_nextProperty (c : Cursor) : c.Forward nextProperty := by
  rw [nextProperty]
  refine .get_bind ?_
  split
  · exact .of_eq rfl
  · refine .bind (forward_enterSection c) fun found c' => ?_
    cases found with
    | true => exact forward_walkOn c'
    | false => exact .of_eq rfl
  · split
    · exact forward_walkOn c
    · exact .of_eq rfl

end Cursor
end DeviceTwin
