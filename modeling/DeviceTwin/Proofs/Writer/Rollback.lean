import DeviceTwin.Proofs.Acknowledgement.AllOrNone
import DeviceTwin.Proofs.Writer.InPlace

/-!
# Going back in place

A checkpoint notes how long the text is and how many containers are open. It notes neither the bytes
nor which containers they are, so that going back relies on both being still there. The bytes are,
because a call writes behind the text. The containers are, as long as there have never been fewer of
them than at the checkpoint: a stack that does not get shorter than it was keeps its lower part.

Results:
* `Writer.Grows.afterCalls`: as long as no container is ended that was open, calls only add.
* `toWriter_rollback`: going back in place is going back on the writer.
* `sights_of_alike`: buffers that differ behind their texts at most cannot be told apart.
* `restored_by_rollback`: going back gives the buffer that there was, for all that comes after.
-/
namespace DeviceTwin

open Attempt (Respects failure? final outcome)

/-! ## Calls that only add -/

namespace Writer

/-- A call adds to a writer or leaves it, where it ends no container that was open. -/
theorem Grows.call {w u : Writer} (h : w.Grows u) (given : Given)
    (hdepth : w.depth ≤ (final (give given u)).depth) : w.Grows (final (give given u)) := by
  cases hgive : give given u with
  | error e u' =>
    have hsame : u' = u := by
      cases given with
      | ok p => exact append_error hgive
      | error reason => cases hgive; rfl
    exact hsame.symm ▸ h
  | ok _ u' =>
    rw [hgive] at hdepth
    cases given with
    | error reason => cases hgive
    | ok p =>
      obtain ⟨-, -, rfl⟩ := append_eq_ok_iff.1 hgive
      refine ⟨h.written.trans (List.prefix_append _ _), ?_⟩
      cases p with
      | opening scope => exact h.scopes.trans (List.suffix_cons _ _)
      | name n | value v => exact h.scopes
      | closing scope =>
        -- Both are ends of one stack, and the containers that were open are the fewer ones.
        exact List.suffix_of_suffix_length_le h.scopes (List.tail_suffix _) hdepth

/-- As long as no container is ended that was open, calls only add. -/
theorem Grows.afterCalls {w u : Writer} (h : w.Grows u) {calls : List Given}
    (hopen : ∀ made, made <+: calls → w.depth ≤ (u.afterCalls made).depth) :
    w.Grows (u.afterCalls calls) := by
  induction calls generalizing u with
  | nil => exact h
  | cons given calls ih =>
    have hfirst : [given] <+: given :: calls := ⟨calls, rfl⟩
    refine ih (h.call given (hopen [given] hfirst)) fun made hmade => ?_
    exact hopen (given :: made) (List.prefix_cons_inj given |>.2 hmade)

theorem capacity_afterCalls (w : Writer) (calls : List Given) :
    (w.afterCalls calls).capacity = w.capacity := by
  induction calls generalizing w with
  | nil => rfl
  | cons given calls ih =>
    refine (ih _).trans ?_
    cases given with
    | ok p => exact capacity_final_append p w
    | error reason => rfl

end Writer

namespace Buffer

/-! ## Places in a text -/

def text (b : Buffer) : Bytes := b.region.take b.length

def checkpoint (b : Buffer) : Checkpoint :=
  ⟨b.length, b.scopes.length, b.separatorDue, b.valueDue⟩

/-- Returns to a checkpoint. Only the length is set back, and all bytes of the region stay. -/
def rollback (b : Buffer) (c : Checkpoint) : Buffer :=
  { b with
    length := min c.length b.length
    scopes := b.scopes.drop (b.scopes.length - c.depth)
    separatorDue := c.separatorDue
    valueDue := c.valueDue }

section Places

variable {b : Buffer} (h : b.Sound)
include h

theorem checkpoint_toWriter : b.toWriter.checkpoint = b.checkpoint := by
  unfold Sound at h
  simp [Writer.checkpoint, toWriter, Writer.depth, checkpoint, h]

theorem sound_rollback (c : Checkpoint) : (b.rollback c).Sound :=
  Nat.le_trans (Nat.min_le_right c.length b.length) h

theorem toWriter_rollback (c : Checkpoint) :
    (b.rollback c).toWriter = b.toWriter.rollback c := by
  have hwritten : b.region.take (min c.length b.length)
      = (b.region.take b.length).take c.length := List.take_take.symm
  have hspare : b.region.drop (min c.length b.length)
      = (b.region.take b.length).drop c.length ++ b.region.drop b.length := by
    unfold Sound at h
    rcases Nat.le_total c.length b.length with hle | hle
    · have hinside : c.length ≤ (b.region.take b.length).length := by simp; omega
      rw [Nat.min_eq_left hle, ← List.drop_append_of_le_length hinside, List.take_append_drop]
    · have hbehind : (b.region.take b.length).length ≤ c.length := by simp; omega
      rw [Nat.min_eq_right hle, List.drop_eq_nil_of_le hbehind, List.nil_append]
  show Writer.mk (b.region.take (min c.length b.length)) (b.region.drop (min c.length b.length)) _ _ _
    = _
  rw [hwritten, hspare]
  rfl

end Places

/-! ## Any use of a buffer -/

/-- What is done with a buffer. A checkpoint may be any, also one that was never taken. -/
inductive Use where
  | call (given : Writer.Given)
  | rollback (c : Checkpoint)

/-- What is seen behind a use of a buffer. -/
structure Sight where
  failure? : Option Fault
  text : Bytes
  place : Checkpoint
  /-- The number of bytes that are left, where it can be told. -/
  room : Except Fault Nat

namespace Use

def run : Use → Action Unit
  | call given => Buffer.call given
  | rollback c => modify (·.rollback c)

def behind (uses : List Use) (b : Buffer) : Buffer := uses.foldl (fun b u => final (u.run b)) b

def sights : List Use → Buffer → List Sight
  | [], _ => []
  | u :: uses, b =>
    let c := final (u.run b)
    ⟨failure? (u.run b), c.text, c.checkpoint, outcome (remaining c)⟩ :: sights uses c

end Use

/-! ## Buffers that cannot be told apart -/

/-- Both buffers are in regions of this size and differ in the bytes behind the text at most. -/
structure Alike (size : Nat) (b c : Buffer) : Prop where
  left : b.Follows size b.toWriter
  right : c.Follows size c.toWriter
  writers : b.toWriter.Alike size c.toWriter

section Alike

variable {size : Nat} {b c : Buffer}

theorem Follows.self {w : Writer} (h : b.Follows size w) : b.Follows size b.toWriter :=
  ⟨h.sound, h.size, rfl⟩

theorem Follows.rollback {w : Writer} (h : b.Follows size w) (p : Checkpoint) :
    (b.rollback p).Follows size (w.rollback p) := by
  obtain ⟨hsound, hsize, rfl⟩ := h
  exact ⟨sound_rollback hsound p, hsize, toWriter_rollback hsound p⟩

/-- A sound buffer stays sound however it is used, and its region keeps its size. -/
theorem Follows.behind {w : Writer} (h : b.Follows size w) (uses : List Use) :
    (Use.behind uses b).Follows size (Use.behind uses b).toWriter := by
  induction uses generalizing b w with
  | nil => exact h.self
  | cons u uses ih =>
    cases u with
    | call given => exact ih (h.call given)
    | rollback p => exact ih (h.rollback p)

/-- Buffers that are alike answer a call alike, and they stay alike. -/
theorem respects_call (given : Writer.Given) : Respects (Alike size) (call given) := by
  rintro b c ⟨hb, hc, halike⟩
  have hbehind := (hb.call given).self
  have hbehind' := (hc.call given).self
  rcases Writer.respects_give given _ _ halike with
    ⟨_, t, t', h, h', ht⟩ | ⟨e, t, t', h, h', ht⟩
  · rcases call_cases hb.sound given with ⟨p, -, hfits, hcall, hgive⟩ | ⟨e, -, hgive⟩
    · rcases call_cases hc.sound given with ⟨p', -, hfits', hcall', hgive'⟩ | ⟨e, -, hgive'⟩
      · cases h.symm.trans hgive
        cases h'.symm.trans hgive'
        rw [hcall] at hbehind
        rw [hcall'] at hbehind'
        refine .inl ⟨(), _, _, hcall, hcall', hbehind, hbehind', ?_⟩
        rw [(appended_of_room hb.sound hfits).2, (appended_of_room hc.sound hfits').2]
        exact ht
      · cases h'.symm.trans hgive'
    · cases h.symm.trans hgive
  · rcases call_cases hb.sound given with ⟨p, -, -, -, hgive⟩ | ⟨e₁, hcall, hgive⟩
    · cases h.symm.trans hgive
    · rcases call_cases hc.sound given with ⟨p, -, -, -, hgive'⟩ | ⟨e₂, hcall', hgive'⟩
      · cases h'.symm.trans hgive'
      · cases h.symm.trans hgive
        cases h'.symm.trans hgive'
        exact .inr ⟨_, _, _, hcall, hcall', hb, hc, halike⟩

theorem respects_use (u : Use) : Respects (Alike size) u.run := by
  cases u with
  | call given => exact respects_call given
  | rollback p =>
    refine Attempt.respects_modify fun b c h => ?_
    refine ⟨(h.left.rollback p).self, (h.right.rollback p).self, ?_⟩
    rw [toWriter_rollback h.left.sound, toWriter_rollback h.right.sound]
    exact h.writers.rollback p

theorem Alike.seen (h : b.Alike size c) :
    c.text = b.text ∧ c.checkpoint = b.checkpoint ∧
      outcome (remaining c) = outcome (remaining b) := by
  obtain ⟨hb, hc, -, spare, hspare, hwriter⟩ := h
  have hplace : c.checkpoint = b.checkpoint := by
    rw [← checkpoint_toWriter hb.sound, ← checkpoint_toWriter hc.sound, hwriter]
    rfl
  refine ⟨congrArg Writer.written hwriter, hplace, ?_⟩
  rw [remaining_eq hb.sound, remaining_eq hc.sound, hwriter]
  exact congrArg Except.ok hspare

/-- Buffers that are alike cannot be told apart, however they are used. -/
theorem sights_of_alike (h : b.Alike size c) (uses : List Use) :
    Use.sights uses c = Use.sights uses b := by
  induction uses generalizing b c with
  | nil => rfl
  | cons u uses ih =>
    unfold Use.sights
    rcases respects_use u b c h with ⟨_, t, t', heq, heq', ht⟩ | ⟨e, t, t', heq, heq', ht⟩ <;>
    · obtain ⟨htext, hplace, hroom⟩ := ht.seen
      simp only [heq, heq', Attempt.final_ok, Attempt.final_error, Attempt.failure?_ok,
        Attempt.failure?_error, htext, hplace, hroom, ih ht]

end Alike

/-! ## Going back -/

/-- Going back undoes any calls. However a buffer has been used before, let a checkpoint be taken and
let calls follow, of which each may succeed or fail and between which there are never fewer open
containers than at the checkpoint. Then the containers that were open at it are open throughout.
Going back gives the same length, the same text, the same containers and the same flags, and whatever
is done from there on succeeds or fails as it would have without the calls, with the same text, the
same place and the same room behind it. All of this is what the writer does. -/
theorem restored_by_rollback (region : Bytes) (before : List Use) (calls : List Writer.Given)
    (b r : Buffer) (hb : Use.behind before (of region) = b)
    (hopen : ∀ made, made <+: calls → b.scopes.length ≤ (b.afterAll made).scopes.length)
    (hr : (b.afterAll calls).rollback b.checkpoint = r) :
    (∀ made, made <+: calls → b.scopes <:+ (b.afterAll made).scopes) ∧
    r.length = b.length ∧ r.text = b.text ∧ r.scopes = b.scopes ∧
    r.separatorDue = b.separatorDue ∧ r.valueDue = b.valueDue ∧
    (∀ later, Use.sights later r = Use.sights later b) ∧
    r.toWriter = (b.toWriter.afterCalls calls).rollback b.toWriter.checkpoint := by
  have hself : b.Follows region.length b.toWriter := hb ▸ (follows_of region).behind before
  have hscopes : ∀ made, (b.afterAll made).scopes = (b.toWriter.afterCalls made).scopes :=
    fun made => congrArg Writer.scopes (hself.afterAll made).writer
  have hgrows : ∀ made, made <+: calls → b.toWriter.Grows (b.toWriter.afterCalls made) := by
    intro made hmade
    refine (Writer.Grows.refl b.toWriter).afterCalls fun made' hmade' => ?_
    have hmore := hopen made' (hmade'.trans hmade)
    rwa [hscopes] at hmore
  have hback : r.Follows region.length
      ((b.toWriter.afterCalls calls).rollback b.toWriter.checkpoint) := by
    rw [checkpoint_toWriter hself.sound, ← hr]
    exact (hself.afterAll calls).rollback _
  have halike : b.Alike region.length r := by
    refine ⟨hself, hback.self, ?_⟩
    have hcapacity : b.toWriter.capacity = region.length := by
      rw [← Writer.length_region, ← hself.size]
      exact congrArg List.length (List.take_append_drop _ _)
    rw [hback.writer, ← hcapacity]
    exact (hgrows calls List.prefix_rfl).alike (Writer.capacity_afterCalls _ _)
  obtain ⟨htext, hplace, -⟩ := halike.seen
  obtain ⟨-, spare, -, hwriter⟩ := halike.writers
  refine ⟨fun made hmade => ?_, congrArg Checkpoint.length hplace, htext,
    congrArg Writer.scopes hwriter, congrArg Writer.separatorDue hwriter,
    congrArg Writer.valueDue hwriter, sights_of_alike halike, hback.writer⟩
  rw [hscopes]
  exact (hgrows made hmade).scopes

/-- Where a container is ended and another one begun in its place, there are as many of them as
before, but going back does not give the first one back. -/
example :
    let b := Use.behind [.call (.ok (.opening .array))] (of (List.replicate 8 46))
    let r := (b.afterAll [.ok (.closing .array), .ok (.opening .object)]).rollback b.checkpoint
    b.text = r.text ∧ b.scopes = [.array] ∧ r.scopes = [.object] := by
  decide +kernel

/-- An object with a member, and an item that was taken back. -/
def sampleUses : List Use :=
  [.call (.ok (.opening .object)), .call (.ok (.name "a")), .call (.ok (.opening .array)),
    .rollback ⟨5, 1, false, true⟩, .call (.ok (.value (.bool true)))]

/-- Calls that end no more than they began, of which two fail. -/
def sampleRun : List Writer.Given :=
  [.ok (.name "b"), .ok (.opening .array), .ok (.closing .object), .ok (.closing .array),
    .ok (.name "c"), .ok (.value (.string "temperature"))]

theorem restored_by_rollback_sample :
    ∃ b r, Use.behind sampleUses (of (List.replicate 24 46)) = b ∧
      (b.afterAll sampleRun).rollback b.checkpoint = r ∧
      r.region ≠ b.region ∧ r.length = 9 ∧ r.text = b.text ∧ r.scopes = [.object] ∧
      Use.sights [.call (.ok (.closing .object)), .rollback ⟨4, 0, true, false⟩] r
        = Use.sights [.call (.ok (.closing .object)), .rollback ⟨4, 0, true, false⟩] b := by
  have hopen : ∀ made, made <+: sampleRun →
      (Use.behind sampleUses (of (List.replicate 24 46))).scopes.length
        ≤ ((Use.behind sampleUses (of (List.replicate 24 46))).afterAll made).scopes.length := by
    have hall : ∀ n ≤ 6, (Use.behind sampleUses (of (List.replicate 24 46))).scopes.length
        ≤ ((Use.behind sampleUses (of (List.replicate 24 46))).afterAll
            (sampleRun.take n)).scopes.length := by
      decide +kernel
    intro made hmade
    rw [List.prefix_iff_eq_take.1 hmade]
    exact hall _ hmade.length_le
  obtain ⟨-, hlength, htext, hscopes, -, -, hlater, -⟩ :=
    restored_by_rollback _ _ _ _ _ rfl hopen rfl
  exact ⟨_, _, rfl, rfl, by decide +kernel, hlength.trans (by decide +kernel), htext,
    hscopes.trans (by decide +kernel), hlater _⟩

end Buffer
end DeviceTwin
