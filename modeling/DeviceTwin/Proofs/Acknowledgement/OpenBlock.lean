import DeviceTwin.Proofs.Acknowledgement.AllOrNone

/-!
# What may stand in a block when it ends

A block is opened up to the name of its value. The caller then appends pieces to the writer, and the
end of the block looks at no more than two things: whether a name waits for its value, and whether as
many containers are open as behind the opening. This does not tell one value from several members, and
not a block that is still open from one that the caller has ended.

Results:
* `exists_page`: behind any calls the text of a payload is described by its pieces.
* `Stage.push`: what a further piece makes of an open block.
* `settled_iff`: what the end of a block looks at, by the pieces that were taken.
* `endStatus_of_pieces`: when a block ends, and what it holds then.
* `further_member_taken`: a block that ends with a member of its own behind the value.
-/
namespace DeviceTwin

open Json (Members Value)

/-! ## Outlines within an outline -/

namespace Outline

section Inside

variable (members : Members) (name : String) (outer : List Hole)

theorem scopes_inside (o : Outline) :
    (o.inside members name outer).scopes = o.scopes ++ .object :: outer.map Hole.scope := by
  cases o <;> simp [inside, scopes, Hole.scope]

theorem valueDue_inside {o : Outline} (h : o ≠ blank) :
    (o.inside members name outer).valueDue = o.valueDue := by
  cases o with
  | blank => exact absurd rfl h
  | array | object | named | whole => rfl

theorem pushAll_inside {o o' : Outline} {ps : List Piece} (h : o.pushAll ps = some o') :
    (o.inside members name outer).pushAll ps = some (o'.inside members name outer) := by
  induction ps generalizing o with
  | nil =>
    cases h
    rfl
  | cons p ps ih =>
    obtain ⟨o₁, hp, hrest⟩ := Option.bind_eq_some_iff.1 h
    rw [pushAll, push_inside members name outer hp]
    exact ih hrest

/-- A value that is not complete is not the object that it stands in. -/
theorem inside_ne_object {o : Outline} (h : o.isWhole = false) (ms : Members) :
    o.inside members name outer ≠ object ms [] := by
  cases o with
  | whole => cases h
  | object ms holes => simp [inside]
  | blank | array | named => simp [inside]

end Inside

/-- Where an object that began with `members` and the name `key` has come to behind the pieces `ps`,
as long as it is open. -/
inductive Stage (members : Members) (key : String) (ps : List Piece) : Outline → Prop where
  /-- The value of `key` is not complete. -/
  | inValue (inner : Outline) (unfinished : inner.isWhole = false)
      (value : blank.pushAll ps = some inner) : Stage members key ps (inner.inside members key [])
  /-- It is complete, and so are the members behind it. -/
  | between (v : Value) (more : Members) (value : more = [] → blank.pushAll ps = some (whole v)) :
      Stage members key ps (object (members ++ (key, v) :: more) [])
  /-- The value of a member behind it is not complete. -/
  | inMember (v : Value) (more : Members) (name : String) (inner : Outline)
      (unfinished : inner.isWhole = false) :
      Stage members key ps (inner.inside (members ++ (key, v) :: more) name [])

namespace Stage

variable {members : Members} {key : String} {ps : List Piece} {o : Outline}

theorem isWhole (h : Stage members key ps o) : o.isWhole = false := by
  cases h with
  | inValue | inMember => exact isWhole_inside _ _ _ _
  | between => rfl

theorem ne_blank (h : Stage members key ps o) : o ≠ blank := by
  cases h with
  | inValue inner | inMember _ _ _ inner => cases inner <;> simp [inside]
  | between => simp

/-- A further piece leads on, or it ends the object between its members. -/
theorem push {o' : Outline} {p : Piece} (h : Stage members key ps o) (hp : o.push p = some o') :
    Stage members key (ps ++ [p]) o' ∨
      p = .closing .object ∧ ∃ v more, o = object (members ++ (key, v) :: more) [] := by
  cases h with
  | inValue inner unfinished value =>
    cases hinner : inner.push p with
    | none =>
      rw [push_inside_none _ _ _ unfinished hinner] at hp
      cases hp
    | some inner' =>
      rw [push_inside _ _ _ hinner] at hp
      cases hp
      -- The pieces still describe the value alone, until it is complete.
      have hvalue : blank.pushAll (ps ++ [p]) = some inner' := by
        rw [pushAll_append, value]
        simp [pushAll, hinner]
      cases hwhole : inner'.isWhole with
      | false => exact .inl (.inValue inner' hwhole hvalue)
      | true =>
        obtain ⟨v, rfl⟩ := eq_whole hwhole
        exact .inl (.between v [] fun _ => hvalue)
  | between v more =>
    cases p with
    | value => cases hp
    | opening scope => cases scope <;> cases hp
    | name n =>
      cases hp
      exact .inl (.inMember v more n blank rfl)
    | closing scope =>
      cases scope with
      | array => cases hp
      | object => exact .inr ⟨rfl, v, more, rfl⟩
  | inMember v more name inner unfinished =>
    cases hinner : inner.push p with
    | none =>
      rw [push_inside_none _ _ _ unfinished hinner] at hp
      cases hp
    | some inner' =>
      rw [push_inside _ _ _ hinner] at hp
      cases hp
      cases hwhole : inner'.isWhole with
      | false => exact .inl (.inMember v more name inner' hwhole)
      | true =>
        obtain ⟨u, rfl⟩ := eq_whole hwhole
        have hstage : Stage members key (ps ++ [p])
            (object (members ++ (key, v) :: (more ++ [(name, u)])) []) :=
          .between v _ (by simp)
        exact .inl (by simpa [inside] using hstage)

/-- Between its members nothing but the object itself is open, and no name waits. -/
theorem between_iff (h : Stage members key ps o) :
    o.scopes.length = 1 ∧ o.valueDue = false ↔
      ∃ v more, o = object (members ++ (key, v) :: more) [] := by
  have hinside : ∀ (ms : Members) (name : String) (inner : Outline), inner.isWhole = false →
      ¬((inner.inside ms name []).scopes.length = 1 ∧ (inner.inside ms name []).valueDue = false) := by
    rintro ms name inner unfinished ⟨hdepth, hdue⟩
    rw [scopes_inside] at hdepth
    have hscopes : inner.scopes = [] := List.eq_nil_of_length_eq_zero (by simpa using hdepth)
    rw [eq_blank_of_scopes unfinished hscopes] at hdue
    cases hdue
  cases h with
  | inValue inner unfinished value =>
    refine iff_of_false (hinside _ _ _ unfinished) ?_
    rintro ⟨v, more, heq⟩
    exact inside_ne_object _ _ _ unfinished _ heq
  | between v more value => exact iff_of_true ⟨rfl, rfl⟩ ⟨v, more, rfl⟩
  | inMember v more name inner unfinished =>
    refine iff_of_false (hinside _ _ _ unfinished) ?_
    rintro ⟨v, more, heq⟩
    exact inside_ne_object _ _ _ unfinished _ heq

/-- No member stands behind the value exactly where the pieces describe this value and no more. -/
theorem more_eq_nil_iff {v : Value} {more : Members}
    (h : Stage members key ps (object (members ++ (key, v) :: more) []))
    (hps : (named members key []).pushAll ps = some (object (members ++ (key, v) :: more) [])) :
    more = [] ↔ blank.pushAll ps = some (whole v) := by
  constructor
  · rintro rfl
    generalize heq : object (members ++ [(key, v)]) [] = o at h
    cases h with
    | inValue inner unfinished value => exact absurd heq.symm (inside_ne_object _ _ _ unfinished _)
    | between u more value =>
      simp only [object.injEq, List.append_cancel_left_eq, List.cons.injEq, Prod.mk.injEq, true_and,
        and_true] at heq
      obtain ⟨rfl, rfl⟩ := heq
      exact value rfl
    | inMember u more name inner unfinished =>
      exact absurd heq.symm (inside_ne_object _ _ _ unfinished _)
  · intro hvalue
    have hinside := pushAll_inside members key [] hvalue
    have heq : some (object (members ++ (key, v) :: more) []) = some (object (members ++ [(key, v)]) []) :=
      hps.symm.trans hinside
    simpa using heq

end Stage
end Outline

/-! ## What the end of a block looks at -/

def Piece.opens : Piece → Bool
  | opening _ => true
  | _ => false

/-- Whether there are pieces, of which the last is no name, and as many openings as ends. -/
def Pieces.Settled (ps : List Piece) : Prop :=
  ps ≠ [] ∧ nameWaits ps = false ∧ ps.countP Piece.opens = ps.countP Piece.closes

instance (ps : List Piece) : Decidable (Pieces.Settled ps) :=
  inferInstanceAs (Decidable (_ ∧ _ ∧ _))

namespace Writer

/-- How many containers are open behind calls, and whether a name waits, is known from the pieces that
were taken. -/
theorem depth_afterAll (w : Writer) (ps : List Piece) (u : Trial)
    (hu : (⟨w, []⟩ : Trial).afterAll ps = u) :
    u.writer.depth + u.accepted.countP Piece.closes = w.depth + u.accepted.countP Piece.opens ∧
      u.writer.valueDue = if u.accepted = [] then w.valueDue else Pieces.nameWaits u.accepted := by
  subst hu
  refine Trial.afterAll_of_after (motive := fun u =>
    u.writer.depth + u.accepted.countP Piece.closes = w.depth + u.accepted.countP Piece.opens ∧
      u.writer.valueDue = if u.accepted = [] then w.valueDue else Pieces.nameWaits u.accepted)
    ?_ ⟨rfl, rfl⟩ ps
  rintro t p ⟨hdepth, -⟩ hadmitted -
  constructor
  · have hnext : (t.writer.appended p).depth + (if p.closes then 1 else 0)
        = t.writer.depth + (if p.opens then 1 else 0) := by
      cases p with
      | name | value | opening => rfl
      | closing scope =>
        -- A container is ended only where one is open.
        have hopen : t.writer.scopes ≠ [] := by
          intro hnone
          simp [refusal?, hnone] at hadmitted
        have hpos := List.length_pos_iff.2 hopen
        show t.writer.scopes.tail.length + 1 = t.writer.scopes.length + 0
        rw [List.length_tail]
        omega
    simp only [List.countP_append, List.countP_singleton]
    omega
  · rw [if_neg (by simp), Pieces.nameWaits, List.getLast?_concat]
    cases p <;> rfl

/-- Behind a name, the value is complete and nothing is open that was not before exactly where the
pieces that were taken are settled. -/
theorem settled_iff (w : Writer) (hdue : w.valueDue = true) (ps : List Piece) (u : Trial)
    (hu : (⟨w, []⟩ : Trial).afterAll ps = u) :
    Acknowledgement.valueComplete u.writer w.depth = true ↔ Pieces.Settled u.accepted := by
  obtain ⟨hdepth, hvalue⟩ := depth_afterAll w ps u hu
  simp only [Acknowledgement.valueComplete, Pieces.Settled, Bool.and_eq_true, Bool.not_eq_true',
    decide_eq_true_eq, hvalue]
  by_cases hnone : u.accepted = []
  · simp [hnone, hdue]
  · simp only [ne_eq, hnone, not_false_eq_true, true_and]
    refine and_congr_right fun _ => ?_
    omega

theorem Holds.of_alike {size : Nat} {w w' : Writer} {g : Page} (h : w.Holds g)
    (halike : w.Alike size w') : w'.Holds g := by
  obtain ⟨-, spare, -, rfl⟩ := halike
  exact ⟨h.written, h.scopes, h.separatorDue, h.valueDue⟩

end Writer

namespace Acknowledgement

/-! ## Payloads and pages -/

/-- Behind any calls the text of a payload is described by the pieces that were written. -/
theorem exists_page {region : Bytes} {a : Acknowledgement} {w : Writer}
    (h : start (Writer.ofRegion region) = .ok a w) (steps : List Step) :
    ∃ g, ((Trial.of a).afterAll steps).payload.writer.Holds g := by
  obtain ⟨hopen, rfl⟩ := start_eq_ok_iff.1 h
  have hempty : (Writer.ofRegion region).Holds .empty := ⟨rfl, rfl, rfl, rfl⟩
  have hroot : w.Holds ⟨[], .object [] [], rfl⟩ := by
    rw [Writer.eq_appended hopen]
    exact hempty.appended rfl
  refine Trial.afterAll_of_run (motive := fun t => ∃ g, t.payload.writer.Holds g) ?_ ?_
    ⟨_, hroot⟩ steps
  · rintro t s a ⟨g, hg⟩ hrun
    obtain ⟨-, hadmits, -, rfl⟩ := run_ok_iff.1 hrun
    exact hg.appendedAll hadmits
  · rintro t s e a ⟨g, hg⟩ hrun
    exact ⟨g, hg.of_alike (recovers_step s _ e a hrun).2⟩

/-- The pieces of a block are appended as on any writer, and the frames stay. -/
theorem afterAll_append (u : Writer.Trial) (frames : List Frame) (before : List Step)
    (ps : List Piece) :
    (⟨⟨u.writer, frames⟩, before ++ u.accepted.map .append⟩ : Trial).afterAll (ps.map .append)
      = ⟨⟨(u.afterAll ps).writer, frames⟩, before ++ (u.afterAll ps).accepted.map .append⟩ := by
  induction ps generalizing u with
  | nil => rfl
  | cons p ps ih =>
    have hafter : (⟨⟨u.writer, frames⟩, before ++ u.accepted.map .append⟩ : Trial).after (.append p)
        = ⟨⟨(u.after p).writer, frames⟩, before ++ (u.after p).accepted.map .append⟩ := by
      have hrun : (Step.append p).run ⟨u.writer, frames⟩ = append p ⟨u.writer, frames⟩ := rfl
      simp only [Trial.after, Writer.Trial.after, hrun]
      cases h : Writer.append p u.writer with
      | ok _ w =>
        rw [append_ok h]
        simp
      | error e w => rw [append_error h]
    rw [List.map_cons, Trial.afterAll, hafter]
    exact ih (u.after p)

/-! ## Open blocks -/

def Heading.opened (h : Heading) : Outline := .named h.members valueKey []

/-- Whether the pieces end the block themselves, behind its value and perhaps further members. -/
def Heading.EndedBy (h : Heading) (ps : List Piece) : Prop :=
  ∃ front rest v more, ps = front ++ .closing .object :: rest ∧
    h.opened.pushAll front = some (.object (h.members ++ (valueKey, v) :: more) [])

section Blocks

variable {h : Heading} {values : List Value} {level : Members} {outer : List Hole}

/-- The page whose value has a block open, which is the member `h.name` behind those of `level`. -/
def Heading.page (h : Heading) (values : List Value) (level : Members) (outer : List Hole)
    (o : Outline) : Page :=
  ⟨values, o.inside level h.name outer, Outline.isWhole_inside level h.name outer o⟩

theorem opened_of_beginStatus {a a₁ : Acknowledgement} {g : Page} (hg : a.writer.Holds g)
    (hrun : beginStatus h.name h.code h.version h.description a = .ok () a₁) :
    ∃ values level outer, a.writer.Holds ⟨values, .object level outer, rfl⟩ ∧
      a₁.writer.Holds (h.page values level outer h.opened) ∧
      a₁.frames = .statusBlock a₁.writer.depth :: a.frames := by
  obtain ⟨-, hadmits, -, rfl⟩ :=
    (run_ok_iff (s := .beginStatus h.name h.code h.version h.description)).1 hrun
  obtain ⟨g', hname⟩ := hg.refusal?_eq_none_iff.1 hadmits.1
  obtain ⟨o, ho, -⟩ := Page.push_eq_some hname
  obtain ⟨values, rest, unfinished⟩ := g
  cases rest with
  | blank | array | named | whole => cases ho
  | object level outer =>
    exact ⟨values, level, outer, hg, hg.pushAll (pushAll_blockOpening level outer h), rfl⟩

/-- Behind any calls on the writer the block has come to a stage of its own, or the caller has
ended it. -/
theorem block_afterAll {w : Writer} (hw : w.Holds (h.page values level outer h.opened))
    (ps : List Piece) (u : Writer.Trial) (hu : (⟨w, []⟩ : Writer.Trial).afterAll ps = u) :
    h.EndedBy u.accepted ∨ ∃ o, h.opened.pushAll u.accepted = some o ∧
      Outline.Stage h.members valueKey u.accepted o ∧
      u.writer.Holds (h.page values level outer o) := by
  subst hu
  refine Writer.Trial.afterAll_of_after (motive := fun u => h.EndedBy u.accepted ∨
    ∃ o, h.opened.pushAll u.accepted = some o ∧ Outline.Stage h.members valueKey u.accepted o ∧
      u.writer.Holds (h.page values level outer o)) ?_ ?_ ps
  · rintro u p (⟨front, rest, v, more, heq, hopen⟩ | ⟨o, hopen, hstage, hu⟩) hadmitted -
    · exact .inl ⟨front, rest ++ [p], v, more, by simp [heq], hopen⟩
    · obtain ⟨g', hpage⟩ := hu.refusal?_eq_none_iff.1 hadmitted
      obtain ⟨o₁, ho₁, -⟩ := Page.push_eq_some hpage
      cases hp : o.push p with
      | none =>
        exact absurd (ho₁.symm.trans (Outline.push_inside_none _ _ _ hstage.isWhole hp)) (by simp)
      | some o' =>
        have hnext : h.opened.pushAll (u.accepted ++ [p]) = some o' := by
          rw [Outline.pushAll_append, hopen]
          simp [Outline.pushAll, hp]
        rcases hstage.push hp with hstage' | ⟨rfl, v, more, rfl⟩
        · refine .inr ⟨o', hnext, hstage', hu.appended ?_⟩
          show Option.map _ ((o.inside level h.name outer).push p) = _
          rw [Outline.push_inside _ _ _ hp, Option.map_some, Page.settle_of_open _
            (Outline.isWhole_inside level h.name outer o')]
          rfl
        · exact .inl ⟨u.accepted, [], v, more, rfl, hopen⟩
  · exact .inr ⟨h.opened, rfl, .inValue .blank rfl rfl, hw⟩

theorem endStatus_eq {b : Acknowledgement} {depth : Nat} {frames : List Frame}
    (hframes : b.frames = .statusBlock depth :: frames) :
    endStatus b = if valueComplete b.writer depth then
        match Writer.append (.closing .object) b.writer with
        | .ok () w => .ok () ⟨w, frames⟩
        | .error e _ => .error e b
      else .error (.framing .valueIncomplete) b := by
  have htop : b.top = .statusBlock depth := by
    rw [top, hframes]
    rfl
  show Step.endStatus.run b = _
  rw [run_eq]
  dsimp only [Step.refusal?]
  rw [htop]
  dsimp only
  cases valueComplete b.writer depth with
  | false => rfl
  | true =>
    have hwrite := append_eq_write (.closing .object) b
    simp only [if_true, Step.pieces]
    cases happend : Writer.append (.closing .object) b.writer with
    | ok _ w =>
      rw [Attempt.bind_ok (hwrite.symm.trans (append_ok happend))]
      show EStateM.Result.ok () (⟨w, b.frames.tail⟩ : Acknowledgement) = _
      rw [hframes]
      rfl
    | error e w =>
      rw [Attempt.bind_error (hwrite.symm.trans (append_error happend)), Writer.append_error happend]

theorem endStatus_iff {b : Acknowledgement} {depth : Nat} {frames : List Frame}
    (hframes : b.frames = .statusBlock depth :: frames) :
    ((∃ fault b', endStatus b = .error (.framing fault) b')
      ↔ ¬valueComplete b.writer depth = true) ∧
    ((∃ b', endStatus b = .error (.invalidState (.cannotClose .object)) b')
      ↔ valueComplete b.writer depth = true ∧ b.writer.scopes.head? ≠ some .object) ∧
    ∀ b', endStatus b = .ok () b' ↔ valueComplete b.writer depth = true ∧
      b.writer.scopes.head? = some .object ∧ 0 < b.writer.remaining ∧
      b' = ⟨b.writer.appended (.closing .object), frames⟩ := by
  rw [endStatus_eq hframes]
  cases hcomplete : valueComplete b.writer depth with
  | false => simp
  | true =>
    have hdue : b.writer.valueDue = false := by
      unfold valueComplete at hcomplete
      simpa using (Bool.and_eq_true_iff.1 hcomplete).1
    have hneeded : (b.writer.needed (.closing .object)).length = 1 := rfl
    rw [Writer.append_eq, hneeded]
    by_cases hscope : b.writer.scopes.head? = some .object
    · have hnone : b.writer.refusal? (.closing .object) = none := by
        simp [Writer.refusal?, hscope, hdue]
      rw [hnone]
      by_cases hroom : 1 ≤ b.writer.remaining
      · simp [if_pos hroom, hscope, Nat.lt_of_lt_of_le Nat.zero_lt_one hroom, eq_comm]
      · simp [if_neg hroom, hscope]
        omega
    · have hsome : b.writer.refusal? (.closing .object) = some (.cannotClose .object) := by
        simp [Writer.refusal?, hscope]
      simp [hsome, hscope]

/-- The value of a block is complete exactly where the block stands between its members. -/
theorem valueComplete_iff {w w' : Writer} {o : Outline} {ps : List Piece}
    (hw : w.Holds (h.page values level outer h.opened)) (hw' : w'.Holds (h.page values level outer o))
    (hstage : Outline.Stage h.members valueKey ps o) :
    valueComplete w' w.depth = true ↔
      ∃ v more, o = .object (h.members ++ (valueKey, v) :: more) [] := by
  have hdepth : w.depth = outer.length + 2 := by
    rw [Writer.depth, hw.scopes]
    simp [Heading.page, Heading.opened, Outline.inside, Outline.scopes]
  have hscopes : w'.depth = o.scopes.length + (outer.length + 1) := by
    rw [Writer.depth, hw'.scopes]
    simp [Heading.page, Outline.scopes_inside]
  have hdue : w'.valueDue = o.valueDue :=
    hw'.valueDue.trans (Outline.valueDue_inside _ _ _ hstage.ne_blank)
  rw [← hstage.between_iff, valueComplete, hdue, hdepth, hscopes, Bool.and_eq_true,
    Bool.not_eq_true', decide_eq_true_eq, and_comm]
  refine and_congr_left fun _ => ?_
  omega

/-- A block that the caller has ended is not open. -/
theorem Heading.EndedBy.pushAll_ne {ps : List Piece} (hended : h.EndedBy ps) (ms : Members) :
    h.opened.pushAll ps ≠ some (.object ms []) := by
  obtain ⟨front, rest, v, more, rfl, hopen⟩ := hended
  intro hps
  rw [Outline.pushAll_append, hopen] at hps
  obtain ⟨-, heq⟩ := Outline.pushAll_whole hps
  cases heq

end Blocks

/-- How a block ends. Over any region and behind any calls, of which each may have succeeded or
failed, let a block be opened, and let the caller append any pieces, of which `qs` are taken. The end
of the block is refused by the frames exactly where these pieces are not settled. Elsewhere the writer
refuses it where the innermost container is an array, and it succeeds where this is an object and a
byte is left. Settled pieces either leave the block open, with its value and perhaps further members
behind it, or they have ended it themselves. Where it is open its end is not refused, no further
member is there exactly where the pieces are those of one value, and behind its end the frames are
those in front of it and the block is one more member of the object that it was opened in. -/
theorem endStatus_of_pieces (region : Bytes) (a : Acknowledgement) (w : Writer) (steps : List Step)
    (t : Trial) (h : Heading) (a₁ : Acknowledgement) (ps qs : List Piece) (b : Acknowledgement)
    (hstart : start (Writer.ofRegion region) = .ok a w) (ht : (Trial.of a).afterAll steps = t)
    (hbegin : beginStatus h.name h.code h.version h.description t.payload = .ok () a₁)
    (hps : (Trial.of a₁).afterAll (ps.map .append) = ⟨b, qs.map .append⟩) :
    ((∃ fault b', endStatus b = .error (.framing fault) b') ↔ ¬Pieces.Settled qs) ∧
    ((∃ b', endStatus b = .error (.invalidState (.cannotClose .object)) b') ↔
      Pieces.Settled qs ∧ b.writer.scopes.head? ≠ some .object) ∧
    ((∃ b', endStatus b = .ok () b') ↔
      Pieces.Settled qs ∧ b.writer.scopes.head? = some .object ∧ 0 < b.writer.remaining) ∧
    (Pieces.Settled qs → h.EndedBy qs ∨
      ∃ v more, h.opened.pushAll qs = some (.object (h.members ++ (valueKey, v) :: more) [])) ∧
    ∃ values level outer, t.payload.writer.Holds ⟨values, .object level outer, rfl⟩ ∧
      ∀ v more, h.opened.pushAll qs = some (.object (h.members ++ (valueKey, v) :: more) []) →
        Pieces.Settled qs ∧ b.writer.scopes.head? = some .object ∧
        (more = [] ↔ Outline.blank.pushAll qs = some (.whole v)) ∧
        ∀ b', endStatus b = .ok () b' → b'.frames = t.payload.frames ∧
          b'.writer.Holds ⟨values, .object (level
            ++ [(h.name, .object (h.members ++ (valueKey, v) :: more))]) outer, rfl⟩ := by
  obtain ⟨g, hg⟩ := exists_page hstart steps
  rw [ht] at hg
  obtain ⟨values, level, outer, hbefore, hbehind, hframes⟩ := opened_of_beginStatus hg hbegin
  -- The payload behind the pieces is that of the calls on the writer alone.
  generalize hu : (⟨a₁.writer, []⟩ : Writer.Trial).afterAll ps = u
  have hlink := afterAll_append ⟨a₁.writer, []⟩ a₁.frames [] ps
  rw [hu] at hlink
  obtain ⟨rfl, htaken⟩ := Trial.mk.inj (hps.symm.trans hlink)
  obtain rfl : qs = u.accepted := (List.map_inj_right fun _ _ => Step.append.inj).1 htaken
  have hsettled := Writer.settled_iff a₁.writer hbehind.valueDue ps u hu
  obtain ⟨hrefused, hmismatch, hends⟩ := endStatus_iff (b := ⟨u.writer, a₁.frames⟩) hframes
  rw [hsettled] at hrefused hmismatch
  simp only [hsettled] at hends
  have hstage := block_afterAll hbehind ps u hu
  refine ⟨hrefused, hmismatch, ?_, ?_, values, level, outer, hbefore, ?_⟩
  · simp [hends]
  · intro hyes
    rcases hstage with hended | ⟨o, hopen, hstage, hholds⟩
    · exact .inl hended
    · obtain ⟨v, more, rfl⟩ := (valueComplete_iff hbehind hholds hstage).1 (hsettled.2 hyes)
      exact .inr ⟨v, more, hopen⟩
  · intro v more hopen
    rcases hstage with hended | ⟨o, hopen', hstage, hholds⟩
    · exact absurd hopen (hended.pushAll_ne _)
    · cases hopen'.symm.trans hopen
      have hyes := hsettled.1 ((valueComplete_iff hbehind hholds hstage).2 ⟨v, more, rfl⟩)
      refine ⟨hyes, ?_, hstage.more_eq_nil_iff hopen, ?_⟩
      · rw [hholds.scopes]
        rfl
      · intro b' hb'
        obtain ⟨-, -, -, rfl⟩ := (hends b').1 hb'
        exact ⟨rfl, hholds.appended rfl⟩

/-- A component in a payload with room for 100 bytes. -/
def openTrial : Trial := (Trial.of sampleStart).afterAll [.beginComponent "heater"]

def openHeading : Heading := ⟨"target", 200, 3, none⟩

def openPayload : Acknowledgement :=
  Attempt.final (beginStatus openHeading.name openHeading.code openHeading.version
    openHeading.description openTrial.payload)

/-- Pieces of which the first and the fourth are refused. -/
def openPieces : List Piece := [
  .closing .object, .opening .array, .value (.number (.integer 21)), .name "unit",
  .closing .array]

/-- The others, which are those of one value. -/
def openTaken : List Piece := [
  .opening .array, .value (.number (.integer 21)), .closing .array]

theorem endStatus_of_pieces_sample :
    ∃ b b', (Trial.of openPayload).afterAll (openPieces.map .append)
        = ⟨b, openTaken.map .append⟩ ∧
      endStatus b = .ok () b' ∧ b'.frames = [.component] ∧
      ∃ values level outer, b'.writer.Holds ⟨values, .object (level
        ++ [("target", block 200 3 none (.array [.number (.integer 21)]))]) outer, rfl⟩ := by
  have hbegins : Attempt.failure? (beginStatus openHeading.name openHeading.code
      openHeading.version openHeading.description openTrial.payload) = none := by
    decide +kernel
  have hsucceeded : ((Trial.of openPayload).afterAll (openPieces.map .append)).succeeded
      = openTaken.map .append := by
    decide +kernel
  have htaken : (Trial.of openPayload).afterAll (openPieces.map .append)
      = ⟨((Trial.of openPayload).afterAll (openPieces.map .append)).payload,
        openTaken.map .append⟩ := by
    rw [← hsucceeded]
  obtain ⟨-, -, hends, -, values, level, outer, -, hblock⟩ :=
    endStatus_of_pieces (List.replicate 100 0) sampleStart sampleStart.writer
      [.beginComponent "heater"] openTrial openHeading openPayload openPieces openTaken _ rfl rfl
      (Attempt.eq_ok_of_failure? hbegins) htaken
  obtain ⟨b', hb'⟩ := hends.2 (by decide +kernel)
  obtain ⟨-, -, -, hresult⟩ := hblock (.array [.number (.integer 21)]) [] rfl
  obtain ⟨hframes, hholds⟩ := hresult b' hb'
  exact ⟨_, b', htaken, hb', hframes.trans (by decide +kernel), values, level, outer, hholds⟩

/-- The pieces of a value and of a member behind it. -/
def surplusPieces : List Piece :=
  [.value (.number (.integer 1)), .name "note", .value (.number (.integer 2))]

/-- Behind its value a block takes a further member, and ends with it. -/
theorem further_member_taken :
    ∃ a w a₁ b b', start (Writer.ofRegion (List.replicate 64 0)) = .ok a w ∧
      beginStatus "mode" 200 1 none a = .ok () a₁ ∧
      ((Trial.of a₁).afterAll (surplusPieces.map .append)).payload = b ∧
      ((Trial.of a₁).afterAll (surplusPieces.map .append)).succeeded = surplusPieces.map .append ∧
      (∀ v, Outline.blank.pushAll surplusPieces ≠ some (.whole v)) ∧
      endStatus b = .ok () b' ∧ b'.writer.written = Utf8.encode
        "\x7b\"mode\":\x7b\"ac\":200,\"av\":1,\"value\":1,\"note\":2\x7d".toList := by
  have hstart : start (Writer.ofRegion (List.replicate 64 0)) = .ok
      ⟨⟨Utf8.encode ['{'], List.replicate 63 0, [.object], false, false⟩, []⟩
      ⟨Utf8.encode ['{'], List.replicate 63 0, [.object], false, false⟩ := rfl
  refine ⟨_, _, _, _, _, hstart, Attempt.eq_ok_of_failure? ?_, rfl, ?_, ?_,
    Attempt.eq_ok_of_failure? ?_, ?_⟩
  · decide +kernel
  · decide +kernel
  · intro v
    simp [surplusPieces, Outline.pushAll, Outline.push, Outline.holes?, Outline.fill]
  · decide +kernel
  · decide +kernel

end Acknowledgement

end DeviceTwin
