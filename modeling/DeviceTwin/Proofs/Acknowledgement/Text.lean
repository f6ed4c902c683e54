import DeviceTwin.Proofs.Acknowledgement.Groups
import DeviceTwin.Proofs.Attempt
import DeviceTwin.Proofs.Json.Text

/-!
# The text of an acknowledgement

The payload is written by framing calls, each of which checks the open frames, puts commas where
they are due and fails where the room ends. Here each call is given the bytes that it appends, so
that the bytes of a whole payload are put together from those of its parts.

`Emits x s bs t` says that `x` appends exactly `bs` to any payload that looks like `s`, and leaves
it looking like `t`. Where there is no room for `bs` it fails for that reason and for no other.

Results:
* `Emits.bind`: the bytes of a sequence are those of its parts.
* `emits_writeBlock`: a block is written as its value is rendered.
* `emits_writeBlocks`: so are blocks, with the components that they stand in.
* `within_ok`, `within_full`: what comes of such calls where the room is limited.
* `payload_ok`, `payload_full`: a payload is the text of `acceptedValue`, if it fits.
-/
namespace DeviceTwin.Acknowledgement

open Json (Members Value comma memberText membersText quoted render_object)
open Utf8 (encode)

/-! ## Shapes -/

/-- What a payload looks like but for its bytes. -/
structure Shape where
  scopes : List Scope
  separatorDue : Bool
  valueDue : Bool
  frames : List Frame

def shape (a : Acknowledgement) : Shape :=
  ⟨a.writer.scopes, a.writer.separatorDue, a.writer.valueDue, a.frames⟩

def grown (a : Acknowledgement) (bs : Bytes) (t : Shape) : Acknowledgement :=
  ⟨⟨a.writer.written ++ bs, a.writer.spare.drop bs.length, t.scopes, t.separatorDue, t.valueDue⟩,
    t.frames⟩

@[simp] theorem shape_grown (a : Acknowledgement) (bs : Bytes) (t : Shape) :
    (a.grown bs t).shape = t := rfl

@[simp] theorem remaining_grown (a : Acknowledgement) (bs : Bytes) (t : Shape) :
    (a.grown bs t).writer.remaining = a.writer.remaining - bs.length := by
  simp [grown, Writer.remaining]

theorem grown_grown (a : Acknowledgement) (bs cs : Bytes) (t u : Shape) :
    (a.grown bs t).grown cs u = a.grown (bs ++ cs) u := by
  simp [grown, List.drop_drop]

theorem grown_nil (a : Acknowledgement) : a.grown [] a.shape = a := by
  simp [grown, shape]

/-! ## Calls and their bytes -/

/-- `x` appends exactly `bs` to payloads that look like `s` and leaves them looking like `t`, or
there is no room for it. -/
structure Emits (x : Attempt Acknowledgement Unit) (s : Shape) (bs : Bytes) (t : Shape) : Prop where
  fits : ∀ a : Acknowledgement, a.shape = s → bs.length ≤ a.writer.remaining →
    x a = .ok () (a.grown bs t)
  full : ∀ a : Acknowledgement, a.shape = s → a.writer.remaining < bs.length →
    ∃ required available a', x a = .error (.insufficientBuffer required available) a'

variable {x y : Attempt Acknowledgement Unit} {s t u : Shape} {bs cs : Bytes}

theorem Emits.bind (hx : Emits x s bs t) (hy : Emits y t cs u) :
    Emits (x >>= fun _ => y) s (bs ++ cs) u where
  fits a ha hroom := by
    rw [List.length_append] at hroom
    rw [Attempt.bind_ok (hx.fits a ha (by omega)),
      hy.fits _ (shape_grown a bs t) (by rw [remaining_grown]; omega), grown_grown]
  full a ha hroom := by
    rw [List.length_append] at hroom
    by_cases hfirst : bs.length ≤ a.writer.remaining
    · rw [Attempt.bind_ok (hx.fits a ha hfirst)]
      exact hy.full _ (shape_grown a bs t) (by rw [remaining_grown]; omega)
    · obtain ⟨required, available, a', he⟩ := hx.full a ha (by omega)
      exact ⟨required, available, a', Attempt.bind_error he⟩

theorem emits_nil (h : ∀ a : Acknowledgement, a.shape = s → x a = .ok () (a.grown [] t)) :
    Emits x s [] t where
  fits a ha _ := h a ha
  full _ _ hroom := absurd hroom (Nat.not_lt_zero _)

theorem Emits.congr (hy : Emits y s bs t)
    (h : ∀ a : Acknowledgement, a.shape = s → x a = y a) : Emits x s bs t where
  fits a ha hroom := (h a ha).trans (hy.fits a ha hroom)
  full a ha hroom := by
    rw [h a ha]
    exact hy.full a ha hroom

theorem Emits.cast (hx : Emits x s bs t) (h : bs = cs) : Emits x s cs t := h ▸ hx

theorem emits_pure : Emits (pure ()) s [] s :=
  emits_nil fun a ha => by rw [← ha, grown_nil]; rfl

/-! ## Pieces -/

theorem emits_append (p : Piece) (comma : Bytes)
    (hp : ∀ a : Acknowledgement, a.shape = s → a.writer.refusal? p = none ∧
      a.writer.separator p = comma ∧ t = ⟨a.writer.scopesAfter p, Writer.separatorDueAfter p,
        Writer.valueDueAfter p, a.frames⟩) :
    Emits (append p) s (comma ++ p.bytes) t where
  fits a ha hroom := by
    obtain ⟨hnone, rfl, rfl⟩ := hp a ha
    refine append_ok ?_
    rw [Writer.append, hnone]
    exact if_pos hroom
  full a ha hroom := by
    obtain ⟨hnone, rfl, -⟩ := hp a ha
    have happend : Writer.append p a.writer = .error
        (.insufficientBuffer (a.writer.separator p ++ p.bytes).length a.writer.remaining)
        a.writer := by
      rw [Writer.append, hnone]
      exact if_neg (Nat.not_le.2 hroom)
    exact ⟨_, _, _, append_error happend⟩

variable {scopes : List Scope} {due : Bool} {frames : List Frame}

theorem emits_name (n : String) :
    Emits (append (.name n)) ⟨.object :: scopes, due, false, frames⟩
      (encode (comma due ++ quoted n ++ [':'])) ⟨.object :: scopes, false, true, frames⟩ := by
  have hbytes : encode (comma due ++ quoted n ++ [':'])
      = encode (comma due) ++ (Piece.name n).bytes := by
    simp [Piece.bytes, Piece.text]
  rw [hbytes]
  refine emits_append (.name n) (encode (comma due)) ?_
  rintro ⟨⟨written, spare, _, separatorDue, _⟩, _⟩ h
  cases h
  refine ⟨by simp [Writer.refusal?, Writer.atName], ?_, rfl⟩
  cases separatorDue <;> rfl

theorem emits_value (v : Value) :
    Emits (append (.value v)) ⟨scopes, due, true, frames⟩ (encode v.render)
      ⟨scopes, true, false, frames⟩ := by
  refine emits_append (.value v) [] ?_
  rintro ⟨⟨written, spare, _, _, _⟩, _⟩ h
  cases h
  refine ⟨by simp [Writer.refusal?, Writer.atName], by simp [Writer.separator], rfl⟩

theorem emits_opening :
    Emits (append (.opening .object)) ⟨scopes, due, true, frames⟩ (encode ['{'])
      ⟨.object :: scopes, false, false, frames⟩ := by
  refine emits_append (.opening .object) [] ?_
  rintro ⟨⟨written, spare, _, _, _⟩, _⟩ h
  cases h
  refine ⟨by simp [Writer.refusal?, Writer.atName], by simp [Writer.separator], rfl⟩

theorem emits_closing :
    Emits (append (.closing .object)) ⟨.object :: scopes, due, false, frames⟩ (encode ['}'])
      ⟨scopes, true, false, frames⟩ := by
  refine emits_append (.closing .object) [] ?_
  rintro ⟨⟨written, spare, _, _, _⟩, _⟩ h
  cases h
  refine ⟨by simp [Writer.refusal?], rfl, rfl⟩

/-! ## Framing calls -/

theorem emits_write_nil : Emits (write []) s [] s :=
  emits_nil fun a ha => by rw [← ha, grown_nil]; rfl

/-- Pieces that are written at once are appended one by one, up to the first that fails. -/
theorem write_cons (p : Piece) (ps : List Piece) (a : Acknowledgement) :
    (∀ b, (append p >>= fun _ => write ps) a = .ok () b → write (p :: ps) a = .ok () b) ∧
    (∀ e b, (append p >>= fun _ => write ps) a = .error e b →
      ∃ b', write (p :: ps) a = .error e b') := by
  cases hp : Writer.append p a.writer with
  | error e w =>
    have hall : appendAll (p :: ps) a.writer = .error e w := Attempt.bind_error hp
    rw [Attempt.bind_error (append_error hp), write_error hall]
    exact ⟨fun b h => (nomatch h), fun e' b h => by cases h; exact ⟨_, rfl⟩⟩
  | ok _ w =>
    have hall : appendAll (p :: ps) a.writer = appendAll ps w := Attempt.bind_ok hp
    rw [Attempt.bind_ok (append_ok hp)]
    cases hrest : appendAll ps w with
    | ok _ w' =>
      rw [write_ok hrest, write_ok (hall.trans hrest)]
      exact ⟨fun b h => h, fun e b h => (nomatch h)⟩
    | error e w' =>
      rw [write_error hrest, write_error (hall.trans hrest)]
      exact ⟨fun b h => (nomatch h), fun e' b h => by cases h; exact ⟨_, rfl⟩⟩

theorem emits_write_cons {p : Piece} {ps : List Piece} (hp : Emits (append p) s bs t)
    (hps : Emits (write ps) t cs u) : Emits (write (p :: ps)) s (bs ++ cs) u where
  fits a ha hroom := (write_cons p ps a).1 _ ((hp.bind hps).fits a ha hroom)
  full a ha hroom := by
    obtain ⟨required, available, b, he⟩ := (hp.bind hps).full a ha hroom
    obtain ⟨b', he'⟩ := (write_cons p ps a).2 _ _ he
    exact ⟨required, available, b', he'⟩

theorem emits_expectTop (call : Call) (admitted : Frame → Bool)
    (h : admitted (s.frames.head?.getD .root) = true) : Emits (expectTop call admitted) s [] s :=
  emits_nil fun a ha => by
    subst ha
    rw [expectTop, Attempt.get_bind, grown_nil]
    have htop : admitted a.top = true := h
    simp [htop]

theorem emits_push (frame : Frame) :
    Emits (push frame) s [] { s with frames := frame :: s.frames } :=
  emits_nil fun a ha => by subst ha; simp [push, grown, shape]

theorem emits_pop : Emits pop s [] { s with frames := s.frames.tail } :=
  emits_nil fun a ha => by subst ha; simp [pop, grown, shape]

/-! ## Blocks and components -/

/-- The description of a block as a further member. -/
def descriptionText : Option String → List Char
  | some text => ',' :: memberText (descriptionKey, .string text)
  | none => []

def openingText (name : String) (code : Nat) (version : Int) (description : Option String) :
    List Char :=
  quoted name ++ ':' :: '{' :: memberText (codeKey, .number (.integer code))
    ++ ',' :: memberText (versionKey, .number (.integer version))
    ++ descriptionText description ++ ',' :: quoted valueKey ++ [':']

/-- Behind the version come the description, where there is one, and the name of the value. -/
theorem emits_description (description : Option String) :
    Emits (write ((match description with
        | some text => [.name descriptionKey, .value (.string text)]
        | none => []) ++ [.name valueKey]))
      ⟨.object :: scopes, true, false, frames⟩
      (encode (descriptionText description ++ ',' :: quoted valueKey ++ [':']))
      ⟨.object :: scopes, false, true, frames⟩ := by
  have hlast : ∀ due, Emits (write [.name valueKey]) ⟨.object :: scopes, due, false, frames⟩
      (encode (comma due ++ quoted valueKey ++ [':']))
      ⟨.object :: scopes, false, true, frames⟩ := fun due =>
    (emits_write_cons (emits_name valueKey) emits_write_nil).cast (by simp)
  cases description with
  | none => exact (hlast true).cast (by simp [descriptionText])
  | some text =>
    have h := emits_write_cons (s := ⟨.object :: scopes, true, false, frames⟩)
      (emits_name descriptionKey) (emits_write_cons (emits_value (.string text)) (hlast true))
    exact h.cast (by simp [descriptionText, memberText])

theorem emits_blockOpening (name : String) (code : Nat) (version : Int)
    (description : Option String) :
    Emits (write (blockOpening name code version description))
      ⟨.object :: scopes, due, false, frames⟩
      (encode (comma due ++ openingText name code version description))
      ⟨.object :: .object :: scopes, false, true, frames⟩ := by
  have h := emits_write_cons (s := ⟨.object :: scopes, due, false, frames⟩) (emits_name name)
    (emits_write_cons emits_opening (emits_write_cons (emits_name codeKey)
      (emits_write_cons (emits_value (.number (.integer code)))
        (emits_write_cons (emits_name versionKey)
          (emits_write_cons (emits_value (.number (.integer version)))
            (emits_description description))))))
  refine (h.cast ?_).congr fun a _ => ?_
  · simp [openingText, memberText]
  · unfold blockOpening
    rw [List.append_assoc]
    rfl

theorem emits_beginStatus (name : String) (code : Nat) (version : Int)
    (description : Option String) (htop : (frames.head?.getD .root).isBlock = false) :
    Emits (beginStatus name code version description) ⟨.object :: scopes, due, false, frames⟩
      (encode (comma due ++ openingText name code version description))
      ⟨.object :: .object :: scopes, false, true,
        .statusBlock (scopes.length + 2) :: frames⟩ := by
  have hpush : Emits (get >>= fun a : Acknowledgement => push (.statusBlock a.writer.depth))
      ⟨.object :: .object :: scopes, false, true, frames⟩ []
      ⟨.object :: .object :: scopes, false, true, .statusBlock (scopes.length + 2) :: frames⟩ := by
    refine (emits_push (.statusBlock (scopes.length + 2))).congr fun a ha => ?_
    have hdepth : a.writer.depth = scopes.length + 2 := congrArg (·.scopes.length) ha
    rw [Attempt.get_bind, hdepth]
  have hadmitted : (!(frames.head?.getD .root).isBlock) = true := by simpa using htop
  have h := (emits_expectTop .beginStatus (fun top => !top.isBlock)
    (s := ⟨.object :: scopes, due, false, frames⟩) hadmitted).bind
    ((emits_blockOpening name code version description).bind hpush)
  exact h.cast (by simp)

theorem emits_endStatus :
    Emits endStatus ⟨.object :: scopes, due, false, .statusBlock (scopes.length + 1) :: frames⟩
      (encode ['}']) ⟨scopes, true, false, frames⟩ := by
  have h := (emits_write_cons
    (s := ⟨.object :: scopes, due, false, .statusBlock (scopes.length + 1) :: frames⟩)
    emits_closing emits_write_nil).bind emits_pop
  refine (h.cast (by simp)).congr fun a ha => ?_
  obtain ⟨⟨written, spare, _, _, _⟩, _⟩ := a
  cases ha
  rw [endStatus, Attempt.get_bind]
  simp [top, valueComplete, Writer.depth]

theorem memberText_block (name : String) (code : Nat) (version : Int)
    (description : Option String) (v : Value) :
    memberText (name, block code version description v)
      = openingText name code version description ++ v.render ++ ['}'] := by
  cases description <;>
    simp [openingText, descriptionText, memberText, block, blockMembers, render_object]

/-- A block is written as its value is rendered. -/
theorem emits_writeBlock (version : Int) (q : Accepted)
    (htop : (frames.head?.getD .root).isBlock = false) :
    Emits (writeBlock version q.1.name q.2) ⟨.object :: scopes, due, false, frames⟩
      (encode (comma due ++ memberText (blockMember version q)))
      ⟨.object :: scopes, true, false, frames⟩ := by
  have h := Emits.bind (s := ⟨.object :: scopes, due, false, frames⟩)
    (emits_beginStatus q.1.name Status.ok version (some success) htop)
    ((emits_value q.2).bind emits_endStatus)
  exact h.cast (by simp [blockMember, memberText_block])

theorem emits_beginComponent (name : String) :
    Emits (beginComponent name) ⟨.object :: scopes, due, false, []⟩
      (encode (comma due ++ quoted name ++ ':' :: '{'
        :: memberText (Component.markerKey, .string Component.markerValue)))
      ⟨.object :: .object :: scopes, true, false, [.component]⟩ := by
  have hopen := emits_write_cons (s := ⟨.object :: scopes, due, false, []⟩) (emits_name name)
    (emits_write_cons emits_opening (emits_write_cons (emits_name Component.markerKey)
      (emits_write_cons (emits_value (.string Component.markerValue)) emits_write_nil)))
  have h := (emits_expectTop .beginComponent Frame.isRoot
    (s := ⟨.object :: scopes, due, false, []⟩) rfl).bind (hopen.bind (emits_push .component))
  exact h.cast (by simp [memberText])

theorem emits_endComponent :
    Emits endComponent ⟨.object :: scopes, due, false, [.component]⟩ (encode ['}'])
      ⟨scopes, true, false, []⟩ := by
  have h := (emits_expectTop .endComponent Frame.isComponent
    (s := ⟨.object :: scopes, due, false, [.component]⟩) rfl).bind
    ((emits_write_cons emits_closing emits_write_nil).bind emits_pop)
  exact h.cast (by simp)

/-! ## Payloads -/

/-- Between the members of the root. -/
def atRoot (due : Bool) : Shape := ⟨[.object], due, false, []⟩

/-- Behind a member of an open component. -/
def inside : Shape := ⟨[.object, .object], true, false, [.component]⟩

section Blocks

variable (version : Int) (q : Accepted) (accepted : List Accepted)

/-- Writes the blocks from `q` on, in the component of `q`. -/
def writeOn : Attempt Acknowledgement Unit :=
  writeBlock version q.1.name q.2 >>= fun _ => writeBlocks version q.1.component accepted

theorem writeBlocks_of_eq {component : Option String} (h : q.1.component = component) :
    writeBlocks version component (q :: accepted) = writeOn version q accepted := by
  obtain ⟨p, v⟩ := q
  rw [writeBlocks, if_neg (by simpa using h)]
  rfl

theorem writeBlocks_of_ne {component : Option String} (h : q.1.component ≠ component) :
    writeBlocks version component (q :: accepted)
      = leave component >>= fun _ => enter q.1.component >>= fun _ =>
        writeOn version q accepted := by
  obtain ⟨p, v⟩ := q
  rw [writeBlocks, if_pos h]
  rfl

end Blocks

/-- Blocks are written as the members of `acceptedValue` are rendered. Where a component is open,
its blocks and its end come first. -/
theorem emits_writeBlocks (version : Int) (accepted : List Accepted) :
    (∀ due, Emits (writeBlocks version none accepted) (atRoot due)
      (encode (membersText due (acceptedMembers version accepted)))
      (atRoot (due || !accepted.isEmpty))) ∧
    (∀ c, Emits (writeBlocks version (some c) accepted) inside
      (encode (membersText true ((accepted.takeWhile (·.1.component = some c)).map
          (blockMember version))
        ++ '}' :: membersText true (acceptedMembers version
          (accepted.dropWhile (·.1.component = some c)))))
      (atRoot true)) := by
  induction accepted with
  | nil =>
    refine ⟨fun due => ?_, fun c => emits_endComponent⟩
    rw [List.isEmpty_nil, Bool.not_true, Bool.or_false]
    exact emits_pure
  | cons q accepted ih =>
    obtain ⟨ihRoot, ihInside⟩ := ih
    -- Wherever the writer was before, the same calls start a new member.
    have hnext : ∀ due, Emits (enter q.1.component >>= fun _ => writeOn version q accepted)
        (atRoot due) (encode (membersText due (acceptedMembers version (q :: accepted))))
        (atRoot true) := by
      intro due
      cases hc : q.1.component with
      | none =>
        have h := Emits.bind (s := atRoot due) (emits_writeBlock version q rfl) (ihRoot true)
        rw [acceptedMembers_root version hc, writeOn, hc]
        exact h.cast (by simp)
      | some c =>
        have h := Emits.bind (s := atRoot due) (emits_beginComponent c)
          (Emits.bind (s := inside) (emits_writeBlock version q rfl) (ihInside c))
        rw [acceptedMembers_component version hc, writeOn, hc]
        refine h.cast ?_
        simp [memberText, wrapper, render_object]
    refine ⟨fun due => ?_, fun c => ?_⟩
    · rw [List.isEmpty_cons, Bool.not_false, Bool.or_true]
      by_cases hc : q.1.component = none
      · have h := hnext due
        rw [hc] at h
        rw [writeBlocks_of_eq version q accepted hc]
        exact h
      · rw [writeBlocks_of_ne version q accepted hc]
        exact hnext due
    · by_cases hc : q.1.component = some c
      · have h := Emits.bind (s := inside) (emits_writeBlock version q rfl) (ihInside c)
        rw [writeBlocks_of_eq version q accepted hc, writeOn, hc,
          List.takeWhile_cons_of_pos (by simpa using hc),
          List.dropWhile_cons_of_pos (by simpa using hc)]
        exact h.cast (by simp)
      · have h := Emits.bind (s := inside) emits_endComponent (hnext true)
        rw [writeBlocks_of_ne version q accepted hc,
          List.takeWhile_cons_of_neg (by simpa using hc),
          List.dropWhile_cons_of_neg (by simpa using hc)]
        exact h.cast (by simp)

theorem emits_finish (due : Bool) :
    Emits finish (atRoot due) (encode ['}']) ⟨[], true, false, []⟩ := by
  have h := (emits_expectTop .finish Frame.isRoot (s := atRoot due) rfl).bind
    (emits_write_cons emits_closing emits_write_nil)
  exact h.cast (by simp)

theorem emits_writePayload (version : Int) (accepted : List Accepted) :
    Emits (writePayload version accepted) (atRoot false)
      (encode (membersText false (acceptedMembers version accepted) ++ ['}']))
      ⟨[], true, false, []⟩ :=
  (((emits_writeBlocks version accepted).1 false).bind (emits_finish _)).cast (by simp)

theorem start_ofRegion (capacity : Nat) :
    ∃ a w, start (Writer.ofRegion (List.replicate (capacity + 1) 0)) = .ok a w ∧
      a.shape = atRoot false ∧ a.writer.written = encode ['{'] ∧ a.writer.remaining = capacity :=
  ⟨⟨⟨encode ['{'], List.replicate capacity 0, [.object], false, false⟩, []⟩, _, rfl, rfl, rfl,
    List.length_replicate⟩

section Within

variable {capacity : Nat} {v : Value}

theorem within_ok (hx : Emits x (atRoot false) bs t) (hv : v.bytes = encode ['{'] ++ bs)
    (h : v.bytes.length ≤ capacity) : within capacity x = .ok v.bytes := by
  have hbrace : (encode ['{']).length = 1 := rfl
  rw [hv] at h ⊢
  rw [List.length_append, hbrace] at h
  cases capacity with
  | zero => omega
  | succ capacity =>
    obtain ⟨a, w, hstart, hshape, hwritten, hroom⟩ := start_ofRegion capacity
    have hwrite := hx.fits a hshape (by omega)
    simp only [within, hstart, hwrite]
    rw [grown, hwritten]

theorem within_full (hx : Emits x (atRoot false) bs t) (hv : v.bytes = encode ['{'] ++ bs)
    (h : capacity < v.bytes.length) :
    ∃ required available, within capacity x = .error (.insufficientBuffer required available) := by
  have hbrace : (encode ['{']).length = 1 := rfl
  rw [hv, List.length_append, hbrace] at h
  cases capacity with
  | zero => exact ⟨_, _, rfl⟩
  | succ capacity =>
    obtain ⟨a, w, hstart, hshape, -, hroom⟩ := start_ofRegion capacity
    obtain ⟨required, available, a', hwrite⟩ := hx.full a hshape (by omega)
    refine ⟨required, available, ?_⟩
    simp only [within, hstart, hwrite]

end Within

theorem bytes_object (ms : Members) :
    (Value.object ms).bytes = encode ['{'] ++ encode (membersText false ms ++ ['}']) := by
  rw [Value.bytes, render_object]
  simp

section Payload

variable (capacity : Nat) (version : Int) (accepted : List Accepted)

theorem payload_ok (h : (acceptedValue version accepted).bytes.length ≤ capacity) :
    payload capacity version accepted = .ok (acceptedValue version accepted).bytes :=
  within_ok (emits_writePayload version accepted) (bytes_object _) h

theorem payload_full (h : capacity < (acceptedValue version accepted).bytes.length) :
    ∃ required available, payload capacity version accepted
      = .error (.insufficientBuffer required available) :=
  within_full (emits_writePayload version accepted) (bytes_object _) h

end Payload

end DeviceTwin.Acknowledgement
