import DeviceTwin.Proofs.Document.Forward
import DeviceTwin.Proofs.Document.Rounds

/-!
# What one call does to a cursor

The tokens of a stream need not be those of a value: containers may be left open, closed twice or
have any depth. Whatever the tokens are, a call passes some of them, leaves components and enters
others, and then ends, yields a name or fails. Where it fails the cursor may be left in the middle
of this.

Results:
* `slides_readValue`, `slides_skipValue`, `slides_findSection`: calls that change the stream and
  nothing else.
* `walks_walk`: a walk passes members and then stops in one of three ways.
* `continues_nextProperty`: all that asking for the next property can do.
-/
namespace DeviceTwin

open Attempt (final final_bind)

namespace TokenStream

variable {α β : Type}

/-- From this stream the computation does not move backwards. -/
def Forward (s : TokenStream) (x : Attempt TokenStream α) : Prop := s.Reaches (final (x s))

namespace Forward

variable {s : TokenStream}

theorem of_eq {x : Attempt TokenStream α} (h : final (x s) = s) : s.Forward x := by
  rw [Forward, h]
  exact .refl

theorem bind {x : Attempt TokenStream α} {f : α → Attempt TokenStream β} (hx : s.Forward x)
    (hf : ∀ a s', Forward s' (f a)) : s.Forward (x >>= f) :=
  final_bind (r := Reaches) Reaches.trans hx fun a s' _ => hf a s'

theorem map {x : Attempt TokenStream α} (f : α → β) (hx : s.Forward x) : s.Forward (f <$> x) :=
  hx.bind fun _ _ => of_eq rfl

theorem get_bind {f : TokenStream → Attempt TokenStream β} (hf : s.Forward (f s)) :
    s.Forward (get >>= f) :=
  hf

end Forward

theorem forward_read (fuel : Nat) :
    (∀ s : TokenStream, s.Forward (readWithin fuel)) ∧
    (∀ sofar, ∀ s : TokenStream, s.Forward (readMembers fuel sofar)) ∧
    (∀ s : TokenStream, s.Forward (readItems fuel)) := by
  induction fuel with
  | zero => exact ⟨fun _ => .of_eq rfl, fun _ _ => .of_eq rfl, fun _ => .of_eq rfl⟩
  | succ fuel ih =>
    obtain ⟨hvalue, hmembers, hitems⟩ := ih
    refine ⟨fun s => ?_, fun sofar s => ?_, fun s => ?_⟩
    · rw [Forward, readWithin]
      dsimp only
      split
      · exact .refl
      · exact .refl
      · exact .refl
      · exact .refl
      · exact .refl
      · exact (hmembers [] s).map Json.Value.object
      · exact (hitems s).map Json.Value.array
      · exact .refl
    · rw [readMembers]
      refine .bind (reaches_advance s) fun _ s₁ => .get_bind ?_
      split
      · exact .of_eq rfl
      · refine .bind (reaches_advance s₁) fun _ s₂ => ?_
        exact .bind (hvalue s₂) fun _ s₃ => hmembers _ s₃
      · exact .of_eq rfl
    · rw [readItems]
      refine .bind (reaches_advance s) fun _ s₁ => .get_bind ?_
      split
      · exact .of_eq rfl
      · exact .bind (hvalue s₁) fun v s₂ => (hitems s₂).map (v :: ·)

theorem eq_of_token? {s : TokenStream} {t : Token} {d : Nat} (h : s.token? = some t)
    (hd : s.depth = d) : s = ⟨some (t, d), s.ahead⟩ := by
  obtain ⟨current, ahead⟩ := s
  cases current with
  | none => cases h
  | some u =>
    cases h
    cases hd
    rfl

theorem reaches_readValue (s : TokenStream) : s.Reaches (final (readValue s)) :=
  (forward_read _).1 s

end TokenStream

namespace Cursor

variable {α β : Type}

/-! ## Calls that change the stream only -/

/-- The second cursor is the first with the stream moved forward. -/
def Slid (c c' : Cursor) : Prop :=
  ∃ s, c.stream.Reaches s ∧ c' = { c with stream := s }

theorem Slid.trans {c c' c'' : Cursor} (h : c.Slid c') (h' : c'.Slid c'') : c.Slid c'' := by
  obtain ⟨s, hs, rfl⟩ := h
  obtain ⟨s', hs', rfl⟩ := h'
  exact ⟨s', hs.trans hs', rfl⟩

/-- From this cursor the computation changes the stream only, and does not move it backwards. -/
def Slides (c : Cursor) (x : Attempt Cursor α) : Prop := c.Slid (final (x c))

namespace Slides

variable {c : Cursor}

theorem of_eq {x : Attempt Cursor α} (h : final (x c) = c) : c.Slides x :=
  ⟨c.stream, .refl, h⟩

theorem onStream {x : Attempt TokenStream α} (hx : ∀ s : TokenStream, s.Reaches (final (x s)))
    (c : Cursor) : c.Slides (onStream x) := by
  have h := hx c.stream
  unfold Slides Cursor.onStream
  cases hc : x c.stream with
  | ok a s => rw [hc] at h; exact ⟨s, h, rfl⟩
  | error e s => rw [hc] at h; exact ⟨s, h, rfl⟩

theorem bind {x : Attempt Cursor α} {f : α → Attempt Cursor β} (hx : c.Slides x)
    (hf : ∀ a c', Slides c' (f a)) : c.Slides (x >>= f) :=
  final_bind (r := Slid) Slid.trans hx fun a c' _ => hf a c'

theorem get_bind {f : Cursor → Attempt Cursor β} (hf : c.Slides (f c)) : c.Slides (get >>= f) :=
  hf

end Slides

theorem slides_advance (c : Cursor) : c.Slides (onStream TokenStream.advance) :=
  .onStream TokenStream.reaches_advance c

theorem slides_skipMember (c : Cursor) : c.Slides (onStream TokenStream.skipMember) :=
  .onStream TokenStream.reaches_skipMember c

theorem slides_skipValue (c : Cursor) : c.Slides skipValue := by
  rw [skipValue]
  refine .get_bind ?_
  split
  · exact slides_skipMember c
  · exact .of_eq rfl

theorem slides_readValue (c : Cursor) : c.Slides readValue := by
  rw [readValue]
  refine .get_bind ?_
  split
  · refine .bind (slides_advance c) fun _ c₁ => ?_
    refine .bind (.onStream TokenStream.reaches_readValue c₁) fun v c₂ => ?_
    exact .bind (slides_advance c₂) fun _ c₃ => .of_eq rfl
  · exact .of_eq rfl

theorem slides_findSection (name : String) (fuel : Nat) (c : Cursor) :
    c.Slides (findSection name fuel) := by
  induction fuel generalizing c with
  | zero => exact .of_eq rfl
  | succ fuel ih =>
    rw [findSection]
    refine .get_bind ?_
    dsimp only
    split
    · split
      · split
        · refine .bind (slides_advance c) fun _ c₁ => ?_
          exact .bind (slides_advance c₁) fun _ c₂ => .of_eq rfl
        · exact .of_eq rfl
      · exact .bind (slides_skipMember c) fun _ c₁ => ih c₁
    · exact .of_eq rfl
    · exact .of_eq rfl

/-- On the way to the walked object its depth is noted, unless the stream is not on a document. -/
theorem enterSection_cases (c : Cursor) :
    (∃ e, enterSection c = .error e c) ∨
      Slid { c with memberDepth := walkedDepth c.kind + 1 } (final (enterSection c)) := by
  rw [enterSection, Attempt.get_bind]
  by_cases hdoc : c.stream.atDocument = true
  · rw [if_pos hdoc]
    refine .inr ?_
    by_cases hk : c.kind = .documentGet
    · have hdepth : walkedDepth c.kind + 1 = 2 := by rw [hk]; rfl
      have hpath : Slides { c with memberDepth := 2 } (do
          onStream TokenStream.advance
          findSection c.filter.section ((← get).stream.ahead.length + 1)) := by
        refine .bind (slides_advance _) fun _ c₁ => ?_
        exact .get_bind (slides_findSection _ _ c₁)
      dsimp only
      rw [hdepth, if_pos hk]
      exact hpath
    · have hdepth : walkedDepth c.kind + 1 = 1 := by
        cases hkind : c.kind with
        | documentGet => exact absurd hkind hk
        | desiredPatch | reportedAck => rfl
      have hpath : Slides { c with memberDepth := 1 } (do
          onStream TokenStream.advance
          return true) :=
        .bind (slides_advance _) fun _ c₁ => .of_eq rfl
      dsimp only
      rw [hdepth, if_neg hk]
      exact hpath
  · rw [if_neg hdoc]
    exact .inl ⟨_, rfl⟩

/-! ## Walks -/

/-- The second cursor is the first with tokens passed, components left and others entered. A
component is entered where it is known and begins with its marker. -/
inductive Passes : Cursor → Cursor → Prop where
  | refl (c : Cursor) : Passes c c
  | moved {c : Cursor} {s : TokenStream} (h : c.stream.Reaches s) : Passes c { c with stream := s }
  | left (c : Cursor) : Passes c { c with component := none }
  | entered {c : Cursor} {name : String} {d d₁ d₂ d₃ : Nat} {t : Placed} {rest : List Placed}
      (hknown : c.registry.contains name = true)
      (hs : c.stream = ⟨some (.propertyName name, d), (.beginObject, d₁)
        :: (.propertyName Component.markerKey, d₂) :: (.string Component.markerValue, d₃)
        :: t :: rest⟩) :
      Passes c { c with component := some name, stream := ⟨some t, rest⟩ }
  | trans {c c' c'' : Cursor} (h : Passes c c') (h' : Passes c' c'') : Passes c c''

theorem Slid.passes {c c' : Cursor} (h : c.Slid c') : Passes c c' := by
  obtain ⟨s, hs, rfl⟩ := h
  exact .moved hs

namespace Passes

variable {c c' : Cursor} (h : Passes c c')

include h

theorem reaches : c.stream.Reaches c'.stream := by
  induction h with
  | refl c => exact .refl
  | moved h => exact h
  | left c => exact .refl
  | entered hknown hs =>
    rw [hs]
    exact .moved ⟨[_, _, _], rfl⟩
  | trans _ _ ih ih' => exact ih.trans ih'

/-- Everything but the stream and the component stays. -/
theorem frame : c'.registry = c.registry ∧ c'.kind = c.kind ∧ c'.progress = c.progress ∧
    c'.memberDepth = c.memberDepth := by
  induction h with
  | refl c | moved h | left c | entered hknown hs => exact ⟨rfl, rfl, rfl, rfl⟩
  | trans _ _ ih ih' =>
    obtain ⟨hr, hk, hp, hd⟩ := ih
    obtain ⟨hr', hk', hp', hd'⟩ := ih'
    exact ⟨hr'.trans hr, hk'.trans hk, hp'.trans hp, hd'.trans hd⟩

end Passes

/-- The marker of a component stands in the next three tokens. -/
theorem ahead_of_atComponent {s : TokenStream} (h : atComponent s = true) :
    ∃ d₁ d₂ d₃ rest, s.ahead = (.beginObject, d₁) :: (.propertyName Component.markerKey, d₂)
      :: (.string Component.markerValue, d₃) :: rest := by
  obtain ⟨current, ahead⟩ := s
  rw [atComponent, Bool.and_eq_true, Bool.and_eq_true] at h
  obtain ⟨⟨h₁, h₂⟩, h₃⟩ := h
  have hopen := of_decide_eq_true h₁
  have hkey := of_decide_eq_true h₂
  have hvalue := of_decide_eq_true h₃
  rcases ahead with _ | ⟨⟨t₁, d₁⟩, _ | ⟨⟨t₂, d₂⟩, _ | ⟨⟨t₃, d₃⟩, rest⟩⟩⟩
  · cases hopen
  · cases hkey
  · cases hvalue
  · obtain rfl : t₁ = .beginObject := Option.some.inj hopen
    obtain rfl : t₂ = .propertyName Component.markerKey := Option.some.inj hkey
    obtain rfl : t₃ = .string Component.markerValue := Option.some.inj hvalue
    exact ⟨d₁, d₂, d₃, rest, rfl⟩

/-- A component is entered on the token behind its marker, if there is one. -/
theorem passes_enterComponent {c : Cursor} {name : String}
    (hname : c.stream.token? = some (.propertyName name)) (hmarked : atComponent c.stream = true)
    (hknown : c.registry.contains name = true) : Passes c (final (enterComponent name c)) := by
  obtain ⟨d₁, d₂, d₃, rest, hahead⟩ := ahead_of_atComponent hmarked
  obtain ⟨⟨current, ahead⟩, registry, kind, filter, progress, component, memberDepth⟩ := c
  dsimp only at hahead hmarked hknown
  subst hahead
  cases current with
  | none => cases hname
  | some t₀ =>
    obtain ⟨token, d⟩ := t₀
    obtain rfl : token = .propertyName name := Option.some.inj hname
    cases rest with
    | nil => exact .moved (.moved ⟨[_, _], rfl⟩)
    | cons t rest => exact .entered hknown rfl

/-- How a walk stops behind the members that it has passed. -/
inductive Walked (c : Cursor) :
    EStateM.Result PropertyError Cursor (Option Property) → Prop where
  | ended {c' : Cursor} (h : Passes c c') : Walked c (.ok none { c' with progress := .ended })
  | yielded {c' : Cursor} {name : String} {ahead : List Placed} (h : Passes c c')
      (hs : c'.stream = ⟨some (.propertyName name, c'.propertyDepth), ahead⟩)
      (hrole : c'.role name = .property) :
      Walked c (.ok (some ⟨c'.component, name⟩)
        { c' with progress := .yielded name c'.propertyDepth })
  | failed {c' : Cursor} {e : PropertyError} (h : Passes c c') : Walked c (.error e c')

theorem Walked.behind {c c' : Cursor} (h : Passes c c')
    {outcome : EStateM.Result PropertyError Cursor (Option Property)} (hw : Walked c' outcome) :
    Walked c outcome := by
  cases hw with
  | ended h' => exact .ended (h.trans h')
  | yielded h' hs hrole => exact .yielded (h.trans h') hs hrole
  | failed h' => exact .failed (h.trans h')

/-- From this cursor the computation is a walk. -/
def Walks (c : Cursor) (x : Attempt Cursor (Option Property)) : Prop := Walked c (x c)

namespace Walks

variable {c : Cursor}

theorem get_bind {f : Cursor → Attempt Cursor (Option Property)} (hf : c.Walks (f c)) :
    c.Walks (get >>= f) :=
  hf

theorem bind {x : Attempt Cursor α} {f : α → Attempt Cursor (Option Property)}
    (hx : Passes c (final (x c))) (hf : ∀ a c', Walks c' (f a)) : c.Walks (x >>= f) := by
  unfold Walks
  cases h : x c with
  | ok a c' =>
    rw [h] at hx
    rw [Attempt.bind_ok h]
    exact (hf a c').behind hx
  | error e c' =>
    rw [h] at hx
    rw [Attempt.bind_error h]
    exact .failed hx

end Walks

theorem eq_of_role_component {c : Cursor} {name : String} (h : c.role name = .component) :
    atComponent c.stream = true ∧ c.registry.contains name = true := by
  rw [role] at h
  split at h
  · cases h
  split at h
  · split at h <;> cases h
  split at h
  · next hboth => exact Bool.and_eq_true_iff.1 hboth
  · cases h

/-- A walk passes members and then stops in one of three ways. -/
theorem walks_walk (fuel : Nat) (c : Cursor) : c.Walks (walk fuel) := by
  induction fuel generalizing c with
  | zero => exact .failed (.refl c)
  | succ fuel ih =>
    rw [walk]
    refine .get_bind ?_
    dsimp only
    split
    · split
      · refine .bind (.left c) fun _ c₁ => ?_
        exact .bind (slides_advance c₁).passes fun _ => ih
      · split
        · exact .ended (.refl c)
        · exact .failed (.refl c)
    · next name hname =>
      split
      · next hdepth =>
        split
        · exact .bind (slides_skipMember c).passes fun _ => ih
        · next hrole =>
          obtain ⟨hmarked, hknown⟩ := eq_of_role_component hrole
          exact .bind (passes_enterComponent hname hmarked hknown) fun _ => ih
        · next hrole =>
          rw [hdepth]
          exact .yielded (.refl c) (TokenStream.eq_of_token? hname hdepth) hrole
      · exact .failed (.refl c)
    · exact .failed (.refl c)
    · exact .failed (.refl c)

/-! ## The next property -/

/-- All that asking for the next property can do. -/
inductive Continues (c : Cursor) :
    EStateM.Result PropertyError Cursor (Option Property) → Prop where
  | finished (hp : c.progress = .ended) : Continues c (.ok none c)
  | refused {e : PropertyError} : Continues c (.error e c)
  /-- The walk begins, at the depth that was noted for it. -/
  | begins {c' : Cursor} {outcome : EStateM.Result PropertyError Cursor (Option Property)}
      (hp : c.progress = .start)
      (h : Slid { c with memberDepth := walkedDepth c.kind + 1 } c') (hw : Walked c' outcome) :
      Continues c outcome
  /-- The walk goes on behind the value that was yielded last. -/
  | resumes {name : String} {depth : Nat}
      {outcome : EStateM.Result PropertyError Cursor (Option Property)}
      (hp : c.progress = .yielded name depth) (hr : isConsumed c.stream name depth = true)
      (hw : Walked c outcome) : Continues c outcome

theorem continues_nextProperty (c : Cursor) : Continues c (nextProperty c) := by
  rw [nextProperty, Attempt.get_bind]
  cases hp : c.progress with
  | ended => exact .finished hp
  | yielded name depth =>
    dsimp only
    by_cases hr : isConsumed c.stream name depth = true
    · rw [if_pos hr]
      exact .resumes hp hr (walks_walk _ c)
    · rw [if_neg hr]
      exact .refused
  | start =>
    dsimp only
    cases henter : enterSection c with
    | error e c' =>
      rw [Attempt.bind_error henter]
      rcases enterSection_cases c with ⟨e', heq⟩ | hslides
      · rw [henter] at heq
        cases heq
        exact .refused
      · rw [henter] at hslides
        exact .begins hp hslides (.failed (.refl _))
    | ok found c' =>
      rw [Attempt.bind_ok henter]
      rcases enterSection_cases c with ⟨e', heq⟩ | hslides
      · rw [henter] at heq
        cases heq
      · rw [henter] at hslides
        cases found with
        | true => exact .begins hp hslides (walks_walk _ c')
        | false => exact .begins hp hslides (.ended (.refl _))

theorem Continues.walked {c : Cursor}
    {outcome : EStateM.Result PropertyError Cursor (Option Property)} (h : Continues c outcome) :
    (c.progress = .ended ∧ outcome = .ok none c) ∨ (∃ e, outcome = .error e c) ∨
      ∃ c', Walked c' outcome := by
  cases h with
  | finished hp => exact .inl ⟨hp, rfl⟩
  | refused => exact .inr (.inl ⟨_, rfl⟩)
  | begins _ _ hw => exact .inr (.inr ⟨_, hw⟩)
  | resumes _ _ hw => exact .inr (.inr ⟨_, hw⟩)

theorem of_nextProperty {c c' : Cursor} {p : Property} (h : nextProperty c = .ok (some p) c') :
    c'.progress = .yielded p.name c'.propertyDepth ∧ p.component = c'.component ∧
      ∃ ahead, c'.stream = ⟨some (.propertyName p.name, c'.propertyDepth), ahead⟩ := by
  have hcontinues := continues_nextProperty c
  rw [h] at hcontinues
  rcases hcontinues.walked with ⟨-, hno⟩ | ⟨_, hno⟩ | ⟨_, hw⟩
  · cases hno
  · cases hno
  · cases hw with
    | yielded _ hs _ => exact ⟨rfl, rfl, _, hs⟩

end Cursor
end DeviceTwin
