import DeviceTwin.Proofs.Document.Calls
import DeviceTwin.Proofs.Document.Passing

/-!
# Any calls on any tokens

The caller may do to a cursor and its stream whatever it likes, and the tokens in the stream need
not be those of a value. Then no more can be said of the properties that are yielded than what the
cursor checks by itself, and what it remembers of the tokens that were passed.

Results:
* `Rooted.passes`: the component that is being walked was marked, wherever the stream goes.
* `Steady.touch`: what a single call preserves, whether it succeeds or fails.
* `reaches_touch`, `ended_touch`: no call moves a stream backwards or ends the end of a walk.
* `safe_touchAll`: names are yielded once, in their order, at their depth and not out of place.
-/
namespace DeviceTwin

open Attempt (final)

namespace TokenStream

/-- How many of the tokens the stream has taken. -/
def taken (tokens : List Placed) (s : TokenStream) : Nat := tokens.length - s.ahead.length

/-- In front of the stream, or where it is, the tokens name a component and mark it as one. -/
def Marked (tokens : List Placed) (name : String) (s : TokenStream) : Prop :=
  ∃ d d₁ d₂ d₃ rest t, (.propertyName name, d) :: (.beginObject, d₁)
      :: (.propertyName Component.markerKey, d₂) :: (.string Component.markerValue, d₃)
      :: rest <:+ tokens ∧ s.current? = some t ∧ t :: s.ahead <:+ rest

theorem Marked.moved {tokens : List Placed} {name : String} {s s' : TokenStream}
    (h : Marked tokens name s) (hs : s.Reaches s') : Marked tokens name s' := by
  obtain ⟨d, d₁, d₂, d₃, rest, t, hmark, ht, hrest⟩ := h
  cases hs with
  | refl => exact ⟨d, d₁, d₂, d₃, rest, t, hmark, ht, hrest⟩
  | moved h' =>
    exact ⟨d, d₁, d₂, d₃, rest, _, hmark, rfl, (h'.trans (List.suffix_cons _ _)).trans hrest⟩

theorem Reaches.suffix_of_current {tokens rest : List Placed} {t : Placed}
    (h : (ofTokens tokens).Reaches ⟨some t, rest⟩) : t :: rest <:+ tokens := by
  cases h with
  | moved h => exact h

theorem Reaches.length_lt {s s' : TokenStream} (h : s.Reaches s') (hne : s ≠ s') :
    s'.ahead.length < s.ahead.length := by
  cases h with
  | refl => exact absurd rfl hne
  | moved h => exact h.length_le

end TokenStream

open TokenStream (ofTokens taken Marked)

namespace Cursor

/-- What a caller does to a cursor or to its stream. -/
inductive Touch where
  | call (call : Call)
  /-- The stream is moved to the last token of the value that it is on. -/
  | pass
  deriving DecidableEq, Repr

namespace Watch

/-- What is seen of a call for the next property. -/
def record (w : Watch) : EStateM.Result PropertyError Cursor (Option Property) → Watch
  | .ok (some p) c => ⟨c, w.yielded ++ [(p, c.stream)]⟩
  | .ok none c => { w with cursor := c }
  | .error _ c => { w with cursor := c }

def touch (w : Watch) : Touch → Watch
  | .call call => w.after call
  | .pass => { w with cursor := final (onStream TokenStream.skipValue w.cursor) }

def touchAll (w : Watch) : List Touch → Watch
  | [] => w
  | t :: ts => (w.touch t).touchAll ts

def moveTo (w : Watch) (s : TokenStream) : Watch :=
  { w with cursor := { w.cursor with stream := s } }

/-- A call asks for the next property or moves the stream, and nothing else. -/
theorem touch_cases (w : Watch) (t : Touch) :
    w.touch t = w.record (nextProperty w.cursor) ∨
      ∃ s, w.cursor.stream.Reaches s ∧ w.touch t = w.moveTo s := by
  have hslid : ∀ {c : Cursor}, w.cursor.Slid c →
      ∃ s, w.cursor.stream.Reaches s ∧ { w with cursor := c } = w.moveTo s := by
    rintro _ ⟨s, hs, rfl⟩
    exact ⟨s, hs, rfl⟩
  cases t with
  | pass => exact .inr (hslid (Slides.onStream TokenStream.reaches_skipValue _))
  | call call =>
    cases call with
    | next => exact .inl rfl
    | read => exact .inr (hslid (slides_readValue _))
    | skip => exact .inr (hslid (slides_skipValue _))
    | advance => exact .inr (hslid (slides_advance _))

end Watch

/-! ## What a cursor remembers -/

section Safety

variable {tokens : List Placed} {registry : ComponentRegistry} {kind : ResponseKind}

variable (tokens registry kind) in
/-- The cursor is on the tokens, in a registered component that they mark or in none. -/
structure Rooted (c : Cursor) : Prop where
  registry_eq : c.registry = registry
  kind_eq : c.kind = kind
  reached : (ofTokens tokens).Reaches c.stream
  component : ∀ name, c.component = some name →
    registry.contains name = true ∧ Marked tokens name c.stream

namespace Rooted

theorem moved {c : Cursor} {s : TokenStream} (h : Rooted tokens registry kind c)
    (hs : c.stream.Reaches s) : Rooted tokens registry kind { c with stream := s } where
  registry_eq := h.registry_eq
  kind_eq := h.kind_eq
  reached := h.reached.trans hs
  component name hname := ⟨(h.component name hname).1, (h.component name hname).2.moved hs⟩

theorem at_progress {c : Cursor} (h : Rooted tokens registry kind c) (progress : Progress)
    (depth : Nat) : Rooted tokens registry kind { c with
      progress := progress
      memberDepth := depth } :=
  ⟨h.registry_eq, h.kind_eq, h.reached, h.component⟩

theorem passes {c c' : Cursor} (h : Rooted tokens registry kind c) (hp : Passes c c') :
    Rooted tokens registry kind c' := by
  induction hp with
  | refl c => exact h
  | moved hs => exact h.moved hs
  | left c => exact ⟨h.registry_eq, h.kind_eq, h.reached, fun _ hno => by cases hno⟩
  | @entered c name d d₁ d₂ d₃ t rest hknown hs =>
    have hreached := h.reached
    rw [hs] at hreached
    have hmark := hreached.suffix_of_current
    refine ⟨h.registry_eq, h.kind_eq, hreached.trans (.moved ⟨[_, _, _], rfl⟩),
      fun other hother => ?_⟩
    cases hother
    rw [h.registry_eq] at hknown
    exact ⟨hknown, d, d₁, d₂, d₃, t :: rest, t, hmark, rfl, List.suffix_rfl⟩
  | trans _ _ ih ih' => exact ih' (ih h)

end Rooted

/-- The depth at which a property is yielded: that of the members of the walked object, or of those
of a component in it. -/
def nameDepth (kind : ResponseKind) (p : Property) : Nat :=
  walkedDepth kind + 1 + if p.component.isSome then 1 else 0

variable (tokens registry kind) in
/-- The property was yielded on its name, and the name has a right to be there. -/
structure Found (p : Property) (s : TokenStream) : Prop where
  among : (ofTokens tokens).Reaches s
  on_name : s.current? = some (.propertyName p.name, nameDepth kind p)
  not_reserved : p.name ≠ Document.versionKey ∧ p.name ≠ Document.metadataKey
  not_marker : p.component.isSome = true → p.name ≠ Component.markerKey
  marked : ∀ name, p.component = some name →
    registry.contains name = true ∧ Marked tokens name s

theorem of_role_property {c : Cursor} {name : String} (h : c.role name = .property) :
    (name ≠ Document.versionKey ∧ name ≠ Document.metadataKey) ∧
      (c.component.isSome = true → name ≠ Component.markerKey) := by
  rw [role] at h
  split at h
  · cases h
  next hreserved =>
  have hnames : name ≠ Document.versionKey ∧ name ≠ Document.metadataKey := by
    simpa [Document.isReserved] using hreserved
  refine ⟨hnames, fun hin => ?_⟩
  rw [if_pos hin] at h
  split at h
  · cases h
  · assumption

theorem nameDepth_eq {c : Cursor} (hd : c.memberDepth = walkedDepth kind + 1) (name : String) :
    nameDepth kind ⟨c.component, name⟩ = c.propertyDepth := by
  rw [nameDepth, propertyDepth, hd]
  split <;> rfl

/-- A walk yields what has a right to be there. -/
theorem Rooted.found {c : Cursor} {name : String} {ahead : List Placed}
    (h : Rooted tokens registry kind c) (hd : c.memberDepth = walkedDepth kind + 1)
    (hs : c.stream = ⟨some (.propertyName name, c.propertyDepth), ahead⟩)
    (hrole : c.role name = .property) :
    Found tokens registry kind ⟨c.component, name⟩ c.stream where
  among := h.reached
  on_name := by rw [hs, nameDepth_eq hd]
  not_reserved := (of_role_property hrole).1
  not_marker := (of_role_property hrole).2
  marked := h.component

/-! ## What each call preserves -/

/-- What the progress of a cursor says about the streams on the names that it has yielded: they are
on the name that was yielded last, or behind. -/
def Linked (kind : ResponseKind) (yielded : List (Property × TokenStream)) (c : Cursor) : Prop :=
  match c.progress with
  | .start => yielded = []
  | .yielded name depth => c.memberDepth = walkedDepth kind + 1 ∧ ∀ y ∈ yielded,
    y.2.current? = some (.propertyName name, depth) ∨ c.stream.ahead.length < y.2.ahead.length
  | .ended => True

section Linked

variable {c : Cursor} {yielded : List (Property × TokenStream)}

theorem linked_start (hp : c.progress = .start) : Linked kind yielded c ↔ yielded = [] := by
  rw [Linked, hp]

theorem linked_yielded {name : String} {depth : Nat} (hp : c.progress = .yielded name depth) :
    Linked kind yielded c ↔ c.memberDepth = walkedDepth kind + 1 ∧ ∀ y ∈ yielded,
      y.2.current? = some (.propertyName name, depth) ∨
        c.stream.ahead.length < y.2.ahead.length := by
  rw [Linked, hp]

theorem linked_ended (hp : c.progress = .ended) : Linked kind yielded c := by
  rw [Linked, hp]
  trivial

end Linked

variable (tokens registry kind) in
/-- Whatever was yielded was found, one name behind the other, and the stream is behind them. -/
structure Steady (w : Watch) : Prop where
  rooted : Rooted tokens registry kind w.cursor
  found : ∀ y ∈ w.yielded, Found tokens registry kind y.1 y.2
  increasing : w.yielded.Pairwise fun a b => b.2.ahead.length < a.2.ahead.length
  behind : ∀ y ∈ w.yielded, y.2.Reaches w.cursor.stream
  linked : Linked kind w.yielded w.cursor

namespace Steady

theorem start {s : TokenStream} {filter : PropertyFilter} {c : Cursor}
    (hs : (ofTokens tokens).Reaches s) (hc : Cursor.start s registry kind filter = .ok c) :
    Steady tokens registry kind (Watch.start c) := by
  obtain ⟨-, rfl⟩ := start_eq hc
  exact {
    rooted := ⟨rfl, rfl, hs, fun _ hno => by cases hno⟩
    found := fun _ hno => absurd hno List.not_mem_nil
    increasing := .nil
    behind := fun _ hno => absurd hno List.not_mem_nil
    linked := rfl }

theorem moved {w : Watch} {s : TokenStream} (h : Steady tokens registry kind w)
    (hs : w.cursor.stream.Reaches s) :
    Steady tokens registry kind (w.moveTo s) where
  rooted := h.rooted.moved hs
  found := h.found
  increasing := h.increasing
  behind y hy := (h.behind y hy).trans hs
  linked := by
    cases hp : w.cursor.progress with
    | start => exact (linked_start (c := (w.moveTo s).cursor) hp).2 ((linked_start hp).1 h.linked)
    | yielded name depth =>
      obtain ⟨hd, hlast⟩ := (linked_yielded hp).1 h.linked
      exact (linked_yielded (c := (w.moveTo s).cursor) hp).2 ⟨hd, fun y hy =>
        (hlast y hy).imp_right (Nat.lt_of_le_of_lt hs.length_le)⟩
    | ended => exact linked_ended (c := (w.moveTo s).cursor) hp

/-- A walk that starts behind all names that were yielded keeps what was said of them. -/
theorem walked {w : Watch} {c : Cursor}
    {outcome : EStateM.Result PropertyError Cursor (Option Property)}
    (h : Steady tokens registry kind w) (hr : Rooted tokens registry kind c)
    (hd : c.memberDepth = walkedDepth kind + 1)
    (hlt : ∀ y ∈ w.yielded, y.2.Reaches c.stream ∧ c.stream.ahead.length < y.2.ahead.length)
    (hstart : c.progress = .start → w.yielded = []) (hw : Walked c outcome) :
    Steady tokens registry kind (w.record outcome) := by
  have hbehind : ∀ {c'}, Passes c c' → ∀ y ∈ w.yielded,
      y.2.Reaches c'.stream ∧ c'.stream.ahead.length < y.2.ahead.length := fun hp y hy =>
    ⟨(hlt y hy).1.trans hp.reaches, Nat.lt_of_le_of_lt hp.reaches.length_le (hlt y hy).2⟩
  cases hw with
  | ended hp =>
    exact ⟨(hr.passes hp).at_progress _ _, h.found, h.increasing,
      fun y hy => (hbehind hp y hy).1, linked_ended rfl⟩
  | @failed c' _ hp =>
    obtain ⟨-, -, hprogress, hdepth⟩ := hp.frame
    refine ⟨hr.passes hp, h.found, h.increasing, fun y hy => (hbehind hp y hy).1, ?_⟩
    -- The call may have failed before it noted how far it has come.
    cases hp' : c'.progress with
    | start => exact (linked_start hp').2 (hstart (hprogress ▸ hp'))
    | yielded name depth =>
      exact (linked_yielded hp').2 ⟨hdepth.trans hd, fun y hy => .inr (hbehind hp y hy).2⟩
    | ended => exact linked_ended hp'
  | @yielded c' name ahead hp hs hrole =>
    have hr' := hr.passes hp
    have hd' : c'.memberDepth = walkedDepth kind + 1 := hp.frame.2.2.2.trans hd
    refine ⟨hr'.at_progress _ _, ?_, ?_, ?_, (linked_yielded rfl).2 ⟨hd', ?_⟩⟩
    · exact List.forall_mem_append.2 ⟨h.found,
        List.forall_mem_singleton.2 (hr'.found hd' hs hrole)⟩
    · exact List.pairwise_append.2 ⟨h.increasing, List.pairwise_singleton _ _, fun y hy =>
        List.forall_mem_singleton.2 (hbehind hp y hy).2⟩
    · exact List.forall_mem_append.2 ⟨fun y hy => (hbehind hp y hy).1,
        List.forall_mem_singleton.2 .refl⟩
    · exact List.forall_mem_append.2 ⟨fun y hy => .inr (hbehind hp y hy).2,
        List.forall_mem_singleton.2 (.inl (by rw [hs]))⟩

theorem next {w : Watch} (h : Steady tokens registry kind w) :
    Steady tokens registry kind (w.record (nextProperty w.cursor)) := by
  have hcontinues := continues_nextProperty w.cursor
  generalize nextProperty w.cursor = outcome at hcontinues
  cases hcontinues with
  | finished hp => exact h
  | refused => exact h
  | @begins c' _ hp hslid hw =>
    obtain ⟨s, hs, rfl⟩ := hslid
    have hnone : w.yielded = [] := (linked_start hp).1 h.linked
    have hr := (h.rooted.at_progress w.cursor.progress (walkedDepth w.cursor.kind + 1)).moved hs
    refine h.walked hr ?_ ?_ (fun _ => hnone) hw
    · rw [← h.rooted.kind_eq]
    · intro y hy
      rw [hnone] at hy
      cases hy
  | @resumes name depth _ hp hr hw =>
    obtain ⟨hd, hlast⟩ := (linked_yielded hp).1 h.linked
    refine h.walked h.rooted hd (fun y hy => ⟨h.behind y hy, ?_⟩) ?_ hw
    · rcases hlast y hy with hon | hlt
      · -- The stream is not on the name any more.
        refine (h.behind y hy).length_lt fun heq => ?_
        rw [heq] at hon
        simp [isConsumed, TokenStream.token?, hon] at hr
      · exact hlt
    · intro hs
      rw [hp] at hs
      cases hs

/-- What a single call preserves, whether it succeeds or fails. -/
theorem touch {w : Watch} (h : Steady tokens registry kind w) (t : Touch) :
    Steady tokens registry kind (w.touch t) := by
  rcases w.touch_cases t with hnext | ⟨s, hs, hmoved⟩
  · rw [hnext]
    exact h.next
  · rw [hmoved]
    exact h.moved hs

theorem touchAll {w : Watch} (h : Steady tokens registry kind w) (ts : List Touch) :
    Steady tokens registry kind (w.touchAll ts) := by
  induction ts generalizing w with
  | nil => exact h
  | cons t ts ih => exact ih (h.touch t)

end Steady

/-! ## Backwards and behind the end -/

theorem cursor_record (w : Watch)
    (outcome : EStateM.Result PropertyError Cursor (Option Property)) :
    (w.record outcome).cursor = final outcome := by
  match outcome with
  | .ok (some _) _ => rfl
  | .ok none _ => rfl
  | .error _ _ => rfl

theorem reaches_touch (w : Watch) (t : Touch) :
    w.cursor.stream.Reaches (w.touch t).cursor.stream := by
  rcases w.touch_cases t with hnext | ⟨s, hs, hmoved⟩
  · rw [hnext, cursor_record]
    exact forward_nextProperty w.cursor
  · rw [hmoved]
    exact hs

theorem reaches_touchAll (w : Watch) (ts : List Touch) :
    w.cursor.stream.Reaches (w.touchAll ts).cursor.stream := by
  induction ts generalizing w with
  | nil => exact .refl
  | cons t ts ih => exact (reaches_touch w t).trans (ih (w.touch t))

/-- A walk that has ended stays at its end. -/
theorem ended_touch {w : Watch} (h : w.cursor.progress = .ended) (t : Touch) :
    (w.touch t).cursor.progress = .ended := by
  rcases w.touch_cases t with hnext | ⟨s, hs, hmoved⟩
  · rw [hnext, cursor_record, nextProperty_of_ended h]
    exact h
  · rw [hmoved]
    exact h

theorem ended_touchAll {w : Watch} (h : w.cursor.progress = .ended) (ts : List Touch) :
    (w.touchAll ts).cursor.progress = .ended := by
  induction ts generalizing w with
  | nil => exact h
  | cons t ts ih => exact ih (ended_touch h t)

theorem ended_of_nextProperty {c c' : Cursor} (h : nextProperty c = .ok none c') :
    c'.progress = .ended := by
  have hcontinues := continues_nextProperty c
  rw [h] at hcontinues
  rcases hcontinues.walked with ⟨hp, heq⟩ | ⟨_, hno⟩ | ⟨_, hw⟩
  · cases heq
    exact hp
  · cases hno
  · cases hw with
    | ended _ => rfl

variable (tokens registry kind) in
/-- What holds of a cursor at any time. -/
structure Safe (w : Watch) : Prop where
  /-- Each name that was yielded had a right to be there. -/
  found : ∀ y ∈ w.yielded, Found tokens registry kind y.1 y.2
  /-- They were yielded in their order, and none twice. -/
  increasing : w.yielded.Pairwise fun a b => taken tokens a.2 < taken tokens b.2
  /-- From here the stream only moves forward. -/
  forward : ∀ ts, w.cursor.stream.Reaches (w.touchAll ts).cursor.stream
  /-- Once nothing is yielded nothing ever will be, and then the stream is left where it is. -/
  ended : ∀ c, nextProperty w.cursor = .ok none c → ∀ ts,
    nextProperty (({ w with cursor := c } : Watch).touchAll ts).cursor
      = .ok none (({ w with cursor := c } : Watch).touchAll ts).cursor

theorem Steady.safe {w : Watch} (h : Steady tokens registry kind w) :
    Safe tokens registry kind w where
  found := h.found
  increasing := by
    refine h.increasing.imp_of_mem fun {a b} ha _ hlt => ?_
    have hle : a.2.ahead.length ≤ tokens.length := (h.found a ha).among.length_le
    unfold taken
    omega
  forward := reaches_touchAll w
  ended _ hc ts := nextProperty_of_ended (ended_touchAll (ended_of_nextProperty hc) ts)

end Safety

/-- A cursor is safe on any tokens, balanced or not and at any depths, whatever its caller does to
it and to its stream and whichever of the calls fail. -/
theorem safe_touchAll (tokens : List Placed) (registry : ComponentRegistry) (kind : ResponseKind)
    (filter : PropertyFilter) (s : TokenStream) (c : Cursor) (ts : List Touch)
    (hs : (ofTokens tokens).Reaches s) (hc : Cursor.start s registry kind filter = .ok c) :
    Safe tokens registry kind ((Watch.start c).touchAll ts) :=
  ((Steady.start hs hc).touchAll ts).safe

/-- Tokens of no value: depths jump, and brackets are closed that were not opened. -/
def looseTokens : List Placed := [
  (.beginObject, 0), (.propertyName "heater", 1), (.beginObject, 7), (.propertyName "__t", 3),
  (.string "c", 3), (.propertyName "target", 2), (.null, 9), (.endArray, 4), (.endObject, 1),
  (.propertyName "list", 1), (.beginArray, 2), (.endObject, 0)]

/-- Calls on them: the second call for a property, reading the list and the last call fail. -/
def looseTouches : List Touch := [
  .call .next, .call .advance, .call .next, .pass, .call .advance, .call .advance, .call .next,
  .call .read, .call .next, .call .next, .call .advance]

theorem safe_touchAll_sample :
    ∃ s c, (ofTokens looseTokens).Reaches s ∧
      Cursor.start s (.ofList ["heater"]) .desiredPatch .writeableOnly = .ok c ∧
      ((Watch.start c).touchAll looseTouches).yielded.map Prod.fst
        = [⟨some "heater", "target"⟩, ⟨none, "list"⟩] ∧
      Safe looseTokens (.ofList ["heater"]) .desiredPatch
        ((Watch.start c).touchAll looseTouches) := by
  have hs : (ofTokens looseTokens).Reaches (TokenStream.on looseTokens) := .moved List.suffix_rfl
  refine ⟨_, _, hs, rfl, by decide +kernel, ?_⟩
  exact safe_touchAll looseTokens _ .desiredPatch .writeableOnly _ _ looseTouches hs rfl

end Cursor
end DeviceTwin
