import DeviceTwin.Proofs.Document.Forward
import DeviceTwin.Proofs.Document.Whole

/-!
# Calls in any order

A caller may ask for the next property, read or skip a value and move the stream by hand, in any
order and as often as it likes, as long as it does not move the stream by hand past the token behind
the value that was yielded last. The cursor notices by name and depth alone which calls are out of
place. It takes no token of a value for the end of that value: the names within a value stand deeper
than the value, and so do all closing tokens that might end its object.

Results:
* `isConsumed_inside`: no token of a value looks like the end of it.
* `Stage.after`: what one call preserves.
* `sound_afterAll`: behind any calls the next property, the value of the last one and the refusal of
  all other calls are as they would be in the walk over the whole document.
-/
namespace DeviceTwin

open Json (Members Value)
open TokenStream (on)
open Attempt (final)

/-! ## Tokens within a value -/

namespace TokenStream

/-- The names within a value stand deeper than the value. -/
theorem lt_depth_of_name_mem {name : String} {d d' : Nat} {v : Value}
    (h : (Token.propertyName name, d') ∈ v.tokens d) : d < d' := by
  cases v with
  | null | bool _ | number _ | string _ => simp [Value.tokens] at h
  | array items =>
    have hin : (Token.propertyName name, d') ∈ Value.itemTokens (d + 1) items := by
      simpa [Value.tokens] using h
    exact le_depth_of_mem_itemTokens (d + 1) items _ hin
  | object members =>
    have hin : (Token.propertyName name, d') ∈ Value.memberTokens (d + 1) members := by
      simpa [Value.tokens] using h
    exact le_depth_of_mem_memberTokens (d + 1) members _ hin

end TokenStream

namespace Cursor

theorem ne_name_inside {name : String} {depth : Nat} {v : Value} {t : Placed}
    (h : t ∈ v.tokens depth) : t ≠ (.propertyName name, depth) := by
  rintro rfl
  exact Nat.lt_irrefl _ (TokenStream.lt_depth_of_name_mem h)

/-- No token of a value looks like the end of it. -/
theorem isConsumed_inside {name : String} {depth : Nat} {v : Value} {t : Placed}
    (h : t ∈ v.tokens depth) (ahead : List Placed) :
    isConsumed ⟨some t, ahead⟩ name depth = false := by
  have hle := TokenStream.le_depth_of_mem_tokens depth v t h
  obtain ⟨t, d⟩ := t
  cases t with
  | propertyName n =>
    have hlt := TokenStream.lt_depth_of_name_mem h
    have hne : d ≠ depth := by omega
    simp [isConsumed, hne]
  | endObject =>
    have hne : d + 1 ≠ depth := by dsimp only at hle; omega
    simp [isConsumed, hne]
  | beginObject | beginArray | endArray | string _ | number _ | bool _ | null => rfl

/-! ## Calls -/

/-- What a caller does to a cursor. -/
inductive Call where
  | next
  | read
  | skip
  /-- The stream is moved by one token. -/
  | advance
  deriving DecidableEq, Repr

/-- A cursor and the properties that it has yielded, each with the stream on its name. -/
structure Watch where
  cursor : Cursor
  yielded : List (Property × TokenStream)

namespace Watch

def start (c : Cursor) : Watch := ⟨c, []⟩

/-- What a call leaves behind, whether it succeeds or fails. -/
def after (w : Watch) : Call → Watch
  | .next =>
    match nextProperty w.cursor with
    | .ok (some p) c => ⟨c, w.yielded ++ [(p, c.stream)]⟩
    | .ok none c => { w with cursor := c }
    | .error _ c => { w with cursor := c }
  | .read => { w with cursor := final (readValue w.cursor) }
  | .skip => { w with cursor := final (skipValue w.cursor) }
  | .advance => { w with cursor := final (onStream TokenStream.advance w.cursor) }

def afterAll (w : Watch) : List Call → Watch
  | [] => w
  | call :: calls => (w.after call).afterAll calls

/-- The value in `ps` of the property that was yielded last, and the stream on its name. -/
def last? (ps : List (Property × Value)) (w : Watch) : Option (Value × TokenStream) :=
  match w.yielded.getLast?, ps[w.yielded.length - 1]? with
  | some (_, s), some (_, v) => some (v, s)
  | _, _ => none

/-- The stream is still on the name that was yielded last, and its value is `v`. -/
def OnName (ps : List (Property × Value)) (w : Watch) (v : Value) : Prop :=
  w.last? ps = some (v, w.cursor.stream)

/-- A property was yielded, and no more tokens were passed since than its value has. -/
def Unpassed (ps : List (Property × Value)) (w : Watch) : Prop :=
  ∃ last ∈ w.last? ps, last.2.ahead.length ≤ w.cursor.stream.ahead.length + last.1.size

instance (ps : List (Property × Value)) (w : Watch) : Decidable (w.Unpassed ps) :=
  inferInstanceAs (Decidable (∃ last ∈ w.last? ps, _))

/-- The stream is moved by hand only within a value that was yielded, and onto the token behind
it. -/
def Careful (ps : List (Property × Value)) (w : Watch) : List Call → Prop
  | [] => True
  | call :: calls => (call = .advance → w.Unpassed ps) ∧ (w.after call).Careful ps calls

instance decidableCareful (ps : List (Property × Value)) :
    (w : Watch) → (calls : List Call) → Decidable (w.Careful ps calls)
  | _, [] => isTrue trivial
  | w, call :: calls =>
    have := decidableCareful ps (w.after call) calls
    inferInstanceAs (Decidable ((call = .advance → w.Unpassed ps) ∧ _))

/-- What each call does to a cursor, given the properties `ps` of the whole walk. -/
structure Sound (ps : List (Property × Value)) (w : Watch) : Prop where
  /-- What was yielded is what the whole walk yields first. -/
  in_order : w.yielded.map Prod.fst <+: ps.map Prod.fst
  /-- Once the value yielded last is passed the next property follows, or the end. -/
  next_ok : ¬ w.Unpassed ps →
    ∃ c, nextProperty w.cursor = .ok (ps.map Prod.fst)[w.yielded.length]? c
  /-- Before that the next property is refused. -/
  next_error : w.Unpassed ps →
    ∃ fault, nextProperty w.cursor = .error (.invalidState fault) w.cursor
  /-- On the name yielded last its own value is read or skipped. -/
  value_ok : ∀ v, w.OnName ps v → w.cursor.progress ≠ .ended ∧
    ∃ c, readValue w.cursor = .ok v c ∧ skipValue w.cursor = .ok () c
  /-- Elsewhere no value is. -/
  value_error : (¬ ∃ v, w.OnName ps v) → ∃ fault,
    readValue w.cursor = .error (.invalidState fault) w.cursor ∧
    skipValue w.cursor = .error (.invalidState fault) w.cursor
  /-- Within a value the stream can be moved. -/
  advance_ok : w.Unpassed ps → ∃ s, TokenStream.advance w.cursor.stream = .ok () s

theorem last?_of_append {ps : List (Property × Value)} {w : Watch} {p q : Property} {v : Value}
    {s : TokenStream} {before : List (Property × TokenStream)}
    (hw : w.yielded = before ++ [(p, s)]) (hq : ps[before.length]? = some (q, v)) :
    w.last? ps = some (v, s) := by
  simp [last?, hw, hq]

theorem OnName.unpassed {ps : List (Property × Value)} {w : Watch} {v : Value}
    (h : w.OnName ps v) : w.Unpassed ps :=
  ⟨_, h, Nat.le_add_right _ _⟩

end Watch

/-! ## Single calls -/

theorem readValue_error {c : Cursor} (h : c.atYielded = false) :
    readValue c = .error (.invalidState .notAtYielded) c := by
  rw [readValue, Attempt.get_bind]
  simp only [h]
  rfl

theorem skipValue_error {c : Cursor} (h : c.atYielded = false) :
    skipValue c = .error (.invalidState .notAtYielded) c := by
  rw [skipValue, Attempt.get_bind]
  simp only [h]
  rfl

theorem nextProperty_error {c : Cursor} {name : String} {depth : Nat}
    (hp : c.progress = .yielded name depth) (h : isConsumed c.stream name depth = false) :
    nextProperty c = .error (.invalidState (.valueNotConsumed name)) c := by
  rw [nextProperty, Attempt.get_bind]
  simp only [hp, h]
  rfl

theorem atYielded_behind {c : Cursor} {name : String} {depth : Nat} {behind : List Placed}
    (hp : c.progress = .yielded name depth) (hr : isConsumed (on behind) name depth = true) :
    ({ c with stream := on behind } : Cursor).atYielded = false := by
  refine Bool.eq_false_iff.2 fun hyes => ?_
  have hcur : (on behind).current? = some (.propertyName name, depth) := by
    simpa [atYielded, hp] using hyes
  simp [isConsumed, TokenStream.token?, hcur] at hr

/-! ## The walk, call by call -/

/-- The property `p` was yielded last and has the value `v`, with the tokens `behind` following. Once
they are reached the walk yields `rest`. -/
structure Holds (stop : TokenStream) (ps : List (Property × Value)) (w : Watch) (p : Property)
    (v : Value) (depth : Nat) (behind : List Placed) (rest : List (Property × Value)) : Prop where
  yielded : ∃ sofar before, ps = sofar ++ (p, v) :: rest ∧
    before.map Prod.fst = sofar.map Prod.fst ∧
    w.yielded = before ++ [(p, ⟨some (.propertyName p.name, depth), v.tokens depth ++ behind⟩)]
  progress : w.cursor.progress = .yielded p.name depth
  distinct : v.Distinct
  consumed : isConsumed (on behind) p.name depth = true
  next : Yields stop (nextProperty { w.cursor with stream := on behind }) rest

/-- Where a caller is: between two values, or on the name or in the value that was yielded last. -/
inductive Stage (stop : TokenStream) (ps : List (Property × Value)) (w : Watch) : Prop where
  | between (sofar : List (Property × Value)) {rest : List (Property × Value)} (hps : ps = sofar ++ rest)
      (hsofar : w.yielded.map Prod.fst = sofar.map Prod.fst) (hoff : w.cursor.atYielded = false)
      (hpassed : ¬ w.Unpassed ps) (hnext : Yields stop (nextProperty w.cursor) rest)
  | within {p : Property} {v : Value} {depth : Nat} {behind passed left : List Placed} {t : Placed}
      {rest : List (Property × Value)} (h : Holds stop ps w p v depth behind rest)
      (hs : w.cursor.stream = ⟨some t, left ++ behind⟩)
      (ht : (.propertyName p.name, depth) :: v.tokens depth = passed ++ t :: left)

section Steps

variable {stop : TokenStream} {ps rest : List (Property × Value)} {w : Watch} {p : Property}
  {v : Value} {depth : Nat} {behind : List Placed}

namespace Holds

theorem last (h : Holds stop ps w p v depth behind rest) :
    w.last? ps = some (v, ⟨some (.propertyName p.name, depth), v.tokens depth ++ behind⟩) := by
  obtain ⟨sofar, before, rfl, hb, hy⟩ := h.yielded
  have hlen : before.length = sofar.length := by simpa using congrArg List.length hb
  exact Watch.last?_of_append hy (q := p) (by simp [hlen])

/-- Behind the value the walk goes on. -/
theorem pass (h : Holds stop ps w p v depth behind rest) :
    Stage stop ps { w with cursor := { w.cursor with stream := on behind } } := by
  obtain ⟨sofar, before, hps, hb, hy⟩ := h.yielded
  refine .between (sofar ++ [(p, v)]) (by simp [hps]) ?_ (atYielded_behind h.progress h.consumed) ?_ h.next
  · simp [hy, hb]
  · rintro ⟨last, hlast, hle⟩
    cases h.last.symm.trans hlast
    have hpos := List.length_pos_iff.2 (ne_nil_of_isConsumed h.consumed)
    have hsize : (v.tokens depth).length = v.size := TokenStream.length_tokens depth 0 v
    simp only [TokenStream.length_ahead_on, List.length_append] at hle
    omega

/-- A value is not passed before its last token is. -/
theorem unpassed (h : Holds stop ps w p v depth behind rest) {left : List Placed} {t : Placed}
    (hs : w.cursor.stream = ⟨some t, left ++ behind⟩) : w.Unpassed ps := by
  refine ⟨_, h.last, ?_⟩
  have hsize : (v.tokens depth).length = v.size := TokenStream.length_tokens depth 0 v
  simp only [hs, List.length_append]
  omega

end Holds

variable {passed left : List Placed} {t : Placed}
  (hs : w.cursor.stream = ⟨some t, left ++ behind⟩)
  (ht : (.propertyName p.name, depth) :: v.tokens depth = passed ++ t :: left)

include hs ht

theorem isConsumed_within : isConsumed w.cursor.stream p.name depth = false := by
  rw [hs]
  rcases List.cons_eq_append_iff.1 ht with ⟨-, hname⟩ | ⟨passed', -, hin⟩
  · cases hname
    simp [isConsumed]
  · exact isConsumed_inside (v := v) (by rw [hin]; simp) _

variable (h : Holds stop ps w p v depth behind rest)

include h

/-- The stream is on the name as long as no token was passed. -/
theorem onName_iff_within (v' : Value) : w.OnName ps v' ↔ passed = [] ∧ v' = v := by
  constructor
  · intro hon
    obtain ⟨rfl, hstream⟩ := Prod.mk.inj (Option.some.inj (hon.symm.trans h.last))
    have hlen := congrArg (fun s => s.ahead.length) hstream
    have htotal := congrArg List.length ht
    simp only [hs, List.length_append, List.length_cons] at hlen htotal
    exact ⟨List.length_eq_zero_iff.1 (by omega), rfl⟩
  · rintro ⟨rfl, rfl⟩
    cases ht
    have hlast := h.last
    rw [← hs] at hlast
    exact hlast

theorem atYielded_within (hne : passed ≠ []) : w.cursor.atYielded = false := by
  rcases List.cons_eq_append_iff.1 ht with ⟨he, -⟩ | ⟨passed', -, hin⟩
  · exact absurd he hne
  · have hmem : t ∈ v.tokens depth := by rw [hin]; simp
    have hname : t ≠ (.propertyName p.name, depth) := ne_name_inside hmem
    simp [atYielded, h.progress, hs, hname]

/-- On the name both calls consume the value. -/
theorem consume_within (hnil : passed = []) :
    readValue w.cursor = .ok v { w.cursor with stream := on behind } ∧
    skipValue w.cursor = .ok () { w.cursor with stream := on behind } := by
  subst hnil
  cases ht
  have hne := ne_nil_of_isConsumed h.consumed
  exact ⟨readValue_ok h.progress hs hne h.distinct, skipValue_ok h.progress hs hne⟩

/-- Moving the stream by hand passes one more token of the value, or the last one. -/
theorem advance_within : Stage stop ps (w.after .advance) := by
  cases left with
  | nil =>
    have hmove : onStream TokenStream.advance w.cursor
        = .ok () { w.cursor with stream := on behind } :=
      onStream_ok (by rw [hs]; exact TokenStream.advance_ok (ne_nil_of_isConsumed h.consumed))
    show Stage stop ps { w with cursor := final (onStream TokenStream.advance w.cursor) }
    rw [hmove]
    exact h.pass
  | cons u left =>
    have hmove : onStream TokenStream.advance w.cursor
        = .ok () { w.cursor with stream := ⟨some u, left ++ behind⟩ } :=
      onStream_ok (by rw [hs]; rfl)
    show Stage stop ps { w with cursor := final (onStream TokenStream.advance w.cursor) }
    rw [hmove]
    have htokens : (.propertyName p.name, depth) :: v.tokens depth
        = (passed ++ [t]) ++ u :: left := by
      rw [ht]; simp
    exact .within ⟨h.yielded, h.progress, h.distinct, h.consumed, h.next⟩ rfl htokens

end Steps

theorem Stage.after {stop : TokenStream} {ps : List (Property × Value)} {w : Watch}
    (h : Stage stop ps w) {call : Call} (hcall : call = .advance → w.Unpassed ps) :
    Stage stop ps (w.after call) := by
  cases h with
  | @between sofar rest hps hsofar hoff hpassed hnext =>
    cases call with
    | next =>
      have hforward := (forward_nextProperty w.cursor).length_le
      simp only [Watch.after]
      generalize hn : nextProperty w.cursor = outcome at hnext hforward
      cases hnext with
      | @ended c hp hc hstop =>
        refine .between sofar hps hsofar (by simp [atYielded, hp]) ?_ ?_
        · rintro ⟨last, hlast, hle⟩
          exact hpassed ⟨last, hlast, Nat.le_trans hle (Nat.add_le_add_right hforward _)⟩
        · rw [nextProperty_of_ended hp]
          exact .ended hp hc hstop
      | @property c p v depth behind rest hp hs hv hr hrest =>
        have hfirst : (.propertyName p.name, depth) :: v.tokens depth
            = [] ++ (.propertyName p.name, depth) :: v.tokens depth := rfl
        exact .within ⟨⟨sofar, w.yielded, hps, hsofar, by dsimp only; rw [hs]⟩, hp, hv, hr, hrest⟩
          hs hfirst
    | read =>
      simp only [Watch.after, readValue_error hoff]
      exact .between sofar hps hsofar hoff hpassed hnext
    | skip =>
      simp only [Watch.after, skipValue_error hoff]
      exact .between sofar hps hsofar hoff hpassed hnext
    | advance => exact absurd (hcall rfl) hpassed
  | @within p v depth behind passed left t rest h hs ht =>
    -- The value is consumed only from its name, while none of its tokens was passed.
    cases call with
    | next =>
      simp only [Watch.after, nextProperty_error h.progress (isConsumed_within hs ht)]
      exact .within h hs ht
    | read =>
      by_cases hnil : passed = []
      · simp only [Watch.after, (consume_within hs ht h hnil).1]
        exact h.pass
      · simp only [Watch.after, readValue_error (atYielded_within hs ht h hnil)]
        exact .within h hs ht
    | skip =>
      by_cases hnil : passed = []
      · simp only [Watch.after, (consume_within hs ht h hnil).2]
        exact h.pass
      · simp only [Watch.after, skipValue_error (atYielded_within hs ht h hnil)]
        exact .within h hs ht
    | advance => exact advance_within hs ht h

theorem Stage.afterAll {stop : TokenStream} {ps : List (Property × Value)} {calls : List Call}
    {w : Watch} (h : Stage stop ps w) (hcalls : w.Careful ps calls) :
    Stage stop ps (w.afterAll calls) := by
  induction calls generalizing w with
  | nil => exact h
  | cons call calls ih => exact ih (h.after hcalls.1) hcalls.2

theorem Stage.sound {stop : TokenStream} {ps : List (Property × Value)} {w : Watch}
    (h : Stage stop ps w) : w.Sound ps := by
  cases h with
  | @between sofar rest hps hsofar hoff hpassed hnext =>
    have hon : ¬ ∃ v, w.OnName ps v := fun ⟨_, hv⟩ => hpassed hv.unpassed
    have hlen : w.yielded.length = sofar.length := by simpa using congrArg List.length hsofar
    constructor
    · rw [hsofar, hps, List.map_append]
      exact List.prefix_append _ _
    · intro _
      generalize nextProperty w.cursor = outcome at hnext
      cases hnext with
      | @ended c => exact ⟨c, by simp [hps, hlen]⟩
      | @property c => exact ⟨c, by simp [hps, hlen]⟩
    · exact fun hun => absurd hun hpassed
    · exact fun v hv => absurd ⟨v, hv⟩ hon
    · exact fun _ => ⟨_, readValue_error hoff, skipValue_error hoff⟩
    · exact fun hun => absurd hun hpassed
  | @within p v depth behind passed left t rest h hs ht =>
    constructor
    · obtain ⟨sofar, before, hps, hb, hy⟩ := h.yielded
      rw [hy, hps]
      simp [hb]
    · exact fun hno => absurd (h.unpassed hs) hno
    · exact fun _ => ⟨_, nextProperty_error h.progress (isConsumed_within hs ht)⟩
    · intro v' hon
      obtain ⟨hnil, rfl⟩ := (onName_iff_within hs ht h v').1 hon
      exact ⟨by simp [h.progress], _, consume_within hs ht h hnil⟩
    · intro hoff
      have hne : passed ≠ [] := fun hnil => hoff ⟨v, (onName_iff_within hs ht h v).2 ⟨hnil, rfl⟩⟩
      have hat := atYielded_within hs ht h hne
      exact ⟨_, readValue_error hat, skipValue_error hat⟩
    · intro _
      have hne : left ++ behind ≠ [] := by simp [ne_nil_of_isConsumed h.consumed]
      exact ⟨_, by rw [hs]; exact TokenStream.advance_ok hne⟩

/-- Calls in any order are safe. If the walk over a document succeeds with the properties `ps`, then
behind any calls that move the stream by hand no further than onto the token behind the last value,
whichever of them failed, the properties yielded are the first of `ps`, the next property is
refused exactly while the last value is not passed, the value of the last property is given exactly
while the stream is on its name, and a call that is refused changes nothing. -/
theorem sound_afterAll (document : Value) (registry : ComponentRegistry) (kind : ResponseKind)
    (filter : PropertyFilter) (s : TokenStream) (c c' : Cursor) (fuel : Nat)
    (ps : List (Property × Value)) (calls : List Call) (hd : document.Distinct)
    (hs : TokenStream.advance (TokenStream.ofValue document) = .ok () s)
    (hc : Cursor.start s registry kind filter = .ok c) (hall : readAll fuel c = .ok ps c')
    (hcalls : (Watch.start c).Careful ps calls) : ((Watch.start c).afterAll calls).Sound ps := by
  have hadvance : TokenStream.advance (TokenStream.ofValue document)
      = .ok () (on (document.tokens 0)) :=
    TokenStream.advance_ok (by rw [Value.tokens_eq_cons]; simp)
  obtain rfl : on (document.tokens 0) = s := by
    rw [hadvance] at hs
    cases hs
    rfl
  obtain ⟨stop, hy⟩ := yields_of_readAll hd hc hall
  have hstart : c.progress = .start := by rw [(start_eq hc).2]
  have hfirst : Stage stop ps (Watch.start c) := by
    refine .between [] rfl rfl (by simp [Watch.start, atYielded, hstart]) ?_ hy
    rintro ⟨last, hno, -⟩
    cases hno
  exact (hfirst.afterAll hcalls).sound

/-- Calls on the sample document: out of place at first, then in the middle of a list, on its end, on
the name behind it and, with the walk at its end, once more. -/
def sampleCalls : List Call :=
  [.read, .next, .next, .advance, .skip, .advance, .next, .advance, .advance, .advance, .advance,
    .advance, .next, .advance, .read, .next, .read, .read, .next, .next, .skip]

def sampleProperties : List (Property × Value) :=
  [(⟨none, "list"⟩, .array [.number (.integer 1), .object [("x", .null)]]),
    (⟨some "heater", "target"⟩, .number (.integer 21))]

theorem sound_afterAll_sample :
    ∃ s c c', TokenStream.advance (TokenStream.ofValue sampleDocument) = .ok () s ∧
      Cursor.start s ⟨["empty", "heater"], by decide⟩ .documentGet .writeableOnly = .ok c ∧
      readAll 9 c = .ok sampleProperties c' ∧
      (Watch.start c).Careful sampleProperties sampleCalls ∧
      ((Watch.start c).afterAll sampleCalls).Sound sampleProperties := by
  have hd : sampleDocument.Distinct := by
    simp [sampleDocument, sampleSection]
  have hwalked : Document.walked? .documentGet .writeableOnly sampleDocument
      = some sampleSection := rfl
  have hstart : Cursor.start (on (sampleDocument.tokens 0)) ⟨["empty", "heater"], by decide⟩
      .documentGet .writeableOnly = .ok ⟨on (sampleDocument.tokens 0),
        ⟨["empty", "heater"], by decide⟩, .documentGet, .writeableOnly, .start, none, 1⟩ := rfl
  obtain ⟨rest, hy⟩ := yields_nextProperty hd hstart hwalked
  have hfuel : (Document.properties ⟨["empty", "heater"], by decide⟩ sampleSection).length < 9 := by
    decide +kernel
  obtain ⟨c', hall⟩ := readAll_ok hy hfuel
  have hps : Document.properties ⟨["empty", "heater"], by decide⟩ sampleSection
      = sampleProperties := by
    decide +kernel
  rw [hps] at hall
  have hcareful : (Watch.start ⟨on (sampleDocument.tokens 0), ⟨["empty", "heater"], by decide⟩,
      .documentGet, .writeableOnly, .start, none, 1⟩).Careful sampleProperties sampleCalls := by
    decide +kernel
  exact ⟨_, _, c', rfl, hstart, hall, hcareful,
    sound_afterAll sampleDocument _ .documentGet .writeableOnly _ _ c' 9 _ sampleCalls hd rfl hstart
      hall hcareful⟩

end Cursor
end DeviceTwin
