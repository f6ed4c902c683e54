import DeviceTwin.Proofs.Json.Merged
import DeviceTwin.Proofs.TokenStream.Value

/-!
# The grammar of values

A value is one scalar token, or a container: an object has names with a value behind each of them, an
array has values. Depths play no part in this. Reading finds out whether tokens of this form come
next, whatever else is in the stream.

Results:
* `spells_of_readWithin`: what is read is spelled by the tokens that were taken.
* `readWithin_of_spells`: tokens that spell a value are read, whatever follows them.
* `refuses_read`: nothing fails but for the state of the stream.
* `readValue_by_grammar`: what is read from any position in any tokens.
-/
namespace DeviceTwin

open Json (Members Value)

namespace TokenStream

/-! ## Tokens that spell a value -/

mutual

/-- These tokens, at any depths, are a value. -/
inductive Spells : List Placed → Value → Prop
  | null (d : Nat) : Spells [(.null, d)] .null
  | bool (b : Bool) (d : Nat) : Spells [(.bool b, d)] (.bool b)
  | number (n : Json.Number) (d : Nat) : Spells [(.number n, d)] (.number n)
  | string (text : String) (d : Nat) : Spells [(.string text, d)] (.string text)
  | object {ts : List Placed} {ms merged : Members} (d d' : Nat) (h : SpellsMembers ts ms)
    (hmerged : Members.IsMerged ms merged) :
    Spells ((.beginObject, d) :: ts ++ [(.endObject, d')]) (.object merged)
  | array {ts : List Placed} {vs : List Value} (d d' : Nat) (h : SpellsItems ts vs) :
    Spells ((.beginArray, d) :: ts ++ [(.endArray, d')]) (.array vs)

/-- These tokens are names, each with a value behind it. A name may be repeated. -/
inductive SpellsMembers : List Placed → Members → Prop
  | nil : SpellsMembers [] []
  | cons {ts us : List Placed} {name : String} {v : Value} {ms : Members} (d : Nat)
    (h : Spells ts v) (hrest : SpellsMembers us ms) :
    SpellsMembers ((.propertyName name, d) :: ts ++ us) ((name, v) :: ms)

inductive SpellsItems : List Placed → List Value → Prop
  | nil : SpellsItems [] []
  | cons {ts us : List Placed} {v : Value} {vs : List Value} (h : Spells ts v)
    (hrest : SpellsItems us vs) : SpellsItems (ts ++ us) (v :: vs)

end

/-- The tokens from the current one on. There are none where there is no current one. -/
def left : TokenStream → List Placed
  | ⟨none, _⟩ => []
  | ⟨some t, ahead⟩ => t :: ahead

theorem left_on (ts : List Placed) : (on ts).left = ts := by
  cases ts <;> rfl

theorem on_left {s : TokenStream} (h : s.left ≠ []) : on s.left = s := by
  obtain ⟨_ | t, ahead⟩ := s
  · contradiction
  · rfl

theorem advance_eq_ok {s s' : TokenStream} {u : Unit} (h : advance s = .ok u s') :
    ∃ t rest, s.ahead = t :: rest ∧ s' = ⟨some t, rest⟩ := by
  obtain ⟨current?, ahead⟩ := s
  cases ahead with
  | nil => cases h
  | cons t rest =>
    cases h
    exact ⟨t, rest, rfl, rfl⟩

theorem readItems_advance (fuel : Nat) (c : Option Placed) (t : Token) (d : Nat)
    (rest : List Placed) : readItems (fuel + 1) ⟨c, (t, d) :: rest⟩ =
      if t = .endArray then .ok [] ⟨some (t, d), rest⟩
      else (do
        let v ← readWithin fuel
        return v :: (← readItems fuel)) ⟨some (t, d), rest⟩ := by
  cases t <;> rfl

/-- A value does not begin with the end of an array. -/
theorem Spells.exists_cons {ts : List Placed} {v : Value} (h : Spells ts v) :
    ∃ t d ts', ts = (t, d) :: ts' ∧ t ≠ .endArray := by
  cases h with
  | null d | bool b d | number n d | string text d => exact ⟨_, _, _, rfl, by simp⟩
  | object d d' h hmerged => exact ⟨_, _, _, rfl, by simp⟩
  | array d d' h => exact ⟨_, _, _, rfl, by simp⟩

/-! ## Taking tokens that spell a value -/

mutual

/-- What is read is spelled by the tokens that were taken. -/
theorem spells_of_readWithin (fuel : Nat) {s s' : TokenStream} {v : Value}
    (h : readWithin fuel s = .ok v s') :
    ∃ ts, Spells ts v ∧ s.left = ts ++ s'.ahead ∧ s'.current? = ts.getLast? := by
  cases fuel with
  | zero => cases h
  | succ fuel =>
    obtain ⟨_ | ⟨t, d⟩, ahead⟩ := s
    · cases h
    unfold readWithin at h
    cases t with
    | null =>
      cases h
      exact ⟨_, .null d, rfl, rfl⟩
    | bool b =>
      cases h
      exact ⟨_, .bool b d, rfl, rfl⟩
    | number n =>
      cases h
      exact ⟨_, .number n d, rfl, rfl⟩
    | string text =>
      cases h
      exact ⟨_, .string text d, rfl, rfl⟩
    | beginObject =>
      obtain ⟨merged, hread, rfl⟩ := Attempt.map_eq_ok_iff.1 h
      obtain ⟨ts, ms, d', hts, hahead, hcurrent, rfl⟩ := spells_of_readMembers fuel hread
      refine ⟨_, .object d d' hts (Members.isMerged_merge ms), ?_, ?_⟩
      · simpa [left] using hahead
      · rw [hcurrent, List.getLast?_concat]
    | beginArray =>
      obtain ⟨vs, hread, rfl⟩ := Attempt.map_eq_ok_iff.1 h
      obtain ⟨ts, d', hts, hahead, hcurrent⟩ := spells_of_readItems fuel hread
      refine ⟨_, .array d d' hts, ?_, ?_⟩
      · simpa [left] using hahead
      · rw [hcurrent, List.getLast?_concat]
    | endObject | endArray | propertyName name => cases h

theorem spells_of_readMembers (fuel : Nat) {s s' : TokenStream} {sofar merged : Members}
    (h : readMembers fuel sofar s = .ok merged s') :
    ∃ ts ms d, SpellsMembers ts ms ∧ s.ahead = ts ++ (.endObject, d) :: s'.ahead ∧
      s'.current? = some (.endObject, d) ∧
      merged = ms.foldl (fun sofar m => Members.put m.1 m.2 sofar) sofar := by
  cases fuel with
  | zero => cases h
  | succ fuel =>
    unfold readMembers at h
    obtain ⟨_, s₁, hadvance, h⟩ := Attempt.bind_eq_ok_iff.1 h
    obtain ⟨⟨t, d⟩, rest, hahead, rfl⟩ := advance_eq_ok hadvance
    rw [Attempt.get_bind, token?_mk] at h
    cases t with
    | endObject =>
      cases h
      exact ⟨[], [], d, .nil, hahead, rfl, rfl⟩
    | propertyName name =>
      obtain ⟨_, s₂, hadvance, h⟩ := Attempt.bind_eq_ok_iff.1 h
      obtain ⟨t₂, rest₂, rfl, rfl⟩ := advance_eq_ok hadvance
      obtain ⟨v, s₃, hv, h⟩ := Attempt.bind_eq_ok_iff.1 h
      obtain ⟨ts, hts, hleft, -⟩ := spells_of_readWithin fuel hv
      obtain ⟨us, ms, d', hus, hrest, hcurrent, rfl⟩ := spells_of_readMembers fuel h
      refine ⟨_, _, d', .cons d hts hus, ?_, hcurrent, rfl⟩
      have hleft : t₂ :: rest₂ = ts ++ s₃.ahead := hleft
      simp [hahead, hleft, hrest]
    | beginObject | beginArray | endArray | null | bool b | number n | string text => cases h

theorem spells_of_readItems (fuel : Nat) {s s' : TokenStream} {vs : List Value}
    (h : readItems fuel s = .ok vs s') :
    ∃ ts d, SpellsItems ts vs ∧ s.ahead = ts ++ (.endArray, d) :: s'.ahead ∧
      s'.current? = some (.endArray, d) := by
  cases fuel with
  | zero => cases h
  | succ fuel =>
    obtain ⟨current?, _ | ⟨⟨t, d⟩, rest⟩⟩ := s
    · cases h
    rw [readItems_advance] at h
    split at h
    · next he =>
      subst he
      cases h
      exact ⟨[], d, .nil, rfl, rfl⟩
    · obtain ⟨v, s₂, hv, h⟩ := Attempt.bind_eq_ok_iff.1 h
      obtain ⟨ws, s₃, hws, h⟩ := Attempt.bind_eq_ok_iff.1 h
      cases h
      obtain ⟨ts, hts, hleft, -⟩ := spells_of_readWithin fuel hv
      obtain ⟨us, d', hus, hrest, hcurrent⟩ := spells_of_readItems fuel hws
      refine ⟨_, d', .cons hts hus, ?_, hcurrent⟩
      have hleft : (t, d) :: rest = ts ++ s₂.ahead := hleft
      rw [hleft, hrest, List.append_assoc]

end

/-! ## Tokens that are taken -/

mutual

/-- Tokens that spell a value are read, whatever follows them. -/
theorem readWithin_of_spells (fuel : Nat) {ts : List Placed} {v : Value} (rest : List Placed)
    (h : Spells ts v) (hfuel : ts.length ≤ fuel) :
    readWithin fuel (on (ts ++ rest)) = .ok v ⟨ts.getLast?, rest⟩ := by
  cases fuel with
  | zero =>
    obtain ⟨t, d, ts', rfl, -⟩ := h.exists_cons
    simp at hfuel
  | succ fuel =>
    cases h with
    | null d | bool b d | number n d | string text d => rfl
    | @object ts ms merged d d' h hmerged =>
      simp only [List.length_append, List.length_cons, List.length_nil] at hfuel
      have hread := readMembers_of_spells fuel [] (some (.beginObject, d)) d' rest h (by omega)
      rw [hmerged.eq_merge, List.getLast?_concat, List.append_assoc, List.cons_append]
      exact Attempt.map_ok hread
    | @array ts vs d d' h =>
      simp only [List.length_append, List.length_cons, List.length_nil] at hfuel
      have hread := readItems_of_spells fuel (some (.beginArray, d)) d' rest h (by omega)
      rw [List.getLast?_concat, List.append_assoc, List.cons_append]
      exact Attempt.map_ok hread

theorem readMembers_of_spells (fuel : Nat) {ts : List Placed} {ms : Members} (sofar : Members)
    (c : Option Placed) (d : Nat) (rest : List Placed) (h : SpellsMembers ts ms)
    (hfuel : ts.length < fuel) :
    readMembers fuel sofar ⟨c, ts ++ (.endObject, d) :: rest⟩
      = .ok (ms.foldl (fun sofar m => Members.put m.1 m.2 sofar) sofar)
        ⟨some (.endObject, d), rest⟩ := by
  cases fuel with
  | zero => omega
  | succ fuel =>
    cases h with
    | nil => rfl
    | @cons ts us name v ms d' h hrest =>
      simp only [List.length_append, List.length_cons] at hfuel
      have hv := readWithin_of_spells fuel (us ++ (.endObject, d) :: rest) h (by omega)
      have hahead : ts ++ (us ++ (.endObject, d) :: rest) ≠ [] := by simp
      unfold readMembers
      rw [List.append_assoc, List.cons_append, Attempt.bind_ok (advance_ok (by simp)),
        Attempt.get_bind]
      simp only [on_cons, token?_mk]
      rw [Attempt.bind_ok (advance_ok hahead), Attempt.bind_ok hv]
      exact readMembers_of_spells fuel (Members.put name v sofar) _ d rest hrest (by omega)

theorem readItems_of_spells (fuel : Nat) {ts : List Placed} {vs : List Value}
    (c : Option Placed) (d : Nat) (rest : List Placed) (h : SpellsItems ts vs)
    (hfuel : ts.length < fuel) :
    readItems fuel ⟨c, ts ++ (.endArray, d) :: rest⟩ = .ok vs ⟨some (.endArray, d), rest⟩ := by
  cases fuel with
  | zero => omega
  | succ fuel =>
    cases h with
    | nil => rfl
    | @cons ts us v vs h hrest =>
      simp only [List.length_append] at hfuel
      have hv := readWithin_of_spells fuel (us ++ (.endArray, d) :: rest) h (by omega)
      obtain ⟨t, d', ts', rfl, hne⟩ := h.exists_cons
      rw [List.length_cons] at hfuel
      rw [List.cons_append, on_cons] at hv
      rw [List.append_assoc, List.cons_append, readItems_advance, if_neg hne, Attempt.bind_ok hv,
        Attempt.bind_ok (readItems_of_spells fuel _ d rest hrest (by omega))]
      rfl

end

/-! ## Refusals -/

/-- From this stream the computation fails for the state of the stream, if it does. -/
def Refuses {α : Type} (s : TokenStream) (x : Attempt TokenStream α) : Prop :=
  ∀ e s', x s = .error e s' → ∃ fault, e = .invalidState fault

namespace Refuses

variable {α β : Type} {s : TokenStream}

theorem pure (a : α) : s.Refuses (Pure.pure a) := by
  intro e s' h
  cases h

theorem error (fault : StateFault) :
    s.Refuses (fun s => .error (.invalidState fault) s : Attempt TokenStream α) := by
  intro e s' h
  cases h
  exact ⟨fault, rfl⟩

theorem bind {x : Attempt TokenStream α} {f : α → Attempt TokenStream β} (hx : s.Refuses x)
    (hf : ∀ a s', Refuses s' (f a)) : s.Refuses (x >>= f) := by
  intro e s' h
  cases hstep : x s with
  | ok a s₁ =>
    rw [Attempt.bind_ok hstep] at h
    exact hf a s₁ e s' h
  | error e₁ s₁ =>
    rw [Attempt.bind_error hstep] at h
    cases h
    exact hx _ _ hstep

theorem map (f : α → β) {x : Attempt TokenStream α} (hx : s.Refuses x) : s.Refuses (f <$> x) :=
  hx.bind fun _ _ => .pure _

theorem get_bind {f : TokenStream → Attempt TokenStream β} (hf : s.Refuses (f s)) :
    s.Refuses (get >>= f) :=
  hf

end Refuses

theorem refuses_advance (s : TokenStream) : s.Refuses advance := by
  obtain ⟨current?, _ | ⟨t, rest⟩⟩ := s
  · exact .error .noTokensLeft
  · exact .pure ()

theorem refuses_read (fuel : Nat) :
    (∀ s : TokenStream, s.Refuses (readWithin fuel)) ∧
    (∀ sofar, ∀ s : TokenStream, s.Refuses (readMembers fuel sofar)) ∧
    (∀ s : TokenStream, s.Refuses (readItems fuel)) := by
  induction fuel with
  | zero =>
    exact ⟨fun _ => .error .nothingToRead, fun _ _ => .error .noTokensLeft,
      fun _ => .error .noTokensLeft⟩
  | succ fuel ih =>
    obtain ⟨hvalue, hmembers, hitems⟩ := ih
    refine ⟨fun s => ?_, fun sofar s => ?_, fun s => ?_⟩
    · unfold readWithin Refuses
      dsimp only
      split
      · exact Refuses.error .nothingToRead
      · exact Refuses.pure _
      · exact Refuses.pure _
      · exact Refuses.pure _
      · exact Refuses.pure _
      · exact (hmembers [] s).map Value.object
      · exact (hitems s).map Value.array
      · exact Refuses.error .notAValue
    · unfold readMembers
      refine .bind (refuses_advance s) fun _ s₁ => .get_bind ?_
      split
      · exact .pure _
      · refine .bind (refuses_advance s₁) fun _ s₂ => ?_
        exact .bind (hvalue s₂) fun _ s₃ => hmembers _ s₃
      · exact .error .notAName
    · unfold readItems
      refine .bind (refuses_advance s) fun _ s₁ => .get_bind ?_
      split
      · exact .pure _
      · exact .bind (hvalue s₁) fun v s₂ => (hitems s₂).map (v :: ·)

/-! ## Reading from any position -/

section ReadValue

variable {s s' : TokenStream} {v : Value}

/-- What is read is what the first of the tokens spell, up to the one that the stream is left on. -/
theorem readValue_ok_iff : readValue s = .ok v s' ↔
    ∃ ts rest, s.left = ts ++ rest ∧ Spells ts v ∧ s' = ⟨ts.getLast?, rest⟩ := by
  constructor
  · intro h
    obtain ⟨ts, hts, hleft, hcurrent⟩ := spells_of_readWithin _ h
    refine ⟨ts, s'.ahead, hleft, hts, ?_⟩
    rw [← hcurrent]
  · rintro ⟨ts, rest, hleft, hts, rfl⟩
    have hs : on (ts ++ rest) = s := by
      obtain ⟨t, d, ts', rfl, -⟩ := hts.exists_cons
      rw [← hleft, on_left (by simp [hleft])]
    have hfuel : ts.length ≤ 2 * s.ahead.length + 2 := by
      have hlength := length_le_ahead (ts ++ rest)
      rw [hs, List.length_append] at hlength
      omega
    have hread := readWithin_of_spells _ rest hts hfuel
    rw [hs] at hread
    exact hread

/-- Of the tokens that come next only one number of them are a value, and only one value. -/
theorem Spells.unique {ts ts' rest rest' : List Placed} {v' : Value} (h : Spells ts v)
    (h' : Spells ts' v') (happend : ts ++ rest = ts' ++ rest') : ts = ts' ∧ v = v' := by
  have hread : readValue (on (ts ++ rest)) = .ok v ⟨ts.getLast?, rest⟩ :=
    readValue_ok_iff.2 ⟨ts, rest, left_on _, h, rfl⟩
  have hread' : readValue (on (ts ++ rest)) = .ok v' ⟨ts'.getLast?, rest'⟩ :=
    readValue_ok_iff.2 ⟨ts', rest', by rw [left_on, happend], h', rfl⟩
  rw [hread] at hread'
  simp only [EStateM.Result.ok.injEq, TokenStream.mk.injEq] at hread'
  obtain ⟨rfl, -, rfl⟩ := hread'
  exact ⟨List.append_cancel_right happend, rfl⟩

end ReadValue

/-- Reading a value, from any position in any tokens. It succeeds where the tokens from the current
one on begin with some that spell a value. Only one number of them do. The value is what they spell,
in which a name that is repeated keeps its first place and takes its last value, and the stream is
left on the last of them. Elsewhere, and where there is no current token, it fails for the state of
the stream. -/
theorem readValue_by_grammar (s : TokenStream) :
    (∀ v s', readValue s = .ok v s' ↔
      ∃ ts rest, s.left = ts ++ rest ∧ Spells ts v ∧ s' = ⟨ts.getLast?, rest⟩) ∧
    (∀ ts ts' v v', ts <+: s.left → ts' <+: s.left → Spells ts v → Spells ts' v' →
      ts = ts' ∧ v = v') ∧
    (s.current? = none ∨ (∀ ts v, ts <+: s.left → ¬ Spells ts v) →
      ∃ fault s', readValue s = .error (.invalidState fault) s') := by
  refine ⟨fun v s' => readValue_ok_iff, ?_, ?_⟩
  · rintro ts ts' v v' ⟨rest, hts⟩ ⟨rest', hts'⟩ h h'
    exact h.unique h' (hts.trans hts'.symm)
  · intro hnone
    cases hread : readValue s with
    | ok v s' =>
      obtain ⟨ts, rest, hleft, hts, -⟩ := readValue_ok_iff.1 hread
      rcases hnone with hcurrent | hnone
      · obtain ⟨t, d, ts', rfl, -⟩ := hts.exists_cons
        obtain ⟨current?, ahead⟩ := s
        cases hcurrent
        cases hleft
      · exact absurd hts (hnone ts v ⟨rest, hleft.symm⟩)
    | error e s' =>
      obtain ⟨fault, rfl⟩ := (refuses_read _).1 s e s' hread
      exact ⟨fault, s', rfl⟩

theorem readValue_by_grammar_sample :
    readValue ⟨some (.beginObject, 7), [(.propertyName "a", 0), (.null, 4),
        (.propertyName "b", 1), (.bool true, 1), (.propertyName "a", 0), (.bool false, 2),
        (.endObject, 0), (.endArray, 3)]⟩
      = .ok (.object [("a", .bool false), ("b", .bool true)])
          ⟨some (.endObject, 0), [(.endArray, 3)]⟩ :=
  ((readValue_by_grammar _).1 _ _).2 ⟨_, _, rfl,
    .object 7 0
      (.cons 0 (.null 4) (.cons 1 (.bool true 1) (.cons 0 (.bool false 2) .nil)))
      (Members.isMerged_merge _),
    rfl⟩

end TokenStream
end DeviceTwin
