import DeviceTwin.Proofs.Document.Walk

/-!
# Rounds over a document

A round asks for the next property and, if there is one, reads or skips its value. `rounds` takes
any number of rounds, each with a choice of its own, and goes on behind the end of the walk.

Results:
* `walked?_cases`: the walked object is the document itself, or the section of a whole document.
* `findSection_ok`, `findSection_error`, `findSection_none`: the section of a whole document is found
  among its members, unless it is no object or there is none.
* `yields_nextProperty`: a walk over a document yields the properties of its walked object.
* `rounds_properties`: rounds over a document never fail. They answer the properties of the walked
  object in their order, with their values where these are read, and then nothing.
-/
namespace DeviceTwin

open Json (Members Value)
open TokenStream (on)

/-! ## The walked object -/

theorem Json.Value.members?_eq_some {v : Value} {ms : Members} (h : v.members? = some ms) :
    v = .object ms := by
  cases v with
  | object members => cases h; rfl
  | null | bool _ | number _ | string _ | array _ => cases h

/-- The walked object is the document itself, or the section of a whole document. -/
theorem Document.walked?_cases {kind : ResponseKind} {filter : PropertyFilter} {document : Value}
    {ms : Members} (h : walked? kind filter document = some ms) :
    (kind ≠ .documentGet ∧ document = .object ms) ∨
      (kind = .documentGet ∧ ∃ top, document = .object top ∧
        Members.get? filter.section top = some (.object ms)) := by
  obtain ⟨top, htop, h⟩ := Option.bind_eq_some_iff.1 h
  obtain rfl := Value.members?_eq_some htop
  cases kind with
  | desiredPatch | reportedAck => cases h; exact .inl ⟨by simp, rfl⟩
  | documentGet =>
    obtain ⟨inner, hsec, hobj⟩ := Option.bind_eq_some_iff.1 h
    obtain rfl := Value.members?_eq_some hobj
    exact .inr ⟨rfl, top, rfl, hsec⟩

theorem Document.length_le_memberTokens (depth : Nat) (ms : Members) :
    ms.length ≤ (Value.memberTokens depth ms).length := by
  induction ms with
  | nil => exact Nat.le_refl _
  | cons m ms ih =>
    obtain ⟨n, v⟩ := m
    simp only [Value.memberTokens, List.cons_append, List.length_cons, List.length_append]
    omega

namespace Cursor

theorem findSection_skip {name : String} {depth fuel : Nat} {rest : List Placed} (before : Members)
    (c : Cursor) (hn : name ∉ Members.names before)
    (hs : c.stream = on (Value.memberTokens depth before ++ rest)) (hr : rest ≠ [])
    (hf : before.length ≤ fuel) :
    findSection name fuel c
      = findSection name (fuel - before.length) { c with stream := on rest } := by
  induction before generalizing c fuel with
  | nil =>
    have hc : { c with stream := on rest } = c := by
      rw [Value.memberTokens, List.nil_append] at hs
      rw [← hs]
    rw [hc]
    rfl
  | cons m before ih =>
    obtain ⟨n, v⟩ := m
    rw [Members.names_cons, List.mem_cons, not_or] at hn
    rw [Value.memberTokens, List.cons_append, List.cons_append, List.append_assoc,
      TokenStream.on_cons] at hs
    cases fuel with
    | zero => cases hf
    | succ fuel =>
      have hne : Value.memberTokens depth before ++ rest ≠ [] := by simp [hr]
      rw [findSection, Attempt.get_bind]
      simp only [hs, TokenStream.token?_mk]
      rw [if_neg (Ne.symm hn.1),
        Attempt.bind_ok (onStream_ok (by rw [hs]; exact TokenStream.skipMember_ok _ v depth hne)),
        ih { c with stream := on (Value.memberTokens depth before ++ rest) } hn.2 rfl
          (Nat.le_of_succ_le_succ hf)]
      simp only [List.length_cons, Nat.add_sub_add_right]

section Section

variable {name : String} {depth fuel : Nat} {ms : Members} {c : Cursor} {rest : List Placed}
  (hs : c.stream = on (Value.memberTokens (depth + 1) ms ++ (.endObject, depth) :: rest))
  (hf : c.stream.ahead.length < fuel)

include hs hf

theorem length_lt_of_stream : ms.length < fuel := by
  have hlen := Document.length_le_memberTokens (depth + 1) ms
  simp only [hs, TokenStream.length_ahead_on, List.length_append, List.length_cons] at hf
  omega

/-- The member of the name is looked at once the members in front of it are passed. -/
theorem findSection_of_get? {v : Value} (hg : Members.get? name ms = some v) :
    ∃ fuel' behind, findSection name fuel c = findSection name (fuel' + 1) { c with
      stream := on ((.propertyName name, depth + 1) :: (v.tokens (depth + 1)
        ++ (Value.memberTokens (depth + 1) behind ++ (.endObject, depth) :: rest))) } := by
  have hlt := length_lt_of_stream hs hf
  obtain ⟨before, behind, rfl, hn⟩ := Members.append_of_get? hg
  rw [List.length_append, List.length_cons] at hlt
  rw [Value.memberTokens_append, List.append_assoc, Value.memberTokens, List.cons_append,
    List.cons_append, List.append_assoc] at hs
  refine ⟨fuel - before.length - 1, behind, ?_⟩
  rw [findSection_skip before c hn hs (by simp) (by omega),
    Nat.sub_add_cancel (show 1 ≤ fuel - before.length by omega)]

theorem findSection_ok {inner : Members} (hg : Members.get? name ms = some (.object inner)) :
    ∃ rest', findSection name fuel c = .ok true { c with
      stream := on (Value.memberTokens (depth + 1 + 1) inner
        ++ (.endObject, depth + 1) :: rest') } := by
  obtain ⟨fuel', behind, hfind⟩ := findSection_of_get? hs hf hg
  refine ⟨Value.memberTokens (depth + 1) behind ++ (.endObject, depth) :: rest, ?_⟩
  rw [hfind, findSection, Attempt.get_bind]
  simp only [TokenStream.on_cons, TokenStream.token?_mk, if_true, TokenStream.peek?, Value.tokens,
    List.cons_append, List.append_assoc, List.getElem?_cons_zero, Option.map_some]
  rw [Attempt.bind_ok (onStream_ok (TokenStream.advance_ok (by simp))),
    Attempt.bind_ok (onStream_ok (TokenStream.advance_ok (by simp)))]
  rfl

theorem findSection_error {v : Value} (hg : Members.get? name ms = some v)
    (hv : v.members? = none) :
    ∃ c', findSection name fuel c = .error (.malformedDocument (.sectionNotObject name)) c' := by
  obtain ⟨fuel', behind, hfind⟩ := findSection_of_get? hs hf hg
  have hopen : v.firstToken ≠ .beginObject := by
    cases v <;> first | (cases hv; done) | (intro h; cases h)
  rw [hfind, findSection, Attempt.get_bind]
  simp only [TokenStream.on_cons, TokenStream.token?_mk, if_true, TokenStream.peek?,
    Value.tokens_eq_cons, List.cons_append, List.getElem?_cons_zero, Option.map_some,
    Option.some.injEq, hopen, if_false]
  exact ⟨_, rfl⟩

theorem findSection_none (hg : Members.get? name ms = none) :
    findSection name fuel c = .ok false { c with stream := ⟨some (.endObject, depth), rest⟩ } := by
  have hlt := length_lt_of_stream hs hf
  rw [findSection_skip ms c (Members.not_mem_of_get? hg) hs (by simp) (by omega),
    ← Nat.sub_add_cancel (show 1 ≤ fuel - ms.length by omega), findSection, Attempt.get_bind]
  rfl

end Section

def walkedDepth : ResponseKind → Nat
  | .documentGet => 1
  | _ => 0

theorem start_eq {s : TokenStream} {registry : ComponentRegistry} {kind : ResponseKind}
    {filter : PropertyFilter} {c : Cursor} (h : Cursor.start s registry kind filter = .ok c) :
    kind ≠ .reportedAck ∧ c = ⟨s, registry, kind, filter, .start, none, 1⟩ := by
  unfold Cursor.start at h
  split at h
  · cases h
  split at h
  · cases h
  · next hk _ =>
    cases h
    exact ⟨fun he => hk (he ▸ rfl), rfl⟩

theorem nextProperty_of_enterSection {c c' : Cursor} (hp : c.progress = .start)
    (h : enterSection c = .ok true c') :
    nextProperty c = walk (c'.stream.ahead.length + 1) c' := by
  rw [nextProperty, Attempt.get_bind]
  simp only [hp]
  rw [Attempt.bind_ok h, if_pos rfl]
  rfl

theorem enterSection_whole (ms : Members) (registry : ComponentRegistry) (filter : PropertyFilter) :
    enterSection ⟨on ((Value.object ms).tokens 0), registry, .documentGet, filter, .start, none, 1⟩
      = findSection filter.section
          ((on (Value.memberTokens (0 + 1) ms ++ [(.endObject, 0)])).ahead.length + 1)
          ⟨on (Value.memberTokens (0 + 1) ms ++ [(.endObject, 0)]), registry, .documentGet, filter,
            .start, none, 2⟩ := by
  simp only [Value.tokens, List.cons_append]
  rw [enterSection, Attempt.get_bind]
  exact Attempt.bind_ok (onStream_ok (TokenStream.advance_ok (by simp)))

theorem enterSection_patch (ms : Members) (registry : ComponentRegistry) (filter : PropertyFilter) :
    enterSection ⟨on ((Value.object ms).tokens 0), registry, .desiredPatch, filter, .start, none, 1⟩
      = .ok true ⟨on ((Document.Rest.outside ms).tokens 0 []), registry, .desiredPatch, filter,
          .start, none, 1⟩ := by
  simp only [Value.tokens, List.cons_append]
  rw [enterSection, Attempt.get_bind]
  exact Attempt.bind_ok (onStream_ok (TokenStream.advance_ok (by simp)))

/-- A walk over a document yields the properties of its walked object. -/
theorem yields_nextProperty {document : Value} (hd : document.Distinct)
    {registry : ComponentRegistry} {kind : ResponseKind} {filter : PropertyFilter} {c : Cursor}
    {members : Members} (hc : Cursor.start (on (document.tokens 0)) registry kind filter = .ok c)
    (hw : Document.walked? kind filter document = some members) :
    ∃ rest, Yields ⟨some (.endObject, walkedDepth kind), rest⟩ (nextProperty c)
      (Document.properties registry members) := by
  obtain ⟨hack, rfl⟩ := start_eq hc
  rcases Document.walked?_cases hw with ⟨hkind, rfl⟩ | ⟨rfl, ms, rfl, hsec⟩
  · obtain rfl : kind = .desiredPatch := by
      cases kind with
      | desiredPatch => rfl
      | documentGet => exact absurd rfl hkind
      | reportedAck => exact absurd rfl hack
    refine ⟨[], ?_⟩
    rw [nextProperty_of_enterSection rfl (enterSection_patch members registry filter)]
    exact (yieldsFrom_rest (r := .outside members) [] hd rfl rfl).walk rfl
      (TokenStream.length_le_ahead _)
  · have hdistinct := ((Value.distinct_object ms).1 hd).2 _ (Members.mem_of_get? hsec)
    obtain ⟨rest, hfind⟩ := findSection_ok
      (c := ⟨on (Value.memberTokens (0 + 1) ms ++ [(.endObject, 0)]), registry, .documentGet, filter,
        .start, none, 2⟩) rfl (Nat.lt_succ_self _) hsec
    refine ⟨rest, ?_⟩
    rw [nextProperty_of_enterSection rfl ((enterSection_whole ms registry filter).trans hfind)]
    exact (yieldsFrom_rest (r := .outside members) rest hdistinct rfl rfl).walk rfl
      (TokenStream.length_le_ahead _)

/-! ## Rounds -/

/-- Asks for the next property and, if there is one, reads its value or skips it. -/
def round (read : Bool) : Attempt Cursor (Option (Property × Option Value)) := do
  match ← nextProperty with
  | none => return none
  | some p =>
    if read then
      let v ← readValue
      return some (p, some v)
    else
      skipValue
      return some (p, none)

def rounds : (choices : List Bool) → Attempt Cursor (List (Option (Property × Option Value)))
  | [] => return []
  | read :: choices => do
    let answer ← round read
    let answers ← rounds choices
    return answer :: answers

/-- The properties `ps` as answers to rounds, and nothing in the rounds behind them. -/
def answers : (choices : List Bool) → (ps : List (Property × Value)) →
    List (Option (Property × Option Value))
  | [], _ => []
  | _ :: choices, [] => none :: answers choices []
  | read :: choices, (p, v) :: ps => some (p, if read then some v else none) :: answers choices ps

theorem nextProperty_of_ended {c : Cursor} (h : c.progress = .ended) :
    nextProperty c = .ok none c := by
  rw [nextProperty, Attempt.get_bind]
  simp only [h]
  rfl

/-- A round on a walk that has not ended yields a property, and the walk goes on behind it. -/
theorem round_ok {stop : TokenStream} {c : Cursor} {p : Property} {v : Value}
    {ps : List (Property × Value)} (h : Yields stop (nextProperty c) ((p, v) :: ps))
    (read : Bool) : ∃ c', round read c = .ok (some (p, if read then some v else none)) c' ∧
      Yields stop (nextProperty c') ps := by
  generalize hnext : nextProperty c = outcome at h
  cases outcome with
  | error e c₁ => cases h
  | ok answer c₁ =>
    obtain rfl : answer = some p := by cases h; rfl
    obtain ⟨c₂, hread, hskip, hrest⟩ := h.consume
    refine ⟨c₂, ?_, hrest⟩
    rw [round, Attempt.bind_ok hnext]
    cases read with
    | true => exact Attempt.bind_ok hread
    | false => exact Attempt.bind_ok hskip

theorem round_ended {stop : TokenStream} {c : Cursor} (h : Yields stop (nextProperty c) [])
    (read : Bool) : ∃ c', round read c = .ok none c' ∧ (c'.stream = stop ∧ c'.component = none) ∧
      Yields stop (nextProperty c') [] := by
  generalize hnext : nextProperty c = outcome at h
  cases h with
  | @ended c₁ hp hc hs =>
    refine ⟨c₁, ?_, ⟨hs, hc⟩, ?_⟩
    · rw [round, Attempt.bind_ok hnext]
      rfl
    · rw [nextProperty_of_ended hp]
      exact Yields.ended hp hc hs

theorem rounds_ok {stop : TokenStream} (choices : List Bool) {c : Cursor}
    {ps : List (Property × Value)} (h : Yields stop (nextProperty c) ps) :
    ∃ c', rounds choices c = .ok (answers choices ps) c' ∧
      (ps.length < choices.length → c'.stream = stop ∧ c'.component = none) := by
  induction choices generalizing c ps with
  | nil => exact ⟨c, rfl, fun hlt => absurd hlt (Nat.not_lt_zero _)⟩
  | cons read choices ih =>
    cases ps with
    | nil =>
      obtain ⟨c₁, hround, hstop, hrest⟩ := round_ended h read
      obtain ⟨c₂, hrounds, hlast⟩ := ih hrest
      refine ⟨c₂, ?_, fun _ => ?_⟩
      · rw [rounds, Attempt.bind_ok hround, Attempt.bind_ok hrounds]
        rfl
      · cases choices with
        | nil => cases hrounds; exact hstop
        | cons _ _ => exact hlast (Nat.succ_pos _)
    | cons q ps =>
      obtain ⟨p, v⟩ := q
      obtain ⟨c₁, hround, hrest⟩ := round_ok h read
      obtain ⟨c₂, hrounds, hlast⟩ := ih hrest
      refine ⟨c₂, ?_, fun hlt => hlast (Nat.lt_of_succ_lt_succ hlt)⟩
      rw [rounds, Attempt.bind_ok hround, Attempt.bind_ok hrounds]
      rfl

/-- Rounds over a document never fail, whichever values are read and whichever are skipped. They
answer the properties of the walked object in their order, with the values that were read, and from
then on nothing: the stream rests on the closing brace of the walked object, in no component. -/
theorem rounds_properties (document : Value) (registry : ComponentRegistry) (kind : ResponseKind)
    (filter : PropertyFilter) (members : Members) (hd : document.Distinct)
    (hk : kind.hasDocument = true)
    (hf : ¬(kind = .desiredPatch ∧ filter = .allReportedByDevice))
    (hw : Document.walked? kind filter document = some members) :
    ∃ s c rest, TokenStream.advance (TokenStream.ofValue document) = .ok () s ∧
      Cursor.start s registry kind filter = .ok c ∧
      ∀ choices : List Bool, ∃ c',
        rounds choices c = .ok (answers choices (Document.properties registry members)) c' ∧
        ((Document.properties registry members).length < choices.length →
          c'.stream = ⟨some (.endObject, walkedDepth kind), rest⟩ ∧ c'.component = none) := by
  have hadvance : TokenStream.advance (TokenStream.ofValue document)
      = .ok () (on (document.tokens 0)) :=
    TokenStream.advance_ok (by rw [Value.tokens_eq_cons]; simp)
  have hstart : Cursor.start (on (document.tokens 0)) registry kind filter
      = .ok ⟨on (document.tokens 0), registry, kind, filter, .start, none, 1⟩ := by
    rw [Cursor.start, if_neg (by simp [hk]), if_neg hf]
  obtain ⟨rest, hy⟩ := yields_nextProperty hd hstart hw
  exact ⟨_, _, rest, hadvance, hstart, fun choices => rounds_ok choices hy⟩

/-- Members with an empty component among them, reserved ones and a component at the end. -/
def sampleSection : Members := [
  ("list", .array [.number (.integer 1), .object [("x", .null)]]),
  ("empty", .object [("__t", .string "c")]),
  ("$version", .number (.integer 4)),
  ("heater", .object [("__t", .string "c"), ("$metadata", .object []),
    ("target", .number (.integer 21))])]

def sampleDocument : Value :=
  .object [("reported", .object [("list", .null)]), ("desired", .object sampleSection)]

theorem rounds_properties_sample :
    ∃ s c c', TokenStream.advance (TokenStream.ofValue sampleDocument) = .ok () s ∧
      Cursor.start s ⟨["empty", "heater"], by decide⟩ .documentGet .writeableOnly = .ok c ∧
      rounds [false, true, true] c = .ok [some (⟨none, "list"⟩, none),
        some (⟨some "heater", "target"⟩, some (.number (.integer 21))), none] c' ∧
      c'.stream.current? = some (.endObject, 1) := by
  have hd : sampleDocument.Distinct := by
    simp [sampleDocument, sampleSection]
  obtain ⟨s, c, rest, hs, hc, hall⟩ := rounds_properties sampleDocument
    ⟨["empty", "heater"], by decide⟩ .documentGet .writeableOnly sampleSection hd rfl (by simp) rfl
  obtain ⟨c', hr, hlast⟩ := hall [false, true, true]
  exact ⟨s, c, c', hs, hc, hr, by rw [(hlast (by decide)).1]; rfl⟩

end Cursor
end DeviceTwin
