import DeviceTwin.Document.Payload
import DeviceTwin.Proofs.Document.Rounds

/-!
# The whole walk

Reading all properties of a document, one after the other, up to the end of the walked object.

Results:
* `readAll_ok`: reading all that a cursor yields gives just this.
* `yields_of_readAll`: where the whole walk succeeds a cursor yields what it has read.
-/
namespace DeviceTwin.Cursor

open Json (Members Value)
open TokenStream (on)

theorem readAll_ok {stop : TokenStream} {fuel : Nat} {c : Cursor} {ps : List (Property × Value)}
    (hy : Yields stop (nextProperty c) ps) (hf : ps.length < fuel) :
    ∃ c', readAll fuel c = .ok ps c' := by
  generalize hnext : nextProperty c = outcome at hy
  induction hy generalizing fuel c with
  | @ended c₁ =>
    cases fuel with
    | zero => cases hf
    | succ fuel =>
      refine ⟨c₁, ?_⟩
      rw [readAll, Attempt.bind_ok hnext]
      rfl
  | @property c₁ p v depth rest qs hp hs hv hr _ ih =>
    cases fuel with
    | zero => cases hf
    | succ fuel =>
      have hread := readValue_ok hp hs (ne_nil_of_isConsumed hr) hv
      obtain ⟨c₂, hall⟩ := ih (Nat.lt_of_succ_lt_succ hf) rfl
      refine ⟨c₂, ?_⟩
      rw [readAll, Attempt.bind_ok hnext]
      dsimp only
      rw [Attempt.bind_ok hread, Attempt.bind_ok hall]
      rfl

theorem eq_of_readAll {stop : TokenStream} {fuel : Nat} {c c' : Cursor}
    {ps qs : List (Property × Value)} (h : readAll fuel c = .ok ps c')
    (hy : Yields stop (nextProperty c) qs) : ps = qs := by
  generalize hnext : nextProperty c = outcome at hy
  induction hy generalizing fuel c ps with
  | ended =>
    cases fuel with
    | zero => cases h
    | succ fuel =>
      rw [readAll, Attempt.bind_ok hnext] at h
      cases h
      rfl
  | @property c₁ p v depth rest qs hp hs hv hr _ ih =>
    cases fuel with
    | zero => cases h
    | succ fuel =>
      have hread := readValue_ok hp hs (ne_nil_of_isConsumed hr) hv
      rw [readAll, Attempt.bind_ok hnext] at h
      dsimp only at h
      rw [Attempt.bind_ok hread] at h
      cases hall : readAll fuel { c₁ with stream := on rest } with
      | ok ps' c₂ =>
        rw [Attempt.bind_ok hall] at h
        cases h
        rw [ih hall rfl]
      | error e c₂ =>
        rw [Attempt.bind_error hall] at h
        cases h

theorem ok_of_readAll {fuel : Nat} {c c' : Cursor} {ps : List (Property × Value)}
    (h : readAll fuel c = .ok ps c') : ∃ answer c₁, nextProperty c = .ok answer c₁ := by
  cases fuel with
  | zero => cases h
  | succ fuel =>
    cases hnext : nextProperty c with
    | ok answer c₁ => exact ⟨answer, c₁, rfl⟩
    | error e c₁ =>
      rw [readAll, Attempt.bind_error hnext] at h
      cases h

theorem yields_of_ok {document : Value} (hd : document.Distinct) {registry : ComponentRegistry}
    {kind : ResponseKind} {filter : PropertyFilter} {c : Cursor}
    (hc : Cursor.start (on (document.tokens 0)) registry kind filter = .ok c)
    (h : ∃ answer c₁, nextProperty c = .ok answer c₁) :
    ∃ stop ps, Yields stop (nextProperty c) ps := by
  cases hw : Document.walked? kind filter document with
  | some members =>
    obtain ⟨rest, hy⟩ := yields_nextProperty hd hc hw
    exact ⟨_, _, hy⟩
  | none =>
    obtain ⟨hack, rfl⟩ := start_eq hc
    obtain ⟨answer, c₁, h⟩ := h
    cases document with
    | null | bool _ | number _ | string _ | array _ => cases h
    | object ms =>
      obtain rfl : kind = .documentGet := by
        cases kind with
        | documentGet => rfl
        | desiredPatch | reportedAck => cases hw
      have hopen := enterSection_whole ms registry filter
      rw [nextProperty, Attempt.get_bind] at h ⊢
      dsimp only at h ⊢
      cases hg : Members.get? filter.section ms with
      | none =>
        have hfind := findSection_none
          (c := ⟨on (Value.memberTokens (0 + 1) ms ++ [(.endObject, 0)]), registry, .documentGet,
            filter, .start, none, 2⟩) rfl (Nat.lt_succ_self _) hg
        refine ⟨⟨some (.endObject, 0), []⟩, [], ?_⟩
        rw [Attempt.bind_ok (hopen.trans hfind)]
        exact Yields.ended rfl rfl rfl
      | some v =>
        have hv : v.members? = none := by simpa [Document.walked?, Value.members?, hg] using hw
        obtain ⟨c₂, hfind⟩ := findSection_error
          (c := ⟨on (Value.memberTokens (0 + 1) ms ++ [(.endObject, 0)]), registry, .documentGet,
            filter, .start, none, 2⟩) rfl (Nat.lt_succ_self _) hg hv
        rw [Attempt.bind_error (hopen.trans hfind)] at h
        cases h

/-- Where the whole walk succeeds a cursor yields what it has read. -/
theorem yields_of_readAll {document : Value} (hd : document.Distinct)
    {registry : ComponentRegistry} {kind : ResponseKind} {filter : PropertyFilter} {c c' : Cursor}
    {fuel : Nat} {ps : List (Property × Value)}
    (hc : Cursor.start (on (document.tokens 0)) registry kind filter = .ok c)
    (h : readAll fuel c = .ok ps c') : ∃ stop, Yields stop (nextProperty c) ps := by
  obtain ⟨stop, qs, hy⟩ := yields_of_ok hd hc (ok_of_readAll h)
  obtain rfl := eq_of_readAll h hy
  exact ⟨stop, hy⟩

end DeviceTwin.Cursor
