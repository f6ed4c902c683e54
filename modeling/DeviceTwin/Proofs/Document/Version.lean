import DeviceTwin.Document.Members
import DeviceTwin.Document.Version
import DeviceTwin.Proofs.TokenStream.Value

/-!
# The version that a scan finds

A scan over the tokens of an object goes from member to member and passes over their values, so it
finds what looking up the name among the members finds.

Results:
* `scan_some`, `scan_none`: a scan stops on the member of the name, or on the end of the object.
* `outcome_version`: the version pass over a document agrees with `versionOf`.
-/
namespace DeviceTwin

open Json (Members Value)
open TokenStream (on)

namespace Document

open Attempt (outcome)

/-! ## Scanning -/

theorem scan_name {key name : String} {depth : Nat} {ahead : List Placed} (fuel : Nat) :
    scan key depth (fuel + 1) ⟨some (.propertyName name, depth), ahead⟩
      = (if name = key then pure true else TokenStream.skipMember >>= fun _ => scan key depth fuel)
          ⟨some (.propertyName name, depth), ahead⟩ := by
  rw [scan, Attempt.get_bind]
  exact congrFun (if_pos rfl) _

theorem scan_end {key : String} {depth : Nat} {ahead : List Placed} (fuel : Nat) :
    scan key (depth + 1) (fuel + 1) ⟨some (.endObject, depth), ahead⟩
      = .ok false ⟨some (.endObject, depth), ahead⟩ := by
  rw [scan, Attempt.get_bind]
  exact congrFun (if_pos rfl) _

theorem scan_cons {key name : String} {v : Value} {depth : Nat} {rest : List Placed} (fuel : Nat)
    (hn : name ≠ key) (hr : rest ≠ []) :
    scan key depth (fuel + 1) (on ((.propertyName name, depth) :: (v.tokens depth ++ rest)))
      = scan key depth fuel (on rest) := by
  rw [TokenStream.on_cons, scan_name, if_neg hn]
  exact Attempt.bind_ok (TokenStream.skipMember_ok _ v depth hr)

theorem scan_some {key : String} {v : Value} (depth : Nat) {fuel : Nat} {ms : Members}
    {rest : List Placed} (hg : Members.get? key ms = some v) (hr : rest ≠ [])
    (hf : (Value.memberTokens depth ms ++ rest).length ≤ fuel) :
    ∃ rest', rest' ≠ [] ∧ scan key depth fuel (on (Value.memberTokens depth ms ++ rest))
      = .ok true ⟨some (.propertyName key, depth), v.tokens depth ++ rest'⟩ := by
  induction ms generalizing fuel with
  | nil => cases hg
  | cons m ms ih =>
    obtain ⟨n, w⟩ := m
    have hne : Value.memberTokens depth ms ++ rest ≠ [] := by simp [hr]
    rw [Members.get?] at hg
    rw [Value.memberTokens, List.cons_append, List.cons_append, List.append_assoc] at hf ⊢
    cases fuel with
    | zero => cases hf
    | succ fuel =>
      by_cases hn : n = key
      · rw [if_pos hn] at hg
        cases hg
        refine ⟨_, hne, ?_⟩
        rw [TokenStream.on_cons, scan_name, if_pos hn, hn]
        rfl
      · rw [if_neg hn] at hg
        rw [scan_cons fuel hn hne]
        refine ih hg ?_
        simp only [List.length_cons, List.length_append] at hf ⊢
        omega

theorem scan_none {key : String} {depth fuel : Nat} {ms : Members} {rest : List Placed}
    (hg : Members.get? key ms = none)
    (hf : (Value.memberTokens (depth + 1) ms ++ (Token.endObject, depth) :: rest).length ≤ fuel) :
    scan key (depth + 1) fuel
        (on (Value.memberTokens (depth + 1) ms ++ (.endObject, depth) :: rest))
      = .ok false ⟨some (.endObject, depth), rest⟩ := by
  induction ms generalizing fuel with
  | nil =>
    cases fuel with
    | zero => cases hf
    | succ fuel =>
      rw [Value.memberTokens, List.nil_append, TokenStream.on_cons, scan_end]
  | cons m ms ih =>
    obtain ⟨n, w⟩ := m
    rw [Members.get?] at hg
    rw [Value.memberTokens, List.cons_append, List.cons_append, List.append_assoc] at hf ⊢
    cases fuel with
    | zero => cases hf
    | succ fuel =>
      have hn : n ≠ key := by
        intro he
        rw [if_pos he] at hg
        cases hg
      rw [if_neg hn] at hg
      rw [scan_cons fuel hn (by simp)]
      refine ih hg ?_
      simp only [List.length_cons, List.length_append] at hf ⊢
      omega

section Object

variable {key : String} (depth : Nat) {ms : Members} (rest : List Placed)

theorem findMember_some {v : Value} (hg : Members.get? key ms = some v) :
    ∃ rest', rest' ≠ [] ∧ findMember key (on ((Value.object ms).tokens depth ++ rest))
      = .ok true ⟨some (.propertyName key, depth + 1), v.tokens (depth + 1) ++ rest'⟩ := by
  have hne : (Token.endObject, depth) :: rest ≠ [] := by simp
  obtain ⟨rest', hr, hscan⟩ := scan_some (depth + 1) hg hne (TokenStream.length_le_ahead _)
  refine ⟨rest', hr, ?_⟩
  rw [TokenStream.on_tokens, findMember, Attempt.get_bind]
  simp only [TokenStream.depth_mk, Value.laterTokens, List.append_assoc, List.cons_append,
    List.nil_append]
  rw [Attempt.bind_ok (TokenStream.advance_ok (by simp)), Attempt.get_bind]
  exact hscan

theorem findMember_none (hg : Members.get? key ms = none) :
    findMember key (on ((Value.object ms).tokens depth ++ rest))
      = .ok false ⟨some (.endObject, depth), rest⟩ := by
  rw [TokenStream.on_tokens, findMember, Attempt.get_bind]
  simp only [TokenStream.depth_mk, Value.laterTokens, List.append_assoc, List.cons_append,
    List.nil_append]
  rw [Attempt.bind_ok (TokenStream.advance_ok (by simp)), Attempt.get_bind]
  exact scan_none hg (TokenStream.length_le_ahead _)

/-! ## The version -/

variable (ms) in
theorem outcome_versionInObject :
    outcome (versionInObject (on ((Value.object ms).tokens depth ++ rest))) = versionAmong ms := by
  rw [versionInObject, versionAmong]
  cases hg : Members.get? versionKey ms with
  | none => rw [Attempt.bind_ok (findMember_none depth rest hg)]; rfl
  | some v =>
    obtain ⟨rest', hr, hfind⟩ := findMember_some depth rest hg
    have hne : v.tokens (depth + 1) ++ rest' ≠ [] := by simp [hr]
    rw [Attempt.bind_ok hfind, if_pos rfl, Attempt.bind_ok (TokenStream.advance_ok hne),
      Attempt.get_bind, TokenStream.on_tokens]
    cases v with
    | number n =>
      simp only [TokenStream.token?_mk, Value.firstToken]
      cases n.signed? <;> rfl
    | null | bool _ | string _ | array _ | object _ => rfl

end Object

/-- The version pass over a document agrees with looking it up. -/
theorem outcome_version (kind : ResponseKind) (document : Value) :
    outcome (version kind (on (document.tokens 0))) = versionOf kind document := by
  unfold version
  rw [Attempt.get_bind]
  cases document with
  | null | bool _ | number _ | string _ | array _ => rfl
  | object ms =>
    have hown : outcome (versionInObject (on ((Value.object ms).tokens 0))) = versionAmong ms := by
      have h := outcome_versionInObject 0 ms []
      rwa [List.append_nil] at h
    cases kind with
    | desiredPatch | reportedAck => exact hown
    | documentGet =>
      show outcome ((findMember desiredSection >>= fun _ => _) (on ((Value.object ms).tokens 0)))
        = _
      rw [← List.append_nil ((Value.object ms).tokens 0)]
      cases hg : Members.get? desiredSection ms with
      | none =>
        rw [Attempt.bind_ok (findMember_none 0 [] hg)]
        simp [versionOf, Json.Value.members?, hg]
      | some desired =>
        obtain ⟨rest, hr, hfind⟩ := findMember_some 0 [] hg
        have hne : desired.tokens 1 ++ rest ≠ [] := by simp [hr]
        rw [Attempt.bind_ok hfind, if_pos rfl, Attempt.bind_ok (TokenStream.advance_ok hne),
          Attempt.get_bind]
        cases desired with
        | object inner =>
          have h := outcome_versionInObject 1 inner rest
          simpa [versionOf, Json.Value.members?, hg, TokenStream.on_tokens, Value.firstToken]
            using h
        | null | bool _ | number _ | string _ | array _ =>
          simp [versionOf, Json.Value.members?, hg, TokenStream.on_tokens, Value.firstToken]

end Document
end DeviceTwin
