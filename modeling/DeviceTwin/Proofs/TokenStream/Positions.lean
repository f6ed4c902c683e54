import DeviceTwin.Proofs.TokenStream.Value

/-!
# Positions in a document

A stream over a document may be stopped on any token. Where it is on a name or on the end of an
object, the tokens ahead are those of the members that are left, and behind their end comes what
follows the object in the one around it, up to the end of the document.

Results:
* `nested_tokens`: the tokens of a value, with whatever follows it, are nested.
* `nested_document`: what is left at any name in a document, and at the end of any object.
-/
namespace DeviceTwin

open Json (Members Value)

namespace TokenStream

/-- These tokens of a document may follow a value at this depth: what is left of the container
around it, and then what follows that. -/
inductive Follows : Nat → List Placed → Prop where
  | nothing : Follows 0 []
  | members {d : Nat} {ms : Members} {ts : List Placed} (hd : (Value.object ms).Distinct)
      (h : Follows d ts) :
      Follows (d + 1) (Value.memberTokens (d + 1) ms ++ (.endObject, d) :: ts)
  | items {d : Nat} {vs : List Value} {ts : List Placed} (hd : (Value.array vs).Distinct)
      (h : Follows d ts) : Follows (d + 1) (Value.itemTokens (d + 1) vs ++ (.endArray, d) :: ts)

/-- These tokens are those of the members left of an object at this depth, and what follows it. -/
def Inside (d : Nat) (ts : List Placed) : Prop :=
  ∃ left rest, ts = Value.memberTokens (d + 1) left ++ (.endObject, d) :: rest ∧
    (Value.object left).Distinct ∧ Follows d rest

/-- If the first of these tokens is a name or the end of an object, it stands inside an object. -/
def Stands : List Placed → Prop
  | (.propertyName name, d) :: ts => ∃ d', d = d' + 1 ∧ Inside d' ((.propertyName name, d) :: ts)
  | (.endObject, d) :: ts => Inside d ((.endObject, d) :: ts)
  | _ => True

/-- From any token on these tokens stand inside objects. -/
def Nested (ts : List Placed) : Prop := ∀ us, us <:+ ts → Stands us

theorem nested_nil : Nested [] := by
  intro us h
  rw [List.suffix_nil.1 h]
  trivial

theorem Nested.cons {t : Placed} {ts : List Placed} (h : Nested ts) (hs : Stands (t :: ts)) :
    Nested (t :: ts) := by
  intro us hu
  rcases List.suffix_cons_iff.1 hu with rfl | hin
  · exact hs
  · exact h us hin

theorem inside_end {d : Nat} {ts : List Placed} (h : Follows d ts) :
    Inside d ((.endObject, d) :: ts) :=
  ⟨[], ts, rfl, (Value.distinct_object []).2 ⟨List.nodup_nil, by simp⟩, h⟩

mutual

theorem nested_tokens (d : Nat) (ts : List Placed) (hf : Follows d ts) (hts : Nested ts) :
    (v : Value) → v.Distinct → Nested (v.tokens d ++ ts)
  | .null, _ | .bool _, _ | .number _, _ | .string _, _ =>
    hts.cons trivial
  | .array items, hd => by
    have hin := nested_items d ts hf hts items ((Value.distinct_array items).1 hd)
    simp only [Value.tokens, List.cons_append, List.append_assoc, List.nil_append]
    exact hin.cons trivial
  | .object members, hd => by
    have hin := nested_members d ts hf hts members hd
    simp only [Value.tokens, List.cons_append, List.append_assoc, List.nil_append]
    exact hin.cons trivial

theorem nested_items (d : Nat) (ts : List Placed) (hf : Follows d ts) (hts : Nested ts) :
    (vs : List Value) → (∀ v ∈ vs, v.Distinct) →
    Nested (Value.itemTokens (d + 1) vs ++ (.endArray, d) :: ts)
  | [], _ => hts.cons trivial
  | v :: vs, hd => by
    have hrest := fun w hw => hd w (List.mem_cons_of_mem v hw)
    rw [Value.itemTokens, List.append_assoc]
    exact nested_tokens (d + 1) _ (.items ((Value.distinct_array vs).2 hrest) hf)
      (nested_items d ts hf hts vs hrest) v (hd v List.mem_cons_self)

theorem nested_members (d : Nat) (ts : List Placed) (hf : Follows d ts) (hts : Nested ts) :
    (ms : Members) → (Value.object ms).Distinct →
    Nested (Value.memberTokens (d + 1) ms ++ (.endObject, d) :: ts)
  | [], _ => hts.cons (inside_end hf)
  | (n, v) :: ms, hd => by
    obtain ⟨hn, hv⟩ := (Value.distinct_object ((n, v) :: ms)).1 hd
    have hrest : (Value.object ms).Distinct := (Value.distinct_object ms).2
      ⟨(List.nodup_cons.1 hn).2, fun m hm => hv m (List.mem_cons_of_mem _ hm)⟩
    have hin := nested_tokens (d + 1) _ (.members hrest hf) (nested_members d ts hf hts ms hrest) v
      (hv (n, v) List.mem_cons_self)
    have hinside : Inside d (Value.memberTokens (d + 1) ((n, v) :: ms) ++ (.endObject, d) :: ts) :=
      ⟨(n, v) :: ms, ts, rfl, hd, hf⟩
    rw [Value.memberTokens, List.cons_append, List.cons_append, List.append_assoc] at hinside ⊢
    exact hin.cons ⟨d, rfl, hinside⟩

end

/-- In a document every name and every end of an object stands inside an object. -/
theorem nested_document {document : Value} (hd : document.Distinct) :
    Nested (document.tokens 0) := by
  have h := nested_tokens 0 [] .nothing nested_nil document hd
  rwa [List.append_nil] at h

end TokenStream
end DeviceTwin
