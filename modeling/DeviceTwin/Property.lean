/-!
# Properties

A property is addressed by its name and by the component that it belongs to, if it does to one.
Properties are ordered by component, those without one first, and then by name; texts are in the
order of their code points.

Results:
* `before_trans`, `before_irrefl`, `before_or`: the order is strict and total.
-/
namespace DeviceTwin

structure Property where
  component : Option String
  name : String
  deriving DecidableEq, Repr

namespace Property

def before (p q : Property) : Bool :=
  match p.component, q.component with
  | none, none => p.name < q.name
  | none, some _ => true
  | some _, none => false
  | some a, some b => a < b || (a = b && p.name < q.name)

theorem before_irrefl (p : Property) : p.before p = false := by
  unfold before
  split <;> simp_all

theorem before_trans {p q r : Property} (hpq : p.before q = true) (hqr : q.before r = true) :
    p.before r = true := by
  obtain ⟨pc, pn⟩ := p
  obtain ⟨qc, qn⟩ := q
  obtain ⟨rc, rn⟩ := r
  cases pc <;> cases qc <;> cases rc <;>
    simp only [before, decide_eq_true_eq, Bool.or_eq_true, Bool.and_eq_true] at *
  · exact String.lt_trans hpq hqr
  · cases hqr
  · cases hpq
  · cases hpq
  · cases hqr
  · rcases hpq with h | ⟨rfl, h⟩ <;> rcases hqr with h' | ⟨rfl, h'⟩
    · exact .inl (String.lt_trans h h')
    · exact .inl h
    · exact .inl h'
    · exact .inr ⟨rfl, String.lt_trans h h'⟩

theorem lt_or_eq_or_gt (a b : String) : a < b ∨ a = b ∨ b < a := by
  by_cases h : a < b
  · exact .inl h
  · by_cases h' : b < a
    · exact .inr (.inr h')
    · exact .inr (.inl (String.le_antisymm (String.not_lt.1 h') (String.not_lt.1 h)))

theorem before_or (p q : Property) : p.before q = true ∨ p = q ∨ q.before p = true := by
  obtain ⟨pc, pn⟩ := p
  obtain ⟨qc, qn⟩ := q
  have names := lt_or_eq_or_gt pn qn
  cases pc with
  | none => cases qc <;> simp_all [before]
  | some a =>
    cases qc with
    | none => simp [before]
    | some b =>
      simp only [before, decide_eq_true_eq, Bool.or_eq_true, Bool.and_eq_true, mk.injEq,
        Option.some.injEq]
      rcases lt_or_eq_or_gt a b with h | rfl | h
      · exact .inl (.inl h)
      · rcases names with h | rfl | h
        · exact .inl (.inr ⟨rfl, h⟩)
        · exact .inr (.inl ⟨rfl, rfl⟩)
        · exact .inr (.inr (.inr ⟨rfl, h⟩))
      · exact .inr (.inr (.inl h))

end Property
end DeviceTwin
