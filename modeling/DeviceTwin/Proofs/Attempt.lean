import DeviceTwin.TokenStream

/-!
# Running computations step by step

One equation for each way in which a computation on a state goes on. With them a run is followed
call by call, without opening the monad that it is written in.

Results:
* `bind_ok`, `bind_error`: a sequence goes on behind a first part that succeeds and ends with one
  that fails.
* `bind_eq_ok_iff`: it succeeds where its parts do.
* `final_bind`: a relation between a state and the one behind it holds of a sequence if it holds of
  its parts.
* `outcome`, `failure?`, `final`: the answer of a computation, its error if it fails, and the state
  behind it.
-/
namespace DeviceTwin.Attempt

variable {ε σ α β : Type}

theorem bind_ok {x : EStateM ε σ α} {f : α → EStateM ε σ β} {s s' : σ} {a : α}
    (h : x s = .ok a s') : (x >>= f) s = f a s' := by
  show (match x s with | .ok a s => f a s | .error e s => .error e s) = _
  rw [h]

theorem bind_error {x : EStateM ε σ α} {f : α → EStateM ε σ β} {s s' : σ} {e : ε}
    (h : x s = .error e s') : (x >>= f) s = .error e s' := by
  show (match x s with | .ok a s => f a s | .error e s => .error e s) = _
  rw [h]

theorem bind_eq_ok_iff {x : EStateM ε σ α} {f : α → EStateM ε σ β} {s s' : σ} {b : β} :
    (x >>= f) s = .ok b s' ↔ ∃ a s₁, x s = .ok a s₁ ∧ f a s₁ = .ok b s' := by
  constructor
  · intro h
    cases hx : x s with
    | ok a s₁ =>
      rw [bind_ok hx] at h
      exact ⟨a, s₁, rfl, h⟩
    | error e s₁ =>
      rw [bind_error hx] at h
      cases h
  · rintro ⟨a, s₁, hx, hf⟩
    rw [bind_ok hx, hf]

theorem map_ok {x : EStateM ε σ α} {f : α → β} {s s' : σ} {a : α} (h : x s = .ok a s') :
    (f <$> x) s = .ok (f a) s' := by
  show (match x s with | .ok a s => EStateM.Result.ok (f a) s | .error e s => .error e s) = _
  rw [h]

theorem map_eq_ok_iff {x : EStateM ε σ α} {f : α → β} {s s' : σ} {b : β} :
    (f <$> x) s = .ok b s' ↔ ∃ a, x s = .ok a s' ∧ f a = b := by
  constructor
  · intro h
    obtain ⟨a, s₁, hx, hf⟩ := bind_eq_ok_iff.1 h
    cases hf
    exact ⟨a, hx, rfl⟩
  · rintro ⟨a, hx, rfl⟩
    exact map_ok hx

/-- What a computation answers, without the state behind it. -/
def outcome : EStateM.Result ε σ α → Except ε α
  | .ok a _ => .ok a
  | .error e _ => .error e

def failure? : EStateM.Result ε σ α → Option ε
  | .ok _ _ => none
  | .error e _ => some e

/-- The state behind a computation, whether it succeeded or not. -/
def final : EStateM.Result ε σ α → σ
  | .ok _ s => s
  | .error _ s => s

@[simp] theorem outcome_ok (a : α) (s : σ) :
    outcome (.ok a s : EStateM.Result ε σ α) = .ok a := rfl

@[simp] theorem outcome_error (e : ε) (s : σ) :
    outcome (.error e s : EStateM.Result ε σ α) = .error e := rfl

@[simp] theorem failure?_ok (a : α) (s : σ) :
    failure? (.ok a s : EStateM.Result ε σ α) = none := rfl

@[simp] theorem failure?_error (e : ε) (s : σ) :
    failure? (.error e s : EStateM.Result ε σ α) = some e := rfl

@[simp] theorem final_ok (a : α) (s : σ) : final (.ok a s : EStateM.Result ε σ α) = s := rfl

@[simp] theorem final_error (e : ε) (s : σ) : final (.error e s : EStateM.Result ε σ α) = s := rfl

theorem eq_error_of_failure? {r : EStateM.Result ε σ α} {e : ε} (h : failure? r = some e) :
    r = .error e (final r) := by
  cases r with
  | ok a s => cases h
  | error e' s => cases h; rfl

theorem eq_ok_of_failure? {r : EStateM.Result ε σ Unit} (h : failure? r = none) :
    r = .ok () (final r) := by
  cases r with
  | ok a s => rfl
  | error e s => cases h

theorem final_bind_pure (x : EStateM ε σ α) (f : α → β) (s : σ) :
    final ((x >>= fun a => pure (f a)) s) = final (x s) := by
  cases h : x s with
  | ok a s' => rw [bind_ok h]; rfl
  | error e s' => rw [bind_error h]; rfl

/-- What relates a state to the ones behind each part of a sequence relates it to the one behind the
whole. -/
theorem final_bind {r : σ → σ → Prop} (trans : ∀ {s t u : σ}, r s t → r t u → r s u)
    {x : EStateM ε σ α} {f : α → EStateM ε σ β} {s : σ} (hx : r s (final (x s)))
    (hf : ∀ a t, x s = .ok a t → r t (final (f a t))) : r s (final ((x >>= f) s)) := by
  cases h : x s with
  | ok a t =>
    rw [h] at hx
    rw [bind_ok h]
    exact trans hx (hf a t h)
  | error e t =>
    rw [h] at hx
    rw [bind_error h]
    exact hx

@[simp] theorem pure_apply (a : α) (s : σ) : (pure a : EStateM ε σ α) s = .ok a s := rfl

@[simp] theorem throw_apply (e : ε) (s : σ) : (throw e : EStateM ε σ α) s = .error e s := rfl

@[simp] theorem modify_apply (g : σ → σ) (s : σ) :
    (modify g : EStateM ε σ PUnit) s = .ok ⟨⟩ (g s) := rfl

@[simp] theorem get_bind (f : σ → EStateM ε σ β) (s : σ) : (get >>= f) s = f s s := rfl

@[simp] theorem set_bind (t : σ) (f : PUnit → EStateM ε σ β) (s : σ) :
    ((set t : EStateM ε σ PUnit) >>= f) s = f ⟨⟩ t := rfl

end DeviceTwin.Attempt
