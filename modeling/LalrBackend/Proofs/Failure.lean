import Mathlib.Tactic.Common

/-!
# Computations that may fail

A computation made of several steps gives a result exactly if each of its steps
does. These facts take such a computation apart.
-/

namespace LalrBackend.Failure

variable {ε ε' α β : Type}

@[simp] theorem ok_bind (a : α) (f : α → Except ε β) :
    (Except.ok a >>= f) = f a := rfl

@[simp] theorem error_bind (e : ε) (f : α → Except ε β) :
    (Except.error e >>= f) = .error e := rfl

@[simp] theorem pure_eq_ok (a : α) : (pure a : Except ε α) = .ok a := rfl

@[simp] theorem throw_eq_error (e : ε) : (throw e : Except ε α) = .error e := rfl

/-- A step followed by others gives a result if the step does and the others do
on it. -/
theorem bind_eq_ok {x : Except ε α} {f : α → Except ε β} {b : β} :
    (x >>= f) = .ok b ↔ ∃ a, x = .ok a ∧ f a = .ok b := by
  cases x with
  | error e => simp
  | ok a => simp

theorem mapError_eq_ok {x : Except ε α} {f : ε → ε'} {a : α} :
    x.mapError f = .ok a ↔ x = .ok a := by
  cases x with
  | error e => simp [Except.mapError]
  | ok b => simp [Except.mapError]

/-- A step for each member of a list gives the list of what the steps give. -/
theorem forall₂_of_mapM {f : α → Except ε β} {as : List α} {bs : List β}
    (h : as.mapM f = .ok bs) : List.Forall₂ (fun a b => f a = .ok b) as bs := by
  induction as generalizing bs with
  | nil =>
      cases h
      exact .nil
  | cons a as ih =>
      rw [List.mapM_cons] at h
      obtain ⟨b, hb, hrest⟩ := bind_eq_ok.mp h
      obtain ⟨bs, hbs, heq⟩ := bind_eq_ok.mp hrest
      cases heq
      exact .cons hb (ih hbs)

/-! ## Computations with a state -/

variable {σ : Type}

/-- Looks at something that may be refused; the state stays as it is. -/
def look (answer : Except ε α) : EStateM ε σ α :=
  MonadExcept.ofExcept answer

theorem run_look_bind (answer : Except ε α) (next : α → EStateM ε σ β) (s : σ) :
    (look answer >>= next).run s =
      match answer with
      | .ok a => (next a).run s
      | .error e => .error e s := by
  cases answer <;> rfl

/-- The state that a run leaves, whatever it comes to. -/
def leftBy : EStateM.Result ε σ α → σ
  | .ok _ s => s
  | .error _ s => s

end LalrBackend.Failure
