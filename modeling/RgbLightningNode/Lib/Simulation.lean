import RgbLightningNode.Lib.Fallible
import RgbLightningNode.Lib.Mealy

/-!
# Simulation

Two programs over different states agree when they end alike and leave related
states behind. What holds of the parts holds of their sequence, and machines whose
steps agree answer alike along every run.
-/

namespace Fallible

variable {ε σ τ α β : Type} {R : σ → τ → Prop}

/-- Two endings with the same answer, in related states. -/
def Agree (R : σ → τ → Prop) : EStateM.Result ε σ α → EStateM.Result ε τ α → Prop
  | .ok a s, .ok b t => a = b ∧ R s t
  | .error e s, .error f t => e = f ∧ R s t
  | _, _ => False

/-- From related states two programs agree. -/
def Simulates (R : σ → τ → Prop) (x : Fallible ε σ α) (y : Fallible ε τ α) : Prop :=
  ∀ s t, R s t → Agree R (x s) (y t)

theorem Agree.outcome {x : Fallible ε σ α} {y : Fallible ε τ α} {s : σ} {t : τ}
    (h : Agree R (x s) (y t)) :
    (outcome x s).1 = (outcome y t).1 ∧ R (outcome x s).2 (outcome y t).2 := by
  unfold Fallible.outcome
  rcases hx : x s with ⟨a, s'⟩ | ⟨e, s'⟩ <;> rcases hy : y t with ⟨b, t'⟩ | ⟨f, t'⟩ <;>
    rw [hx, hy] at h
  · exact ⟨congrArg _ h.1, h.2⟩
  · exact h.elim
  · exact h.elim
  · exact ⟨congrArg _ h.1, h.2⟩

/-- From related states, parts that agree and continuations that simulate. -/
theorem Agree.bind {x : Fallible ε σ α} {y : Fallible ε τ α} {f : α → Fallible ε σ β}
    {g : α → Fallible ε τ β} {s : σ} {t : τ} (h : Agree R (x s) (y t))
    (hf : ∀ a, Simulates R (f a) (g a)) : Agree R ((x >>= f) s) ((y >>= g) t) := by
  rw [bind_apply, bind_apply]
  rcases hx : x s with ⟨a, s'⟩ | ⟨e, s'⟩ <;> rcases hy : y t with ⟨b, t'⟩ | ⟨e', t'⟩ <;>
    rw [hx, hy] at h
  · obtain ⟨rfl, hR⟩ := h
    exact hf a s' t' hR
  · exact h.elim
  · exact h.elim
  · exact h

namespace Simulates

theorem pure (a : α) : Simulates R (Pure.pure a : Fallible ε σ α) (Pure.pure a) :=
  fun _ _ h => ⟨rfl, h⟩

theorem throw (e : ε) : Simulates R (MonadExcept.throw e : Fallible ε σ α)
    (MonadExcept.throw e : Fallible ε τ α) :=
  fun _ _ h => ⟨rfl, h⟩

theorem attempt (x : Except ε α) :
    Simulates R (Fallible.attempt x : Fallible ε σ α) (Fallible.attempt x : Fallible ε τ α) := by
  cases x with
  | ok a => exact pure a
  | error e => exact throw e

theorem bind {x : Fallible ε σ α} {y : Fallible ε τ α} {f : α → Fallible ε σ β}
    {g : α → Fallible ε τ β} (h : Simulates R x y) (hf : ∀ a, Simulates R (f a) (g a)) :
    Simulates R (x >>= f) (y >>= g) :=
  fun s t hR => (h s t hR).bind hf

/-- What is read of the two states need not be the same. -/
theorem get_bind {f : σ → Fallible ε σ α} {g : τ → Fallible ε τ α}
    (h : ∀ s t, R s t → Agree R (f s s) (g t t)) :
    Simulates R (do let s ← get; f s) (do let t ← get; g t) := h

/-- The states are replaced by related ones. -/
theorem set {s' : σ} {t' : τ} (h : R s' t') :
    Simulates (ε := ε) R (MonadStateOf.set s' : Fallible ε σ PUnit) (MonadStateOf.set t') :=
  fun _ _ _ => ⟨rfl, h⟩

end Simulates

end Fallible

namespace Mealy

variable {σ τ ι ο : Type*} {step : σ → ι → ο × σ} {step' : τ → ι → ο × τ} {R : σ → τ → Prop}

/-- Machines whose steps agree on related states give the same answers to the same
inputs, and end in related states. -/
theorem run_of_simulation {C : ι → Prop}
    (hstep : ∀ s t x, R s t → C x → (step s x).1 = (step' t x).1 ∧ R (step s x).2 (step' t x).2)
    {s : σ} {t : τ} {xs : List ι} (hR : R s t) (hC : ∀ x ∈ xs, C x) :
    outputs step s xs = outputs step' t xs ∧ R (final step s xs) (final step' t xs) := by
  induction xs generalizing s t with
  | nil => exact ⟨rfl, hR⟩
  | cons x xs ih =>
    obtain ⟨hx, hxs⟩ := List.forall_mem_cons.mp hC
    obtain ⟨hout, hnext⟩ := hstep s t x hR hx
    obtain ⟨houts, hend⟩ := ih hnext hxs
    exact ⟨by simp only [outputs, run_cons, hout, houts], hend⟩

end Mealy
