import Mathlib.Tactic.Common

/-!
# Runs of a machine that answers its inputs

A machine takes a state and an input to an output and the next state. A run
feeds it a list of inputs. The rules below carry an invariant of one step to a
whole run, also when the step keeps it only under a condition on the state
before the step and the input.
-/

namespace Mealy

variable {σ ι ο : Type*}

/-- Feed the inputs one after another and collect the outputs. -/
def run (step : σ → ι → ο × σ) (s : σ) : List ι → List ο × σ
  | [] => ([], s)
  | x :: xs => ((step s x).1 :: (run step (step s x).2 xs).1, (run step (step s x).2 xs).2)

/-- The outputs of a run. -/
abbrev outputs (step : σ → ι → ο × σ) (s : σ) (xs : List ι) : List ο := (run step s xs).1

/-- The state a run ends in. -/
abbrev final (step : σ → ι → ο × σ) (s : σ) (xs : List ι) : σ := (run step s xs).2

/-- Every step of the run meets `C` in the state it starts from. -/
def Along (step : σ → ι → ο × σ) (C : σ → ι → Prop) (s : σ) : List ι → Prop
  | [] => True
  | x :: xs => C s x ∧ Along step C (step s x).2 xs

/-- Some step of the run meets `E` in the state it starts from. -/
def Sometime (step : σ → ι → ο × σ) (E : σ → ι → Prop) (s : σ) : List ι → Prop
  | [] => False
  | x :: xs => E s x ∨ Sometime step E (step s x).2 xs

variable {step : σ → ι → ο × σ}

@[simp] theorem run_nil (s : σ) : run step s [] = ([], s) := rfl

@[simp] theorem run_cons (s : σ) (x : ι) (xs : List ι) :
    run step s (x :: xs) =
      ((step s x).1 :: outputs step (step s x).2 xs, final step (step s x).2 xs) := rfl

@[simp] theorem along_nil (C : σ → ι → Prop) (s : σ) : Along step C s [] := trivial

@[simp] theorem along_cons (C : σ → ι → Prop) (s : σ) (x : ι) (xs : List ι) :
    Along step C s (x :: xs) ↔ C s x ∧ Along step C (step s x).2 xs := Iff.rfl

theorem along_append (C : σ → ι → Prop) (s : σ) (xs ys : List ι) :
    Along step C s (xs ++ ys) ↔ Along step C s xs ∧ Along step C (final step s xs) ys := by
  induction xs generalizing s with
  | nil => simp [final]
  | cons x xs ih => simp only [List.cons_append, along_cons, ih, and_assoc, final, run_cons]

theorem along_and {C D : σ → ι → Prop} {s : σ} {xs : List ι} :
    Along step (fun s x => C s x ∧ D s x) s xs ↔ Along step C s xs ∧ Along step D s xs := by
  induction xs generalizing s with
  | nil => simp
  | cons x xs ih =>
    simp only [along_cons, ih]
    exact and_and_and_comm

/-- Conditions that agree on every step that meets `C` agree along the runs that
meet `C`. -/
theorem along_congr {C D E : σ → ι → Prop} (h : ∀ s x, C s x → (D s x ↔ E s x)) {s : σ}
    {xs : List ι} (hc : Along step C s xs) : Along step D s xs ↔ Along step E s xs := by
  induction xs generalizing s with
  | nil => exact Iff.rfl
  | cons x xs ih => exact and_congr (h s x hc.1) (ih hc.2)

theorem along_of_forall {C : ι → Prop} {xs : List ι} (h : ∀ x ∈ xs, C x) (s : σ) :
    Along step (fun _ x => C x) s xs := by
  induction xs generalizing s with
  | nil => trivial
  | cons x xs ih => exact ⟨h x (by simp), ih (fun y hy => h y (by simp [hy])) _⟩

/-- An invariant kept by every step that meets `C` holds at the end of every
run whose steps meet `C`. -/
theorem invariant_final {I : σ → Prop} {C : σ → ι → Prop}
    (hstep : ∀ s x, I s → C s x → I (step s x).2) {s : σ} {xs : List ι}
    (hs : I s) (hc : Along step C s xs) : I (final step s xs) := by
  induction xs generalizing s with
  | nil => exact hs
  | cons x xs ih => exact ih (hstep s x hs hc.1) hc.2

/-- Under an invariant, what every single step guarantees holds along the run. -/
theorem along_of_invariant {I : σ → Prop} {C D : σ → ι → Prop}
    (hstep : ∀ s x, I s → C s x → I (step s x).2) (hd : ∀ s x, I s → C s x → D s x)
    {s : σ} {xs : List ι} (hs : I s) (hc : Along step C s xs) : Along step D s xs := by
  induction xs generalizing s with
  | nil => trivial
  | cons x xs ih => exact ⟨hd s x hs hc.1, ih (hstep s x hs hc.1) hc.2⟩

/-- Conditions that agree on every step under an invariant agree along the runs
from a state that meets it, when the steps that meet the second one keep it. -/
theorem along_iff_of_invariant {I : σ → Prop} {D E : σ → ι → Prop}
    (hiff : ∀ s x, I s → (D s x ↔ E s x)) (hstep : ∀ s x, I s → E s x → I (step s x).2)
    {s : σ} {xs : List ι} (hs : I s) : Along step D s xs ↔ Along step E s xs := by
  induction xs generalizing s with
  | nil => exact Iff.rfl
  | cons x xs ih =>
    rw [along_cons, along_cons, hiff s x hs]
    exact and_congr_right fun hx => ih (hstep s x hs hx)

/-- The same for runs whose steps all meet `C`. -/
theorem along_iff_of_invariant_of {I : σ → Prop} {C D E : σ → ι → Prop}
    (hiff : ∀ s x, I s → C s x → (D s x ↔ E s x))
    (hstep : ∀ s x, I s → C s x → E s x → I (step s x).2)
    {s : σ} {xs : List ι} (hs : I s) (hc : Along step C s xs) :
    Along step D s xs ↔ Along step E s xs := by
  induction xs generalizing s with
  | nil => exact Iff.rfl
  | cons x xs ih =>
    rw [along_cons, along_cons, hiff s x hs hc.1]
    exact and_congr_right fun hx => ih (hstep s x hs hc.1 hx) hc.2

/-- Where a property holds after a step exactly when it held before or the step
meets `E`, it holds at the end of a run exactly when it held at its start or
some step of the run has met `E`. -/
theorem final_iff_sometime {I P : σ → Prop} {E : σ → ι → Prop}
    (hinv : ∀ s x, I s → I (step s x).2) (hstep : ∀ s x, I s → (P (step s x).2 ↔ P s ∨ E s x))
    {s : σ} (hs : I s) (xs : List ι) : P (final step s xs) ↔ P s ∨ Sometime step E s xs := by
  induction xs generalizing s with
  | nil => exact (or_iff_left id).symm
  | cons x xs ih => exact (ih (hinv s x hs)).trans ((or_congr_left (hstep s x hs)).trans or_assoc)

end Mealy
