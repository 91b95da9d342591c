import RgbLightningNode.Lib.Fallible

/-!
# Mutexes that a panic poisons

A program that runs under a mutex does not start when the mutex is poisoned, and
poisons it by a stop that is not clean.
-/

structure PoisonMutex (σ : Type) where
  poisoned : Bool
  inner : σ

namespace PoisonMutex

open Fallible

variable {ε σ α : Type} {clean : ε → Prop} [DecidablePred clean] {poisonError : ε}
  {x : Fallible ε σ α} {m : PoisonMutex σ} {s : σ}

def new (s : σ) : PoisonMutex σ := ⟨false, s⟩

/-- Run a program on what the mutex guards. -/
def locked (clean : ε → Prop) [DecidablePred clean] (poisonError : ε) (x : Fallible ε σ α) :
    Fallible ε (PoisonMutex σ) α := fun m =>
  if m.poisoned then .error poisonError m
  else
    match x m.inner with
    | .ok a s => .ok a ⟨false, s⟩
    | .error e s => .error e ⟨decide ¬clean e, s⟩

theorem locked_of_poisoned (h : m.poisoned = true) :
    locked clean poisonError x m = .error poisonError m := if_pos h

theorem locked_of_ok (h : m.poisoned = false) {a : α} (hx : x m.inner = .ok a s) :
    locked clean poisonError x m = .ok a ⟨false, s⟩ := by
  rw [locked, h, hx]
  rfl

theorem locked_of_error (h : m.poisoned = false) {e : ε} (hx : x m.inner = .error e s) :
    locked clean poisonError x m = .error e ⟨decide ¬clean e, s⟩ := by
  rw [locked, h, hx]
  rfl

/-- What the program leaves behind is under the mutex, poisoned or not. -/
theorem inner_after_locked (h : m.poisoned = false) :
    (after (locked clean poisonError x) m).inner = after x m.inner := by
  cases hx : x m.inner with
  | ok a s => rw [after_of_ok (locked_of_ok h hx), after_of_ok hx]
  | error e s => rw [after_of_error (locked_of_error h hx), after_of_error hx]

/-- Only clean stops come out of a mutex that is not poisoned and a program that
stops so. -/
theorem stopsOnly_locked_iff (hpoison : ¬clean poisonError) :
    StopsOnly clean (locked clean poisonError x) m ↔
      m.poisoned = false ∧ StopsOnly clean x m.inner := by
  cases hm : m.poisoned with
  | true =>
    refine iff_of_false (fun h => hpoison ?_) fun h => by cases h.1
    exact h poisonError m (locked_of_poisoned hm)
  | false =>
    constructor
    · intro h
      exact ⟨rfl, fun e s hx => h e _ (locked_of_error hm hx)⟩
    · rintro ⟨-, h⟩ e m' hlocked
      cases hx : x m.inner with
      | ok a s =>
        rw [locked_of_ok hm hx] at hlocked
        cases hlocked
      | error e' s =>
        rw [locked_of_error hm hx] at hlocked
        obtain ⟨rfl, -⟩ := EStateM.Result.error.inj hlocked
        exact h e' s hx

/-- A program that stops cleanly gives the mutex back as it was. -/
theorem poisoned_after_locked (h : m.poisoned = false) (hx : StopsOnly clean x m.inner) :
    (after (locked clean poisonError x) m).poisoned = false := by
  cases hrun : x m.inner with
  | ok a s => rw [after_of_ok (locked_of_ok h hrun)]
  | error e s =>
    rw [after_of_error (locked_of_error h hrun)]
    exact decide_eq_false (not_not.mpr (hx e s hrun))

end PoisonMutex
