import Mathlib.Algebra.BigOperators.Group.List.Basic
import Mathlib.Algebra.Ring.Nat

/-!
# Arithmetic of machine numbers

Sums and differences of unsigned numbers of `w` bits. A program built with
overflow checks stops with an exit where the result does not fit; one built
without them goes on with the result modulo `2 ^ w`.
-/

namespace MachineInt

variable {ε : Type} {w : Nat} {overflowChecks : Bool} {e : ε}

def add (w : Nat) (overflowChecks : Bool) (e : ε) (x y : Nat) : Except ε Nat :=
  if x + y < 2 ^ w then .ok (x + y)
  else if overflowChecks then .error e
  else .ok ((x + y) % 2 ^ w)

def sub (w : Nat) (overflowChecks : Bool) (e : ε) (x y : Nat) : Except ε Nat :=
  if y ≤ x then .ok (x - y)
  else if overflowChecks then .error e
  else .ok (x + 2 ^ w - y)

/-- The sum of a list, number by number. -/
def sum (w : Nat) (overflowChecks : Bool) (e : ε) (l : List Nat) : Except ε Nat :=
  l.foldlM (add w overflowChecks e) 0

theorem sub_of_le {x y : Nat} (h : y ≤ x) : sub w overflowChecks e x y = .ok (x - y) := if_pos h

/-- Adding number by number overflows if and only if the whole sum does. -/
theorem foldlM_add {x : Nat} (hx : x < 2 ^ w) (l : List Nat) :
    l.foldlM (add w overflowChecks e) x =
      if x + l.sum < 2 ^ w then .ok (x + l.sum)
      else if overflowChecks then .error e
      else .ok ((x + l.sum) % 2 ^ w) := by
  induction l generalizing x with
  | nil => rw [List.sum_nil, Nat.add_zero, if_pos hx]; rfl
  | cons y l ih =>
    rw [List.foldlM_cons, List.sum_cons, ← Nat.add_assoc, add]
    by_cases hy : x + y < 2 ^ w
    · rw [if_pos hy]
      exact ih hy
    · have hsum : ¬x + y + l.sum < 2 ^ w := fun h => hy (Nat.lt_of_add_right_lt h)
      rw [if_neg hy, if_neg hsum]
      cases overflowChecks with
      | true => rfl
      | false =>
        -- what is left out so far is left out in the end
        refine (ih (Nat.mod_lt _ (Nat.two_pow_pos w))).trans ?_
        rw [if_neg Bool.false_ne_true, ← Nat.mod_add_mod (x + y)]
        split
        · rename_i hfits
          rw [Nat.mod_eq_of_lt hfits]
          rfl
        · rfl

theorem sum_eq (l : List Nat) :
    sum w overflowChecks e l =
      if l.sum < 2 ^ w then .ok l.sum
      else if overflowChecks then .error e
      else .ok (l.sum % 2 ^ w) := by
  rw [sum, foldlM_add (Nat.two_pow_pos w), Nat.zero_add]

/-! ### What is held for an integer -/

/-- What is held in `w` bits for the integer `n`. A program with overflow checks that
got this far has not left out anything. -/
def Holds (w : Nat) (overflowChecks : Bool) (n x : Nat) : Prop :=
  x = n % 2 ^ w ∧ (overflowChecks = true → n < 2 ^ w)

theorem holds_of_lt {n : Nat} (h : n < 2 ^ w) : Holds w overflowChecks n n :=
  ⟨(Nat.mod_eq_of_lt h).symm, fun _ => h⟩

theorem holds_self_iff {n : Nat} : Holds w overflowChecks n n ↔ n < 2 ^ w :=
  ⟨fun h => h.1 ▸ Nat.mod_lt _ (Nat.two_pow_pos w), holds_of_lt⟩

theorem holds_iff_of_lt {n x : Nat} (h : n < 2 ^ w) : Holds w overflowChecks n x ↔ x = n := by
  rw [Holds, Nat.mod_eq_of_lt h]
  exact and_iff_left fun _ => h

/-- The result of an operation is what is held for the integer it stands for. -/
theorem result_eq_ok_iff {n x : Nat} :
    (if n < 2 ^ w then .ok n
      else if overflowChecks then .error e
      else .ok (n % 2 ^ w) : Except ε Nat) = .ok x ↔ Holds w overflowChecks n x := by
  rw [Holds, @eq_comm _ x]
  by_cases hn : n < 2 ^ w
  · simp [hn, Nat.mod_eq_of_lt hn]
  · cases overflowChecks with
    | true => simp [hn]
    | false => simp [hn]

theorem add_eq_ok_iff {x y z : Nat} :
    add w overflowChecks e x y = .ok z ↔ Holds w overflowChecks (x + y) z :=
  result_eq_ok_iff

theorem sum_eq_ok_iff {l : List Nat} {x : Nat} :
    sum w overflowChecks e l = .ok x ↔ Holds w overflowChecks l.sum x := by
  rw [sum_eq]
  exact result_eq_ok_iff

/-- A sum is the sum of the integers if and only if that fits. -/
theorem sum_eq_ok_sum_iff {l : List Nat} :
    sum w overflowChecks e l = .ok l.sum ↔ l.sum < 2 ^ w :=
  sum_eq_ok_iff.trans holds_self_iff

theorem sum_eq_error {l : List Nat} (hc : overflowChecks = true) (h : ¬l.sum < 2 ^ w) :
    sum w overflowChecks e l = .error e := by
  rw [sum_eq, if_neg h, if_pos hc]

theorem Holds.add {n x y z : Nat} (h : Holds w overflowChecks n x)
    (hadd : MachineInt.add w overflowChecks e x y = .ok z) :
    Holds w overflowChecks (n + y) z := by
  obtain ⟨rfl, hfits⟩ := h
  obtain ⟨hz, hfit⟩ := add_eq_ok_iff.mp hadd
  refine ⟨hz.trans (Nat.mod_add_mod _ _ _), fun hc => ?_⟩
  rw [← Nat.mod_eq_of_lt (hfits hc)]
  exact hfit hc

end MachineInt
