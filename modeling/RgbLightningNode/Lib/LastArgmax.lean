import Mathlib.Data.List.MinMax

/-!
# The last largest element

A search for the largest element that lets later elements win ties, and its
outcome on a list in which one element is marked.
-/

namespace LastArgmax

variable {α : Type}

/-- The element with the largest key; of several the last one. -/
def lastArgmax (key : α → ℕ) (xs : List α) : Option α := xs.reverse.argmax key

theorem mem_of_lastArgmax {key : α → ℕ} {xs : List α} {y : α}
    (h : lastArgmax key xs = some y) : y ∈ xs :=
  List.mem_reverse.mp (List.argmax_mem h)

/-- A marked element is found exactly when nothing before it is larger and
everything behind it is smaller. -/
theorem lastArgmax_append_cons_iff [DecidableEq α] (key : α → ℕ) (before : List α)
    {after : List α} {y : α} (hafter : y ∉ after) :
    lastArgmax key (before ++ y :: after) = some y ↔
      (∀ x ∈ before, key x ≤ key y) ∧ ∀ x ∈ after, key x < key y := by
  have hrev : (before ++ y :: after).reverse = after.reverse ++ y :: before.reverse := by simp
  have hidx : (after.reverse ++ y :: before.reverse).idxOf y = after.length := by
    rw [List.idxOf_append_of_notMem (by simpa using hafter)]
    simp
  rw [lastArgmax, hrev, ← Option.mem_def, List.mem_argmax_iff]
  constructor
  · rintro ⟨-, hle, hfirst⟩
    refine ⟨fun x hx => hle x (by simp [hx]), fun x hx => ?_⟩
    refine lt_of_le_of_ne (hle x (by simp [hx])) fun heq => ?_
    have hpos := hfirst x (by simp [hx]) heq.ge
    have hx' : x ∈ after.reverse := by simpa using hx
    rw [hidx, List.idxOf_append_of_mem hx'] at hpos
    have := List.idxOf_lt_length_of_mem hx'
    simp only [List.length_reverse] at this
    omega
  · rintro ⟨hbefore, hbehind⟩
    refine ⟨by simp, fun x hx => ?_, fun x _ hge => ?_⟩
    · simp only [List.mem_append, List.mem_reverse, List.mem_cons] at hx
      rcases hx with hx | rfl | hx
      · exact (hbehind x hx).le
      · exact le_rfl
      · exact hbefore x hx
    · have hx' : x ∉ after.reverse := fun hx => by
        have := hbehind x (by simpa using hx)
        omega
      rw [hidx, List.idxOf_append_of_notMem hx', List.length_reverse]
      omega

end LastArgmax
