import Mathlib.Algebra.BigOperators.Group.Finset.Basic
import Mathlib.Algebra.Order.BigOperators.Group.Finset

/-!
# Ledgers

A ledger says how much lies at each place, and to whom it belongs. A transfer takes
from a place that belongs to its signer and holds enough. The lemmas say what the
operations keep, and what a total over some places says about one of them.
-/

structure Ledger (K A : Type*) where
  amount : K → ℕ
  owner : K → Option A

namespace Ledger

variable {K A : Type*}

/-- Nothing anywhere. -/
def empty : Ledger K A := ⟨fun _ => 0, fun _ => none⟩

/-- What lies at some places together. -/
def total (l : Ledger K A) (places : Finset K) : ℕ := ∑ k ∈ places, l.amount k

variable [DecidableEq K]

def withdraw (k : K) (n : ℕ) (l : Ledger K A) : Ledger K A :=
  { l with amount := Function.update l.amount k (l.amount k - n) }

/-- Put something at a place, which then belongs to `a`; putting nothing there
changes nothing. -/
def deposit (k : K) (n : ℕ) (a : A) (l : Ledger K A) : Ledger K A :=
  if n = 0 then l
  else ⟨Function.update l.amount k (l.amount k + n), Function.update l.owner k (some a)⟩

/-- Move from one place to another, for the owner of the first. -/
def transfer [DecidableEq A] (signer : A) (src dst : K) (n : ℕ) (a : A) (l : Ledger K A) :
    Option (Ledger K A) :=
  if l.owner src = some signer ∧ n ≤ l.amount src then some ((l.withdraw src n).deposit dst n a)
  else none

theorem transfer_isSome_iff [DecidableEq A] {signer a : A} {src dst : K} {n : ℕ}
    {l : Ledger K A} :
    (l.transfer signer src dst n a).isSome ↔ l.owner src = some signer ∧ n ≤ l.amount src := by
  unfold transfer
  split <;> simp_all

/-! ### What the operations keep -/

@[simp] theorem owner_withdraw (k : K) (n : ℕ) (l : Ledger K A) :
    (l.withdraw k n).owner = l.owner := rfl

theorem amount_withdraw_le (k other : K) (n : ℕ) (l : Ledger K A) :
    (l.withdraw k n).amount other ≤ l.amount other := by
  unfold withdraw
  by_cases h : other = k
  · subst h
    simp
  · simp [h]

theorem amount_deposit_of_ne {k other : K} (h : other ≠ k) (n : ℕ) (a : A) (l : Ledger K A) :
    (l.deposit k n a).amount other = l.amount other := by
  unfold deposit
  split
  · rfl
  · exact Function.update_of_ne h _ _

theorem owner_deposit_of_ne {k other : K} (h : other ≠ k) (n : ℕ) (a : A) (l : Ledger K A) :
    (l.deposit k n a).owner other = l.owner other := by
  unfold deposit
  split
  · rfl
  · exact Function.update_of_ne h _ _

theorem owner_deposit_self {n : ℕ} (hn : n ≠ 0) (k : K) (a : A) (l : Ledger K A) :
    (l.deposit k n a).owner k = some a := by
  simp [deposit, hn]

theorem amount_deposit_self (k : K) (n : ℕ) (a : A) (l : Ledger K A) :
    (l.deposit k n a).amount k = l.amount k + n := by
  unfold deposit
  split
  · rename_i hn
    rw [hn, Nat.add_zero]
  · simp

@[simp] theorem deposit_zero (k : K) (a : A) (l : Ledger K A) : l.deposit k 0 a = l := by
  simp [deposit]

/-- Of the places, only those hold something that held something before, and
they belong to the same owner. -/
def NoNewAt (places : Finset K) (l l' : Ledger K A) : Prop :=
  ∀ k ∈ places, 0 < l'.amount k → 0 < l.amount k ∧ l'.owner k = l.owner k

omit [DecidableEq K] in
theorem noNewAt_refl (places : Finset K) (l : Ledger K A) : NoNewAt places l l :=
  fun _ _ h => ⟨h, rfl⟩

theorem noNewAt_withdraw (places : Finset K) (l : Ledger K A) (k : K) (n : ℕ) :
    NoNewAt places l (l.withdraw k n) :=
  fun other _ h => ⟨h.trans_le (amount_withdraw_le k other n l), rfl⟩

theorem NoNewAt.deposit {places : Finset K} {l l' : Ledger K A} (h : NoNewAt places l l') {k : K}
    (hk : k ∉ places) (n : ℕ) (a : A) : NoNewAt places l (l'.deposit k n a) := by
  intro other ho hpos
  have hne : other ≠ k := fun heq => hk (heq ▸ ho)
  rw [amount_deposit_of_ne hne] at hpos
  rw [owner_deposit_of_ne hne]
  exact h other ho hpos

/-! ### Totals -/

omit [DecidableEq K] in
/-- A total is there only where some place holds something. -/
theorem exists_pos_of_total_pos {l : Ledger K A} {places : Finset K} (h : 0 < l.total places) :
    ∃ k ∈ places, 0 < l.amount k := by
  by_contra hnone
  have hzero : l.total places = 0 :=
    Finset.sum_eq_zero fun k hk => Nat.eq_zero_of_not_pos fun hpos => hnone ⟨k, hk, hpos⟩
  omega

omit [DecidableEq K] in
/-- A place holds the total when no other place holds anything. -/
theorem total_le_amount {l : Ledger K A} {places : Finset K} {k : K}
    (h : ∀ other ∈ places, other ≠ k → l.amount other = 0) : l.total places ≤ l.amount k := by
  by_cases hk : k ∈ places
  · exact (Finset.sum_eq_single_of_mem k hk h).le
  · have hzero : l.total places = 0 :=
      Finset.sum_eq_zero fun other ho => h other ho fun heq => hk (heq ▸ ho)
    omega

/-- A place of the sum that holds the whole total leaves the others nothing. -/
theorem amount_eq_zero_of_total_le {l : Ledger K A} {places : Finset K} {k other : K}
    (hk : k ∈ places) (h : l.total places ≤ l.amount k) (ho : other ∈ places) (hne : other ≠ k) :
    l.amount other = 0 := by
  have hsum : l.total places = l.amount k + ∑ x ∈ places.erase k, l.amount x :=
    (Finset.add_sum_erase places l.amount hk).symm
  have hle : l.amount other ≤ ∑ x ∈ places.erase k, l.amount x :=
    Finset.single_le_sum (fun _ _ => Nat.zero_le _) (Finset.mem_erase.mpr ⟨hne, ho⟩)
  omega

end Ledger
