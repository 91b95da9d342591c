import RgbLightningNode.Lib.Mealy
import RgbLightningNode.Channels.SweepPlan
import RgbLightningNode.Runs.Sweeps

/-!
# Tokens are swept once

The Lightning library asks for the same sweep again and again, until its transaction
has confirmed. A sweep that moves tokens is made once: its transaction is kept in
memory and on disk, and given again without the wallet being asked.
-/

namespace RgbLightningNode

open Fallible

variable {D ContractId P Tx : Type}

/-- One call for a transaction, with whatever wallet there is. -/
structure WalletSweep (D ContractId P Tx : Type) where
  io : SweepIo D ContractId P Tx
  wallet : SweepWallet ContractId P
  descriptors : List (SpendableOutputDescriptor D)
  outputs : List TxOut
  changeDestinationScript : ScriptBuf
  feerateSatPer1000Weight : Nat
  locktime : Option Nat

/-- What the library knows a sweep by. -/
def WalletSweep.hash (sweep : WalletSweep D ContractId P Tx) : Nat :=
  sweep.io.hash sweep.descriptors

inductive SpenderInput (D ContractId P Tx : Type) where
  | sweep (sweep : WalletSweep D ContractId P Tx)
  /-- The node goes down, whatever it is at, and starts again. -/
  | restart

namespace RgbOutputSpender

/-- With the transactions read from the disk. -/
def load (stored : HashMap Nat Tx) : PoisonMutex (SweeperTxes Tx) := .new ⟨stored, stored⟩

variable [DecidableEq ContractId] (overflowChecks : Bool) (proxyEndpoint : String)

def spend (sweep : WalletSweep D ContractId P Tx) : Fallible (Exit Unit) (SweeperTxes Tx) Tx :=
  spendUnlocked overflowChecks proxyEndpoint sweep.io sweep.wallet sweep.descriptors
    sweep.outputs sweep.changeDestinationScript sweep.feerateSatPer1000Weight sweep.locktime

def step (m : PoisonMutex (SweeperTxes Tx)) : SpenderInput D ContractId P Tx →
    Option (Except (Exit Unit) Tx) × PoisonMutex (SweeperTxes Tx)
  | .sweep sweep =>
    let answered := outcome (spendSpendableOutputs overflowChecks proxyEndpoint sweep.io
      sweep.wallet sweep.descriptors sweep.outputs sweep.changeDestinationScript
      sweep.feerateSatPer1000Weight sweep.locktime) m
    (some answered.1, answered.2)
  | .restart => (none, load m.inner.stored)

variable {overflowChecks proxyEndpoint} {m : PoisonMutex (SweeperTxes Tx)}
  {sweep : WalletSweep D ContractId P Tx} {s t : SweeperTxes Tx} {hash : Nat} {tx : Tx}

/-! ### One sweep -/

theorem spend_of_known (h : s.txes.lookup sweep.hash = some tx) :
    spend overflowChecks proxyEndpoint sweep s = .ok tx s := by
  rw [spend, spendUnlocked, bind_of_ok (get_apply s)]
  simp only [show s.txes.lookup (sweep.io.hash sweep.descriptors) = some tx from h]
  rfl

/-- A sweep that stops has stored nothing, and if it stops with an error it has made
nothing either. -/
theorem spend_error {e : Exit Unit} (h : spend overflowChecks proxyEndpoint sweep s = .error e t) :
    t.stored = s.stored ∧ (Exit.answers e → t = s) := by
  rw [spend, spendUnlocked, bind_of_ok (get_apply s)] at h
  cases hknown : s.txes.lookup (sweep.io.hash sweep.descriptors) with
  | some tx =>
    simp only [hknown] at h
    cases h
  | none =>
    simp only [hknown] at h
    rcases attempt_bind_eq_error h with rfl | ⟨plan, -, h⟩
    · exact ⟨rfl, fun _ => rfl⟩
    split at h
    · obtain ⟨-, rfl⟩ := attempt_eq_error_iff.mp h
      exact ⟨rfl, fun _ => rfl⟩
    rcases attempt_bind_eq_error h with rfl | ⟨⟨spendingTx, consignments⟩, -, h⟩
    · exact ⟨rfl, fun _ => rfl⟩
    cases hruntime : sweep.io.inRuntime with
    | false =>
      rw [hruntime, bind_of_error (ensure_apply false _ s)] at h
      obtain ⟨-, rfl⟩ := EStateM.Result.error.inj h
      exact ⟨rfl, fun _ => rfl⟩
    | true =>
      rw [hruntime, bind_of_ok (ensure_apply true _ s)] at h
      rcases attempt_bind_eq_error h with rfl | ⟨⟨⟩, -, h⟩
      · exact ⟨rfl, fun _ => rfl⟩
      rw [bind_of_ok (modify_apply _ s)] at h
      -- the transaction is in memory by now, and a write that fails is a panic
      cases hwrite : sweep.io.writeTxes with
      | false =>
        rw [hwrite, bind_of_error (ensure_apply false _ _)] at h
        obtain ⟨rfl, rfl⟩ := EStateM.Result.error.inj h
        exact ⟨rfl, fun hanswers => hanswers.elim⟩
      | true =>
        rw [hwrite, bind_of_ok (ensure_apply true _ _)] at h
        cases h

/-- A sweep that returns has kept its transaction in memory and on disk, or has
changed nothing; one that has moved tokens has kept it. -/
theorem spend_ok (h : spend overflowChecks proxyEndpoint sweep s = .ok tx t) :
    (t = s ∨ s.txes.lookup sweep.hash = none ∧
        t = ⟨s.txes.insert sweep.hash tx, s.txes.insert sweep.hash tx⟩) ∧
      (sweep.io.carried sweep.descriptors ≠ [] → t.txes.lookup sweep.hash = some tx) := by
  cases hknown : s.txes.lookup sweep.hash with
  | some known =>
    rw [spend_of_known hknown] at h
    obtain ⟨rfl, rfl⟩ := EStateM.Result.ok.inj h
    exact ⟨.inl rfl, fun _ => hknown⟩
  | none =>
    rcases sweep_accounts hknown h with ⟨hnone, rfl, -⟩ | ⟨-, rfl, -⟩
    · exact ⟨.inl rfl, fun hcarried => absurd hnone hcarried⟩
    · exact ⟨.inr ⟨rfl, rfl⟩, fun _ => Finmap.lookup_insert _⟩

/-! ### Runs -/

/-- A mutex in order guards what the disk holds too. -/
def Synced (m : PoisonMutex (SweeperTxes Tx)) : Prop :=
  m.poisoned = false → m.inner.txes = m.inner.stored

theorem step_of_poisoned (h : m.poisoned = true) :
    step overflowChecks proxyEndpoint m (.sweep sweep) = (some (.error poisonError), m) := by
  simp only [step, outcome, spendSpendableOutputs, PoisonMutex.locked_of_poisoned h]

theorem step_of_spend_ok (h : m.poisoned = false)
    (hspend : spend overflowChecks proxyEndpoint sweep m.inner = .ok tx t) :
    step overflowChecks proxyEndpoint m (.sweep sweep) = (some (.ok tx), ⟨false, t⟩) := by
  rw [spend] at hspend
  simp only [step, outcome, spendSpendableOutputs, PoisonMutex.locked_of_ok h hspend]

theorem step_of_spend_error {e : Exit Unit} (h : m.poisoned = false)
    (hspend : spend overflowChecks proxyEndpoint sweep m.inner = .error e t) :
    step overflowChecks proxyEndpoint m (.sweep sweep) =
      (some (.error e), ⟨decide ¬e.answers, t⟩) := by
  rw [spend] at hspend
  simp only [step, outcome, spendSpendableOutputs, PoisonMutex.locked_of_error h hspend]

theorem Synced.step (hm : Synced m) (x : SpenderInput D ContractId P Tx) :
    Synced (step overflowChecks proxyEndpoint m x).2 := by
  cases x with
  | restart => exact fun _ => rfl
  | sweep sweep =>
    cases hpoison : m.poisoned with
    | true => rwa [step_of_poisoned hpoison]
    | false =>
      cases hspend : spend overflowChecks proxyEndpoint sweep m.inner with
      | ok tx t =>
        rw [step_of_spend_ok hpoison hspend]
        rcases (spend_ok hspend).1 with rfl | ⟨-, rfl⟩
        · exact fun _ => hm hpoison
        · exact fun _ => rfl
      | error e t =>
        rw [step_of_spend_error hpoison hspend]
        intro hclean
        rw [(spend_error hspend).2 (by simpa using hclean)]
        exact hm hpoison

/-- What the disk holds, it holds from then on. -/
theorem stored_step (hm : Synced m) (h : m.inner.stored.lookup hash = some tx)
    (x : SpenderInput D ContractId P Tx) :
    (step overflowChecks proxyEndpoint m x).2.inner.stored.lookup hash = some tx := by
  cases x with
  | restart => exact h
  | sweep sweep =>
    cases hpoison : m.poisoned with
    | true => rwa [step_of_poisoned hpoison]
    | false =>
      cases hspend : spend overflowChecks proxyEndpoint sweep m.inner with
      | ok tx' t =>
        rw [step_of_spend_ok hpoison hspend]
        rcases (spend_ok hspend).1 with rfl | ⟨hnew, rfl⟩
        · exact h
        · rw [← hm hpoison] at h
          have hne : hash ≠ sweep.hash := by
            rintro rfl
            rw [h] at hnew
            cases hnew
          exact (Finmap.lookup_insert_of_ne _ hne).trans h
      | error e t =>
        rw [step_of_spend_error hpoison hspend]
        exact (congrArg _ (spend_error hspend).1).trans h

/-- A sweep known by the hash gives the transaction and changes nothing, unless an
earlier panic has left the mutex poisoned. -/
def Repeats (overflowChecks : Bool) (proxyEndpoint : String) (hash : Nat) (tx : Tx)
    (m : PoisonMutex (SweeperTxes Tx)) :
    SpenderInput D ContractId P Tx → Prop
  | .sweep sweep => sweep.hash = hash →
    step overflowChecks proxyEndpoint m (.sweep sweep) =
      (some (if m.poisoned then .error poisonError else .ok tx), m)
  | .restart => True

/-- Once a sweep has moved tokens, all later ones for the same outputs give its
transaction, whatever the wallet adapter answers and whatever sweeps and restarts there
are before and in between. -/
theorem swept_once (stored : HashMap Nat Tx) (before after : List (SpenderInput D ContractId P Tx))
    (sweep : WalletSweep D ContractId P Tx)
    (hcarried : sweep.io.carried sweep.descriptors ≠ [])
    (hswept : (step overflowChecks proxyEndpoint
      (Mealy.final (step overflowChecks proxyEndpoint) (load stored) before) (.sweep sweep)).1 =
        some (.ok tx)) :
    Mealy.Along (step overflowChecks proxyEndpoint)
      (Repeats overflowChecks proxyEndpoint sweep.hash tx)
      (step overflowChecks proxyEndpoint
        (Mealy.final (step overflowChecks proxyEndpoint) (load stored) before) (.sweep sweep)).2
      after := by
  have hsynced : Synced (Mealy.final (step overflowChecks proxyEndpoint) (load stored) before) :=
    Mealy.invariant_final (C := fun _ _ => True) (fun _ x hm _ => hm.step x) (fun _ => rfl)
      (Mealy.along_of_forall (fun _ _ => trivial) _)
  generalize Mealy.final (step overflowChecks proxyEndpoint) (load stored) before = m
    at hsynced hswept ⊢
  refine Mealy.along_of_invariant (C := fun _ _ => True)
    (I := fun m => Synced m ∧ m.inner.stored.lookup sweep.hash = some tx)
    (fun m x hm _ => ⟨hm.1.step x, stored_step hm.1 hm.2 x⟩) (fun m x hm _ => ?_)
    ⟨hsynced.step _, ?_⟩ (Mealy.along_of_forall (fun _ _ => trivial) _)
  · cases x with
    | restart => trivial
    | sweep later =>
      intro hhash
      cases hpoison : m.poisoned with
      | true => rw [step_of_poisoned hpoison, if_pos rfl]
      | false =>
        have hknown : m.inner.txes.lookup later.hash = some tx := by
          rw [hhash, hm.1 hpoison]
          exact hm.2
        rw [step_of_spend_ok hpoison (spend_of_known hknown), if_neg Bool.false_ne_true, ← hpoison]
  · have hafter : Synced (step overflowChecks proxyEndpoint m (.sweep sweep)).2 :=
      hsynced.step (.sweep sweep)
    cases hpoison : m.poisoned with
    | true =>
      rw [step_of_poisoned hpoison] at hswept
      cases hswept
    | false =>
      cases hspend : spend overflowChecks proxyEndpoint sweep m.inner with
      | ok tx' t =>
        rw [step_of_spend_ok hpoison hspend] at hswept hafter ⊢
        obtain rfl : tx' = tx := Except.ok.inj (Option.some.inj hswept)
        rw [← hafter rfl]
        exact (spend_ok hspend).2 hcarried
      | error e t =>
        rw [step_of_spend_error hpoison hspend] at hswept
        cases hswept

def threeChannelsSweep : WalletSweep Unit ℕ Unit String :=
  ⟨threeChannelsIo, coloringWallet, threeChannels, [], ⟨[]⟩, 253, none⟩

/-- The sweep as the adapter for F1r3fly is asked for it, which colours nothing. -/
def storedSweep : WalletSweep Unit ℕ Unit String :=
  { threeChannelsSweep with wallet := f1r3flyWallet false }

/-- The same sweep again, before and after a restart: one that has been coloured, and
one that is on disk from before and goes through the adapter for F1r3fly. -/
theorem threeChannels_swept_once :
    Mealy.Along (step true "rpc://proxy")
        (Repeats true "rpc://proxy" 3 "swept")
        (step true "rpc://proxy" (load ∅) (.sweep threeChannelsSweep)).2
        [.sweep threeChannelsSweep, .restart, .sweep threeChannelsSweep] ∧
      Mealy.Along (step true "rpc://proxy")
        (Repeats true "rpc://proxy" 3 "swept")
        (step true "rpc://proxy" (load ((∅ : HashMap ℕ String).insert 3 "swept"))
          (.sweep storedSweep)).2
        [.sweep storedSweep, .restart, .sweep storedSweep] :=
  ⟨swept_once ∅ [] _ threeChannelsSweep (List.cons_ne_nil _ _) rfl,
    swept_once ((∅ : HashMap ℕ String).insert 3 "swept") [] _ storedSweep
      (List.cons_ne_nil _ _) rfl⟩

end RgbOutputSpender

end RgbLightningNode
