import RgbLightningNode.Lib.Mealy
import RgbLightningNode.Channels.OutputSpender

/-!
# Sweeps, one after another

The wallet adapter does not know the height of any transaction, and the sweeper
unwraps the height of each that has left tokens. What it panics with is the end of
all sweeps: the mutex of the transactions stays poisoned.
-/

namespace RgbLightningNode

open Fallible

variable {D ContractId P Tx : Type}

/-- The adapter for F1r3fly, under whose lock of the wallet manager a thread may have
panicked. -/
def f1r3flyWallet (managerPoisoned : Bool) : SweepWallet ContractId P where
  getTxHeight _ := .ok none
  updateWitnesses _ _ := .ok []
  witnessReceive _ :=
    if managerPoisoned then .error poisonError
    else .error (.err (.other "blind_receive: Not fully implemented"))
  colorPsbtAndConsume _ _ := .error (.other "color_psbt_and_consume: Not fully implemented")

/-- One call for a transaction. -/
structure Sweep (D ContractId P Tx : Type) where
  io : SweepIo D ContractId P Tx
  managerPoisoned : Bool
  descriptors : List (SpendableOutputDescriptor D)
  outputs : List TxOut
  changeDestinationScript : ScriptBuf
  feerateSatPer1000Weight : Nat
  locktime : Option Nat

/-- The output carries no tokens that anything is known of. -/
def SweepIo.Plain (io : SweepIo D ContractId P Tx) (descriptor : SpendableOutputDescriptor D) :
    Prop :=
  ∀ found ∈ io.readRgbTransferInfo s!"{descriptor.outpoint.txid}_transfer_info",
    ∃ info, found = .ok info ∧ info.rgbAmount = 0

/-- The outputs have been spent before, or none of them carries tokens. -/
def Sweep.Harmless (txes : HashMap Nat Tx) (sweep : Sweep D ContractId P Tx) : Prop :=
  (txes.lookup (sweep.io.hash sweep.descriptors)).isSome = true ∨
    ∀ descriptor ∈ sweep.descriptors, sweep.io.Plain descriptor

variable [DecidableEq ContractId]

namespace OutputSweeper

variable (overflowChecks : Bool) (proxyEndpoint : String)

def spend (sweep : Sweep D ContractId P Tx) : Fallible (Exit Unit) (SweeperTxes Tx) Tx :=
  spendUnlocked overflowChecks proxyEndpoint sweep.io (f1r3flyWallet sweep.managerPoisoned)
    sweep.descriptors sweep.outputs sweep.changeDestinationScript sweep.feerateSatPer1000Weight
    sweep.locktime

def step (m : PoisonMutex (SweeperTxes Tx)) (sweep : Sweep D ContractId P Tx) :
    Except (Exit Unit) Tx × PoisonMutex (SweeperTxes Tx) :=
  outcome (spendSpendableOutputs overflowChecks proxyEndpoint sweep.io
    (f1r3flyWallet sweep.managerPoisoned) sweep.descriptors sweep.outputs
    sweep.changeDestinationScript sweep.feerateSatPer1000Weight sweep.locktime) m

/-- The sweep answers, and leaves the mutex without poison. -/
def Answers (m : PoisonMutex (SweeperTxes Tx)) (sweep : Sweep D ContractId P Tx) : Prop :=
  FailsOnly Exit.answers (step overflowChecks proxyEndpoint m sweep).1 ∧
    (step overflowChecks proxyEndpoint m sweep).2.poisoned = false

/-! ### One sweep -/

variable {io : SweepIo D ContractId P Tx} {managerPoisoned : Bool}
  {descriptors : List (SpendableOutputDescriptor D)} {sweep : Sweep D ContractId P Tx}

open SweepPlan

theorem addDescriptor_of_plain {descriptor : SpendableOutputDescriptor D}
    (h : io.Plain descriptor) (plan : SweepPlan ContractId) :
    plan.addDescriptor overflowChecks proxyEndpoint io (f1r3flyWallet managerPoisoned) descriptor =
      .ok plan := by
  unfold SweepPlan.addDescriptor
  cases hfound : io.readRgbTransferInfo s!"{descriptor.outpoint.txid}_transfer_info" with
  | none => simp only [hfound]
  | some found =>
    obtain ⟨info, rfl, hzero⟩ := h found hfound
    simp only [hfound, if_pos hzero]

/-- The height of a transaction that has left tokens is not known. -/
theorem addDescriptor_of_not_plain {descriptor : SpendableOutputDescriptor D}
    (h : ¬io.Plain descriptor) (plan : SweepPlan ContractId) :
    ∃ message, plan.addDescriptor overflowChecks proxyEndpoint io (f1r3flyWallet managerPoisoned)
      descriptor = .error (.panic none message) := by
  unfold SweepPlan.addDescriptor
  cases hfound : io.readRgbTransferInfo s!"{descriptor.outpoint.txid}_transfer_info" with
  | none => exact absurd (fun found hmem => by simp [hfound] at hmem) h
  | some found =>
    cases found with
    | error message => exact ⟨message, by simp only [hfound]⟩
    | ok info =>
      have hamount : info.rgbAmount ≠ 0 := by
        intro hzero
        refine h fun found hmem => ⟨info, ?_, hzero⟩
        exact (Option.some.inj (hfound.symm.trans hmem)).symm
      refine ⟨"called `Option::unwrap()` on a `None` value", ?_⟩
      simp only [hfound, if_neg hamount]
      rfl

/-- Outputs without tokens leave the plan as it is. -/
theorem foldlM_addDescriptor_of_plain (h : ∀ descriptor ∈ descriptors, io.Plain descriptor)
    (plan : SweepPlan ContractId) :
    descriptors.foldlM (SweepPlan.addDescriptor overflowChecks proxyEndpoint io
      (f1r3flyWallet managerPoisoned)) plan = .ok plan := by
  induction descriptors with
  | nil => rfl
  | cons descriptor descriptors ih =>
    obtain ⟨hfirst, hrest⟩ := List.forall_mem_cons.mp h
    rw [List.foldlM_cons, addDescriptor_of_plain overflowChecks proxyEndpoint hfirst]
    exact ih hrest

theorem foldlM_addDescriptor_of_not_plain
    (h : ¬∀ descriptor ∈ descriptors, io.Plain descriptor) (plan : SweepPlan ContractId) :
    ∃ message, descriptors.foldlM (SweepPlan.addDescriptor overflowChecks proxyEndpoint io
      (f1r3flyWallet managerPoisoned)) plan = .error (.panic none message) := by
  induction descriptors with
  | nil => exact absurd (List.forall_mem_nil _) h
  | cons descriptor descriptors ih =>
    rw [List.foldlM_cons]
    by_cases hfirst : io.Plain descriptor
    · rw [addDescriptor_of_plain overflowChecks proxyEndpoint hfirst]
      exact ih fun hrest => h (List.forall_mem_cons.mpr ⟨hfirst, hrest⟩)
    · obtain ⟨message, hpanic⟩ := addDescriptor_of_not_plain overflowChecks proxyEndpoint
        hfirst plan
      exact ⟨message, by rw [hpanic]; rfl⟩

/-- With the transactions locked, a sweep panics if and only if it has to deal with
tokens. -/
theorem stopsOnly_spend_iff (s : SweeperTxes Tx) :
    StopsOnly Exit.answers (spend overflowChecks proxyEndpoint sweep) s ↔
      sweep.Harmless s.txes := by
  rw [spend, spendUnlocked, StopsOnly.bind_of_ok_iff (get_apply s), Sweep.Harmless]
  cases hknown : s.txes.lookup (sweep.io.hash sweep.descriptors) with
  | some tx => exact iff_of_true (.pure tx) (.inl rfl)
  | none =>
    by_cases hplain : ∀ descriptor ∈ sweep.descriptors, sweep.io.Plain descriptor
    · refine iff_of_true ?_ (.inr hplain)
      rw [foldlM_addDescriptor_of_plain overflowChecks proxyEndpoint hplain,
        StopsOnly.bind_of_ok_iff (attempt_ok _ s)]
      rw [if_pos rfl, StopsOnly.attempt_iff]
      cases sweep.io.keysManagerSpend sweep.descriptors sweep.outputs
        sweep.changeDestinationScript sweep.feerateSatPer1000Weight sweep.locktime with
      | ok tx => exact .ok tx
      | error e => exact FailsOnly.error_iff.mpr trivial
    · refine iff_of_false (fun h => ?_) (not_or.mpr ⟨by simp, hplain⟩)
      obtain ⟨message, hpanic⟩ := foldlM_addDescriptor_of_not_plain overflowChecks proxyEndpoint
        hplain ⟨0, true, sweep.outputs, []⟩
      rw [hpanic] at h
      exact FailsOnly.error_iff.mp (StopsOnly.attempt_bind_iff.mp h).1

theorem answers_iff (m : PoisonMutex (SweeperTxes Tx)) :
    Answers overflowChecks proxyEndpoint m sweep ↔
      m.poisoned = false ∧ sweep.Harmless m.inner.txes := by
  have hstops := PoisonMutex.stopsOnly_locked_iff (x := spend overflowChecks proxyEndpoint sweep)
    (m := m) not_answers_poisonError
  rw [stopsOnly_spend_iff] at hstops
  rw [← hstops]
  constructor
  · exact fun h => StopsOnly.outcome_iff.mp h.1
  · intro h
    refine ⟨StopsOnly.outcome_iff.mpr h, ?_⟩
    obtain ⟨hm, hspend⟩ := (PoisonMutex.stopsOnly_locked_iff not_answers_poisonError).mp h
    exact (congrArg _ (outcome_snd _ m)).trans (PoisonMutex.poisoned_after_locked hm hspend)

/-! ### Many sweeps -/

/-- Every sweep answers, whatever sweeps came before, if and only if none has to deal
with tokens. -/
theorem along_answers_iff (txes : SweeperTxes Tx) (sweeps : List (Sweep D ContractId P Tx)) :
    Mealy.Along (step overflowChecks proxyEndpoint) (Answers overflowChecks proxyEndpoint)
        (.new txes) sweeps ↔
      Mealy.Along (step overflowChecks proxyEndpoint)
        (fun m sweep => sweep.Harmless m.inner.txes) (.new txes) sweeps := by
  refine Mealy.along_iff_of_invariant (I := fun m => m.poisoned = false)
    (fun m sweep hm => ?_) (fun m sweep hm hharmless => ?_) rfl
  · rw [answers_iff]
    exact and_iff_right hm
  · exact ((answers_iff overflowChecks proxyEndpoint m).mpr ⟨hm, hharmless⟩).2

/-- A sweep of one output, with the transfer info of its transaction. -/
def sweepOf (info : Option (RgbTransferInfo ℕ)) : Sweep Unit ℕ Unit Unit where
  io :=
    { hash := fun _ => 0
      readRgbTransferInfo := fun name =>
        if name = "aa_transfer_info" then info.map .ok else none
      scriptBufFromRecipientId := fun _ => none
      keysManagerSpend := fun _ _ _ _ _ => .ok ()
      createSpendableOutputsPsbt := fun _ _ _ _ _ => some ()
      reparse := some
      signSpendableOutputsPsbt := fun _ => some
      extractTx := .ok
      computeTxid := fun _ => "bb"
      inRuntime := true
      saveConsignment := fun _ _ => true
      proxyUrl := some "http://proxy"
      postConsignment := fun _ _ _ _ _ => true
      removeConsignment := fun _ => true
      writeTxes := true }
  managerPoisoned := false
  descriptors := [.delayedPaymentOutput ⟨"aa", 0⟩ ()]
  outputs := []
  changeDestinationScript := ⟨[]⟩
  feerateSatPer1000Weight := 253
  locktime := none

/-- An output of a coloured channel ends the sweeps, those of plain outputs too. -/
theorem panics_on_tokens :
    ¬Mealy.Along (step true "") (Answers true "") (.new ⟨∅, ∅⟩) [sweepOf (some ⟨1, 600⟩)] ∧
      (step true "" (step true "" (.new ⟨∅, ∅⟩) (sweepOf (some ⟨1, 600⟩))).2 (sweepOf none)).1 =
        .error poisonError := by
  constructor
  · rintro ⟨hanswers, -⟩
    exact absurd hanswers.2 (by decide)
  · rfl

end OutputSweeper

end RgbLightningNode
