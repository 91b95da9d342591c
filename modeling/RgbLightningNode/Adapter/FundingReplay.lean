import RgbLightningNode.Lib.Mealy
import RgbLightningNode.Adapter.SendEnd

/-!
# Completing one funding again and again

The library delivers the event that completes a funding until it is handled.
The completion moves the tokens in the call whose broadcast the network
accepts; every later call is told that the transaction is known and moves
nothing, also when the accepted call stopped before the transfer.
-/

namespace RgbLightningNode

open Fallible SerdeJson

namespace FundingReplay

/-- One call for the same PSBT: the transaction id when it returns Ok. -/
def step (psbt : SignedPsbt) (w : FundingWorld) (io : SendEndIo) : Option String × FundingWorld :=
  match sendEnd io psbt w with
  | .ok txid w' => (some txid, w')
  | .error _ w' => (none, w')

/-- The call reads the details and knows the output. -/
def Prepared (psbt : SignedPsbt) (w : FundingWorld) (io : SendEndIo) (details : TransferDetails)
    (out : FundingOutput) : Prop :=
  readTransferDetails io.readDetails w.pendingRgbTransfer = .ok details ∧
    fundingOutput psbt = .ok out

/-- The network accepts the transaction in this call. -/
def Broadcasts (psbt : SignedPsbt) (w : FundingWorld) (io : SendEndIo) : Prop :=
  (∃ details out, Prepared psbt w io details out) ∧ io.broadcast = .ok ()

/-- The call is told that the transaction is known. -/
def Skips (psbt : SignedPsbt) (w : FundingWorld) (io : SendEndIo) : Prop :=
  (∃ details out, Prepared psbt w io details out) ∧
    ∃ e, io.broadcast = .error e ∧ alreadyKnown e = true

/-- Every step up to the contract's answer succeeds in this call. -/
def Transfers (psbt : SignedPsbt) (w : FundingWorld) (io : SendEndIo) : Prop :=
  ∃ details out transfer, Prepared psbt w io details out ∧
    transferTokens io details out = .ok transfer

/-- What is known of a broadcast: it is accepted once, and said to be known only
after that. -/
def Lawful (psbt : SignedPsbt) (w : FundingWorld) (io : SendEndIo) : Prop :=
  (Broadcasts psbt w io → w.accepted = false) ∧ (Skips psbt w io → w.accepted = true)

/-! ### One call -/

variable {psbt : SignedPsbt} {w : FundingWorld} {io : SendEndIo} {ios : List SendEndIo}
  {details : TransferDetails} {out : FundingOutput}

theorem step_of_not_prepared (h : ¬∃ details out, Prepared psbt w io details out) :
    step psbt w io = (none, w) := by
  rcases hd : readTransferDetails io.readDetails w.pendingRgbTransfer with exit | details
  · rw [step, sendEnd, bind_of_ok (get_apply w), hd, bind_of_error (attempt_error exit w)]
  rcases ho : fundingOutput psbt with exit | out
  · rw [step, sendEnd, bind_of_ok (get_apply w), hd, bind_of_ok (attempt_ok details w),
      completeSend, ho, bind_of_error (attempt_error exit w)]
  · exact absurd ⟨details, out, hd, ho⟩ h

theorem sendEnd_of_prepared (h : Prepared psbt w io details out) :
    sendEnd io psbt w = (do
      broadcastAndMove io details out
      modify (removeDetails io)
      return out.txid : Fallible (Exit String) FundingWorld String) w := by
  rw [sendEnd, bind_of_ok (get_apply w), h.1, bind_of_ok (attempt_ok details w), completeSend, h.2,
    bind_of_ok (attempt_ok out w)]

theorem removeDetails_keeps (io : SendEndIo) (w : FundingWorld) :
    (removeDetails io w).accepted = w.accepted ∧ (removeDetails io w).transfers = w.transfers := by
  unfold removeDetails
  split <;> exact ⟨rfl, rfl⟩

/-- A call that is told that the transaction is known returns Ok and moves
nothing. -/
theorem step_of_skips (h : Skips psbt w io) : ∃ txid, (step psbt w io).1 = some txid ∧
    (step psbt w io).2.accepted = w.accepted ∧ (step psbt w io).2.transfers = w.transfers := by
  obtain ⟨⟨details, out, hp⟩, e, hb, hk⟩ := h
  have hmove : broadcastAndMove io details out w = .ok () w := by
    simp only [broadcastAndMove, hb, hk, if_true]
    rfl
  have hs : step psbt w io = (some out.txid, removeDetails io w) := by
    rw [step, sendEnd_of_prepared hp, bind_of_ok hmove, bind_of_ok (modify_apply _ w)]
    rfl
  rw [hs]
  exact ⟨out.txid, rfl, removeDetails_keeps io w⟩

/-- A call whose broadcast fails for another reason changes nothing. -/
theorem step_of_failed_broadcast (hb : ¬Broadcasts psbt w io) (hs : ¬Skips psbt w io) :
    step psbt w io = (none, w) := by
  by_cases h : ∃ details out, Prepared psbt w io details out
  swap
  · exact step_of_not_prepared h
  obtain ⟨details, out, hp⟩ := h
  rcases hbr : io.broadcast with e | ⟨⟩
  · have hk : alreadyKnown e ≠ true := fun hk => hs ⟨⟨details, out, hp⟩, e, hbr, hk⟩
    have hmove : broadcastAndMove io details out w =
        .error (.err s!"Failed to broadcast TX: {e}") w := by
      simp only [broadcastAndMove, hbr, if_neg hk]
      rfl
    rw [step, sendEnd_of_prepared hp, bind_of_error hmove]
  · exact absurd ⟨⟨details, out, hp⟩, hbr⟩ hb

theorem step_snd (psbt : SignedPsbt) (w : FundingWorld) (io : SendEndIo) :
    (step psbt w io).2 = after (sendEnd io psbt) w := by
  unfold step after
  cases sendEnd io psbt w <;> rfl

/-- A call that stops between the broadcast and the transfer has moved nothing. -/
theorem step_of_stopped (hb : Broadcasts psbt w io) (ht : ¬Transfers psbt w io) :
    step psbt w io = (none, { w with accepted := true }) := by
  obtain ⟨⟨details, out, hp⟩, hbr⟩ := hb
  rcases hmove : transferTokens io details out with exit | transfer
  · have h : broadcastAndMove io details out w = .error exit { w with accepted := true } := by
      simp only [broadcastAndMove, hbr]
      rw [bind_of_ok (modify_apply _ w), moveTokens, hmove, bind_of_error (attempt_error exit _)]
    rw [step, sendEnd_of_prepared hp, bind_of_error h]
  · exact absurd ⟨details, out, transfer, hp, hmove⟩ ht

/-- A call whose transfer succeeds has moved the tokens once, whatever it
returns. -/
theorem step_of_transfers (hp : Prepared psbt w io details out) (hb : io.broadcast = .ok ())
    {transfer : Transfer} (ht : transferTokens io details out = .ok transfer) :
    (step psbt w io).2.accepted = true ∧
      (step psbt w io).2.transfers = w.transfers ++ [transfer] := by
  obtain ⟨f, hrecord⟩ := after_recordTransfer io details out
    { w with accepted := true, transfers := w.transfers ++ [transfer] }
  have hmove : broadcastAndMove io details out w = recordTransfer io details out
      { w with accepted := true, transfers := w.transfers ++ [transfer] } := by
    simp only [broadcastAndMove, hb]
    rw [bind_of_ok (modify_apply _ w), moveTokens, ht, bind_of_ok (attempt_ok transfer _),
      bind_of_ok (modify_apply _ _)]
  rw [step_snd, after, sendEnd_of_prepared hp]
  rcases hr : recordTransfer io details out
      { w with accepted := true, transfers := w.transfers ++ [transfer] } with ⟨⟨⟩, w'⟩ | ⟨exit, w'⟩
  · rw [bind_of_ok (hmove.trans hr), bind_of_ok (modify_apply _ w')]
    rw [after_of_ok hr] at hrecord
    subst hrecord
    exact removeDetails_keeps io _
  · rw [bind_of_error (hmove.trans hr)]
    rw [after_of_error hr] at hrecord
    subst hrecord
    exact ⟨rfl, rfl⟩

/-- The transfer moves the amount of the details to the output of the PSBT. -/
theorem transfer_of_transferTokens {transfer : Transfer}
    (h : transferTokens io details out = .ok transfer) :
    transfer.amount = details.rgbAmount ∧ transfer.target = out.witnessId := by
  obtain ⟨state, _, h⟩ := except_bind_eq_ok_iff.mp h
  obtain ⟨source, _, h⟩ := except_bind_eq_ok_iff.mp h
  obtain ⟨_, _, h⟩ := except_bind_eq_ok_iff.mp h
  obtain ⟨_, _, h⟩ := except_bind_eq_ok_iff.mp h
  obtain ⟨index, _, h⟩ := except_bind_eq_ok_iff.mp h
  obtain ⟨recipientPubkey, _, h⟩ := except_bind_eq_ok_iff.mp h
  obtain ⟨_, _, h⟩ := except_bind_eq_ok_iff.mp h
  obtain ⟨_, _, h⟩ := except_bind_eq_ok_iff.mp h
  obtain ⟨_, _, h⟩ := except_bind_eq_ok_iff.mp h
  obtain rfl := Except.ok.inj h
  exact ⟨rfl, rfl⟩

/-! ### A sequence of calls -/

/-- The tokens of the details have been moved once to the output of the PSBT. -/
def MovedOnce (psbt : SignedPsbt) (w w' : FundingWorld) : Prop :=
  ∃ details out transfer, readTransferDetails (.ok ()) w.pendingRgbTransfer = .ok details ∧
    fundingOutput psbt = .ok out ∧ transfer.amount = details.rgbAmount ∧
    transfer.target = out.witnessId ∧ w'.transfers = w.transfers ++ [transfer]

/-- When a call of the sequence returns Ok, the tokens have been moved exactly
once over the whole sequence. -/
def ExactlyOnce (psbt : SignedPsbt) (w : FundingWorld) (ios : List SendEndIo) : Prop :=
  (∃ txid, some txid ∈ Mealy.outputs (step psbt) w ios) →
    MovedOnce psbt w (Mealy.final (step psbt) w ios)

/-- No call of the sequence is told that the transaction is known. -/
def NeverSkips (psbt : SignedPsbt) (w : FundingWorld) (ios : List SendEndIo) : Prop :=
  Mealy.Along (step psbt) (fun w io => ¬Skips psbt w io) w ios

/-- A call whose broadcast is accepted gets the transfer done, or no later call
is told that the transaction is known. -/
def TransfersOrNeverSkips (psbt : SignedPsbt) (w : FundingWorld) : List SendEndIo → Prop
  | [] => True
  | io :: ios => (Broadcasts psbt w io →
      Transfers psbt w io ∨ NeverSkips psbt (step psbt w io).2 ios) ∧
    TransfersOrNeverSkips psbt (step psbt w io).2 ios

/-- Once the transaction is accepted no call moves tokens, and only one that is
told so returns Ok. -/
theorem accepted_run (hacc : w.accepted = true)
    (hlaw : Mealy.Along (step psbt) (Lawful psbt) w ios) :
    (Mealy.final (step psbt) w ios).transfers = w.transfers ∧
      TransfersOrNeverSkips psbt w ios ∧
      ((∃ txid, some txid ∈ Mealy.outputs (step psbt) w ios) ↔ ¬NeverSkips psbt w ios) := by
  induction ios generalizing w with
  | nil => exact ⟨rfl, trivial, by simp [NeverSkips, Mealy.outputs]⟩
  | cons io ios ih =>
    have hb : ¬Broadcasts psbt w io := fun hb => by
      simpa [hacc] using hlaw.1.1 hb
    by_cases hs : Skips psbt w io
    · obtain ⟨txid, hout, hacc', htransfers⟩ := step_of_skips hs
      obtain ⟨hfinal, hrest, -⟩ := ih (hacc'.trans hacc) hlaw.2
      refine ⟨hfinal.trans htransfers, ⟨fun h => absurd h hb, hrest⟩, ?_⟩
      refine iff_of_true ⟨txid, ?_⟩ fun hn => hn.1 hs
      rw [Mealy.outputs, Mealy.run_cons, hout]
      exact List.mem_cons_self
    · have hstep := step_of_failed_broadcast hb hs
      have hacc' : (step psbt w io).2.accepted = true := by rw [hstep]; exact hacc
      obtain ⟨hfinal, hrest, hiff⟩ := ih hacc' hlaw.2
      refine ⟨?_, ⟨fun h => absurd h hb, hrest⟩, ?_⟩
      · exact hfinal.trans (by rw [hstep])
      · rw [Mealy.outputs, Mealy.run_cons, hstep]
        simp only [List.mem_cons, reduceCtorEq, false_or]
        rw [hstep] at hiff
        rw [hiff, NeverSkips, NeverSkips, Mealy.along_cons, hstep]
        simp [hs]

/-- From a transaction the network does not know: the tokens are moved exactly once for
every sequence that returns Ok, if and only if the call of the accepted broadcast makes
the transfer or no later call is told that the transaction is known. -/
theorem exactlyOnce_iff (hfresh : w.accepted = false)
    (hlaw : Mealy.Along (step psbt) (Lawful psbt) w ios) :
    ExactlyOnce psbt w ios ↔ TransfersOrNeverSkips psbt w ios := by
  induction ios generalizing w with
  | nil => simp [ExactlyOnce, TransfersOrNeverSkips, Mealy.outputs]
  | cons io ios ih =>
    have hs : ¬Skips psbt w io := fun hs => by
      simpa [hfresh] using hlaw.1.2 hs
    by_cases hb : Broadcasts psbt w io
    swap
    · -- nothing has happened yet
      have hstep := step_of_failed_broadcast hb hs
      have hrest := hlaw.2
      simp only [hstep] at hrest
      simp only [ExactlyOnce, TransfersOrNeverSkips, Mealy.outputs, Mealy.final, Mealy.run_cons,
        hstep, hb, false_imp_iff, true_and, List.mem_cons, reduceCtorEq, false_or]
      exact ih hfresh hrest
    by_cases ht : Transfers psbt w io
    · obtain ⟨details, out, transfer, hp, htokens⟩ := ht
      obtain ⟨hacc, htransfers⟩ := step_of_transfers hp hb.2 htokens
      obtain ⟨hfinal, hrest, -⟩ := accepted_run hacc hlaw.2
      obtain ⟨hamount, htarget⟩ := transfer_of_transferTokens htokens
      have hd := hp.1
      rw [readTransferDetails_io hd] at hd
      exact iff_of_true
        (fun _ => ⟨details, out, transfer, hd, hp.2, hamount, htarget, hfinal.trans htransfers⟩)
        ⟨fun _ => .inl ⟨details, out, transfer, hp, htokens⟩, hrest⟩
    · -- accepted, and stopped before the transfer: nothing will be moved any more
      have hstep := step_of_stopped hb ht
      have hacc : (step psbt w io).2.accepted = true := by rw [hstep]
      obtain ⟨hfinal, hrest, hiff⟩ := accepted_run hacc hlaw.2
      have hnone : (Mealy.final (step psbt) w (io :: ios)).transfers = w.transfers :=
        hfinal.trans (by rw [hstep])
      have hout : (∃ txid, some txid ∈ Mealy.outputs (step psbt) w (io :: ios)) ↔
          ¬NeverSkips psbt (step psbt w io).2 ios := by
        rw [← hiff, Mealy.outputs, Mealy.run_cons]
        simp [hstep]
      constructor
      · refine fun h => ⟨fun _ => .inr ?_, hrest⟩
        by_contra hskips
        obtain ⟨_, _, transfer, _, _, _, _, hmoved⟩ := h (hout.mpr hskips)
        exact absurd (hnone.symm.trans hmoved) (by simp)
      · intro h hok
        exact absurd ((h.1 hb).resolve_left ht) (hout.mp hok)

/-! ### The transfer fails once -/

/-- A node with the issued contract in its state file, whose every step works. -/
def everyStepWorks : SendEndIo where
  readDetails := .ok ()
  broadcast := .ok ()
  readState := .ok ()
  state := .doc (.obj [("genesis_utxos", .obj [("rgb:asset",
    .obj [("txid", .str "ab01"), ("vout", .num 0)])])])
  contractsManager := true
  parseContractId := fun _ => .ok ()
  derivationIndex := fun _ => .ok 4
  childKey := fun _ => .ok "02ab"
  signature := fun _ _ _ => .ok ()
  contractLoaded := fun _ => true
  transfer := fun _ => .ok ()
  saveState := .ok ()
  locked := ⟨.ok (), .ok (), .ok ()⟩
  now := 100
  removeDetails := true

/-- The same node when the contract's answer does not come. -/
def transferFails : SendEndIo :=
  { everyStepWorks with transfer := fun _ => .error "deploy timed out" }

/-- The same node after the network has accepted the transaction. -/
def toldKnown : SendEndIo :=
  { everyStepWorks with broadcast := .error "Transaction already in utxo set" }

/-- A channel of 50000 and the details of 600 tokens for it. -/
def fundingOf600 : SignedPsbt :=
  .signed ⟨"f00d", [⟨50000, ⟨[0, 32, 7]⟩⟩, ⟨0, .newOpReturn [1, 2, 3]⟩]⟩

def begunWith600 : FundingWorld :=
  ⟨.doc (transferDetailsJson "rgb:asset" 600 50000), .missing, false, []⟩

theorem lawful_of_retry {first : SendEndIo} (hf : first.broadcast = .ok ())
    (hacc : (step fundingOf600 begunWith600 first).2.accepted = true) :
    Mealy.Along (step fundingOf600) (Lawful fundingOf600) begunWith600 [first, toldKnown] := by
  refine ⟨⟨fun _ => rfl, ?_⟩, ⟨?_, fun _ => hacc⟩, trivial⟩
  · rintro ⟨-, e, he, -⟩
    cases hf.symm.trans he
  · rintro ⟨-, hb⟩
    cases hb

/-- The rule when the first call does everything and the event comes again. -/
theorem exactlyOnce_of_second_delivery :
    ExactlyOnce fundingOf600 begunWith600 [everyStepWorks, toldKnown] ↔
      TransfersOrNeverSkips fundingOf600 begunWith600 [everyStepWorks, toldKnown] :=
  exactlyOnce_iff rfl (lawful_of_retry rfl (by decide +kernel))

/-- The broadcast is accepted, the transfer fails, and the second call returns
Ok without one. -/
theorem completed_without_transfer :
    ¬∀ (psbt : SignedPsbt) (w : FundingWorld) (ios : List SendEndIo), w.accepted = false →
      Mealy.Along (step psbt) (Lawful psbt) w ios → ExactlyOnce psbt w ios := by
  intro hall
  have hok : some "f00d" ∈
      Mealy.outputs (step fundingOf600) begunWith600 [transferFails, toldKnown] := by
    decide +kernel
  have hnone :
      (Mealy.final (step fundingOf600) begunWith600 [transferFails, toldKnown]).transfers = [] := by
    decide +kernel
  obtain ⟨_, _, transfer, _, _, _, _, hmoved⟩ :=
    hall fundingOf600 begunWith600 [transferFails, toldKnown] rfl
      (lawful_of_retry rfl (by decide +kernel)) ⟨_, hok⟩
  rw [hnone] at hmoved
  exact absurd hmoved (by simp)

end FundingReplay

end RgbLightningNode
