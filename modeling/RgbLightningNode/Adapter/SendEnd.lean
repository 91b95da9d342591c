import RgbLightningNode.Adapter.Funding

/-!
# Completing a coloured funding

`sendEnd` broadcasts the signed funding transaction and moves the tokens of the
transfer details to its output. A broadcast that answers that the transaction is
known is read as a completion that has already been done.
-/

namespace RgbLightningNode

open Fallible SerdeJson

/-- A signed PSBT as text: it may not parse, or not be final. -/
inductive SignedPsbt where
  | invalid (e : String)
  | unfinished (e : String)
  | signed (tx : Transaction)

/-- The answers of everything outside to one completion. -/
structure SendEndIo where
  readDetails : Except String Unit
  broadcast : Except String Unit
  readState : Except String Unit
  state : File
  contractsManager : Bool
  parseContractId : String → Except String Unit
  derivationIndex : String → Except String Nat
  /-- The public key that belongs to the child key at an index, in hex. -/
  childKey : Nat → Except String String
  signature : (source target : String) → (amount : Nat) → Except String Unit
  contractLoaded : String → Bool
  transfer : Transfer → Except String Unit
  saveState : Except String Unit
  locked : LockedIo
  now : Nat
  removeDetails : Bool

/-- The output the tokens go to. -/
structure FundingOutput where
  txid : String
  vout : Nat
  deriving DecidableEq

def FundingOutput.witnessId (out : FundingOutput) : String := s!"witness:{out.txid}:{out.vout}"

def fundingOutput : SignedPsbt → Except (Exit String) FundingOutput
  | .invalid e => .error (.err s!"Invalid PSBT: {e}")
  | .unfinished e => .error (.err s!"Failed to extract TX from PSBT: {e}")
  | .signed tx => do
    let vout ← orErr (fundingVout tx.output) "No funding output found in TX"
    return ⟨tx.txid, vout⟩

/-- Whether an error of the broadcast says that the transaction is known. -/
def alreadyKnown (errMsg : String) : Bool :=
  Text.contains errMsg.toList "already in utxo set".toList ||
    Text.contains errMsg.toList "txn-already-in-mempool".toList

/-- The steps from a broadcast to the contract's answer to the transfer. -/
def transferTokens (io : SendEndIo) (details : TransferDetails) (out : FundingOutput) :
    Except (Exit String) Transfer := do
  let state ← readJson "f1r3fly_state.json" io.readState io.state
  let genesisUtxo ← genesisSource state details.contractId
  orErr (if io.contractsManager then some () else none) "Contracts manager not initialized"
  withContext "Invalid contract ID" (io.parseContractId details.contractId)
  let index ← withContext "Failed to get derivation index" (io.derivationIndex details.contractId)
  let recipientPubkey ← withContext "Failed to get signing key" (io.childKey index)
  withContext "Failed to generate transfer signature"
    (io.signature genesisUtxo out.witnessId details.rgbAmount)
  orErr (if io.contractLoaded details.contractId then some () else none)
    s!"Contract {details.contractId} not found"
  let transfer : Transfer := ⟨genesisUtxo, out.witnessId, details.rgbAmount, recipientPubkey⟩
  withContext "F1r3node transfer failed" (io.transfer transfer)
  return transfer

/-- Run a program on the file of locked outputs, with a context for its errors. -/
def onLocked (context : String) (x : Fallible (Exit String) File Unit) :
    Fallible (Exit String) FundingWorld Unit := fun w =>
  match x w.lockedChannelUtxos with
  | .ok () f => .ok () { w with lockedChannelUtxos := f }
  | .error (.err e) f => .error (.err s!"{context}: {e}") { w with lockedChannelUtxos := f }
  | .error (.panic held e) f => .error (.panic held e) { w with lockedChannelUtxos := f }

/-- Save the contracts and record where the tokens are locked. -/
def recordTransfer (io : SendEndIo) (details : TransferDetails) (out : FundingOutput) :
    Fallible (Exit String) FundingWorld Unit := do
  attempt (withContext "Failed to save state after transfer" io.saveState)
  attempt (orErr (if out.vout < 2 ^ 32 then some () else none) "Funding vout overflow")
  onLocked "Failed to track locked UTXO"
    (trackLockedUtxo io.locked details.contractId out.txid out.vout details.rgbAmount io.now)

def moveTokens (io : SendEndIo) (details : TransferDetails) (out : FundingOutput) :
    Fallible (Exit String) FundingWorld Unit := do
  let transfer ← attempt (transferTokens io details out)
  modify fun w => { w with transfers := w.transfers ++ [transfer] }
  recordTransfer io details out

/-- Broadcast the transaction; when the network accepts it, move the tokens. -/
def broadcastAndMove (io : SendEndIo) (details : TransferDetails) (out : FundingOutput) :
    Fallible (Exit String) FundingWorld Unit :=
  match io.broadcast with
  | .ok () => do
    modify fun w => { w with accepted := true }
    moveTokens io details out
  | .error e =>
    -- a known transaction stands for everything behind its broadcast
    if alreadyKnown e then pure () else throw (.err s!"Failed to broadcast TX: {e}")

def removeDetails (io : SendEndIo) (w : FundingWorld) : FundingWorld :=
  if io.removeDetails then { w with pendingRgbTransfer := .missing } else w

/-- The completion, once the details are read. -/
def completeSend (io : SendEndIo) (signedPsbt : SignedPsbt) (details : TransferDetails) :
    Fallible (Exit String) FundingWorld String := do
  let out ← attempt (fundingOutput signedPsbt)
  broadcastAndMove io details out
  modify (removeDetails io)
  return out.txid

def sendEnd (io : SendEndIo) (signedPsbt : SignedPsbt) :
    Fallible (Exit String) FundingWorld String := do
  let w ← get
  let details ← attempt (readTransferDetails io.readDetails w.pendingRgbTransfer)
  completeSend io signedPsbt details

/-! ### The file of details -/

theorem after_onLocked (context : String) (x : Fallible (Exit String) File Unit)
    (w : FundingWorld) : after (onLocked context x) w =
      { w with lockedChannelUtxos := after x w.lockedChannelUtxos } := by
  unfold after onLocked
  rcases x w.lockedChannelUtxos with ⟨⟨⟩, f⟩ | ⟨_ | _, f⟩ <;> rfl

/-- Recording a transfer changes the file of locked outputs only, also when a step of it
fails. -/
theorem after_recordTransfer (io : SendEndIo) (details : TransferDetails) (out : FundingOutput)
    (w : FundingWorld) : ∃ f, after (recordTransfer io details out) w =
      { w with lockedChannelUtxos := f } := by
  rw [recordTransfer]
  rcases after_attempt_bind (withContext "Failed to save state after transfer" io.saveState) _ w
    with h | ⟨_, -, h⟩
  · exact ⟨_, h⟩
  rw [h]
  rcases after_attempt_bind (orErr (if out.vout < 2 ^ 32 then some () else none)
    "Funding vout overflow") _ w with h | ⟨_, -, h⟩
  · exact ⟨_, h⟩
  rw [h, after_onLocked]
  exact ⟨_, rfl⟩

theorem pending_after_broadcastAndMove (io : SendEndIo) (details : TransferDetails)
    (out : FundingOutput) (w : FundingWorld) :
    (after (broadcastAndMove io details out) w).pendingRgbTransfer = w.pendingRgbTransfer := by
  unfold broadcastAndMove
  split
  · rw [after_bind_of_ok (modify_apply _ w), moveTokens]
    rcases after_attempt_bind (transferTokens io details out) _ { w with accepted := true }
      with h | ⟨transfer, -, h⟩
    · rw [h]
    · rw [h, after_bind_of_ok (modify_apply _ _)]
      obtain ⟨f, hf⟩ := after_recordTransfer io details out
        { w with accepted := true, transfers := w.transfers ++ [transfer] }
      rw [hf]
  · split <;> rfl

/-- A completion leaves the details where they are, or removes them. -/
theorem pending_after_completeSend (io : SendEndIo) (psbt : SignedPsbt) (details : TransferDetails)
    (w : FundingWorld) :
    (after (completeSend io psbt details) w).pendingRgbTransfer = w.pendingRgbTransfer ∨
      (after (completeSend io psbt details) w).pendingRgbTransfer = .missing := by
  rcases after_attempt_bind (fundingOutput psbt) _ w with h | ⟨out, -, h⟩
  · exact .inl (by rw [completeSend, h])
  rw [completeSend, h]
  have hmove := pending_after_broadcastAndMove io details out w
  rcases hb : broadcastAndMove io details out w with ⟨⟨⟩, w'⟩ | ⟨exit, w'⟩
  · rw [after_of_ok hb] at hmove
    rw [after_bind_of_ok hb, after_bind_of_ok (modify_apply _ w')]
    change (removeDetails io w').pendingRgbTransfer = _ ∨
      (removeDetails io w').pendingRgbTransfer = _
    unfold removeDetails
    split
    · exact .inr rfl
    · exact .inl hmove
  · rw [after_of_error hb] at hmove
    rw [after_bind_of_error hb]
    exact .inl hmove

end RgbLightningNode
