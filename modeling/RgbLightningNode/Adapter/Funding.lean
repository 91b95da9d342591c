import RgbLightningNode.Lib.LastArgmax
import RgbLightningNode.Adapter.TxBuilder

/-!
# Funding a coloured channel

`sendBegin` builds the funding transaction and leaves the transfer details in a
file; `sendEnd` broadcasts the signed transaction and moves the tokens to the
output it takes for the channel.
-/

namespace RgbLightningNode

open Fallible SerdeJson LastArgmax

structure Transaction where
  txid : String
  output : List TxOut
  deriving DecidableEq

/-- The output with the largest value that is not an OP_RETURN; of several the
last one. -/
def fundingVout (output : List TxOut) : Option Nat :=
  (lastArgmax (fun out => out.1.value)
    (output.zipIdx.filter fun out => !out.1.scriptPubkey.isOpReturn)).map Prod.snd

/-! ### Beginning -/

inductive Assignment where
  | fungible (amount : Nat)
  | nonFungible
  | other
  deriving DecidableEq

structure Recipient where
  recipientId : String
  /-- The `amount_sat` of the witness data. -/
  witnessAmountSat : Option Nat
  assignment : Assignment

/-- What is outside of a funding that is begun. -/
structure SendBeginIo (Txid : Type) extends BuilderIo Txid where
  write : Except String Unit

/-- A transfer of tokens between two places, as the contract carries it out. -/
structure Transfer where
  source : String
  target : String
  amount : Nat
  toPubKey : String
  deriving DecidableEq

/-- The files of the wallet that a funding works on, and what has happened
outside: whether the network has accepted the funding transaction, and the
transfers the contract has carried out. -/
structure FundingWorld where
  pendingRgbTransfer : File
  lockedChannelUtxos : File
  accepted : Bool
  transfers : List Transfer

def Assignment.rgbAmount : Assignment → Nat
  | fungible amount => amount
  | nonFungible => 1
  | other => 0

/-- The details as they are written for the completion. -/
def transferDetailsJson (contractId : String) (rgbAmount btcAmountSat : Nat) : Value :=
  .obj [("contract_id", .str contractId), ("rgb_amount", .num rgbAmount),
    ("btc_amount_sat", .num btcAmountSat)]

variable {Txid : Type}

/-- The unsigned funding transaction; its details are left in a file. -/
def sendBegin (io : SendBeginIo Txid) (recipientMap : List (String × List Recipient))
    (feeRate : Nat) : Fallible (Exit String) FundingWorld (Psbt Txid) := do
  let (assetId, recipients) ← attempt (orErr recipientMap.head? "No recipient in map")
  let recipient ← attempt (orErr recipients.head? "No recipient for asset")
  let amountSat ← attempt (orErr recipient.witnessAmountSat "No witness data in recipient")
  let tx ← attempt (io.contractTx assetId recipient.recipientId amountSat feeRate)
  attempt (withContext "Failed to store transfer details" io.write)
  modify fun w => { w with
    pendingRgbTransfer :=
      .doc (transferDetailsJson assetId recipient.assignment.rgbAmount amountSat) }
  return tx.psbt

variable {io : SendBeginIo Txid} {feeRate : Nat} {w w' : FundingWorld} {psbt : Psbt Txid}

/-- A funding that is begun has been built, whichever recipient comes first. -/
theorem exists_contractTx_of_sendBegin {recipientMap : List (String × List Recipient)}
    (h : sendBegin io recipientMap feeRate w = .ok psbt w') :
    ∃ assetId address amountSat tx,
      io.contractTx assetId address amountSat feeRate = .ok tx ∧ tx.psbt = psbt := by
  obtain ⟨⟨assetId, recipients⟩, _, h⟩ := attempt_bind_eq_ok_iff.mp h
  obtain ⟨recipient, _, h⟩ := attempt_bind_eq_ok_iff.mp h
  obtain ⟨amountSat, _, h⟩ := attempt_bind_eq_ok_iff.mp h
  obtain ⟨tx, htx, h⟩ := attempt_bind_eq_ok_iff.mp h
  obtain ⟨_, _, h⟩ := attempt_bind_eq_ok_iff.mp h
  exact ⟨assetId, recipient.recipientId, amountSat, tx, htx, (EStateM.Result.ok.inj h).1⟩

/-- A funding that is begun leaves its details in the file. -/
theorem sendBegin_of_ok {assetId : String} {recipient : Recipient}
    (h : sendBegin io [(assetId, [recipient])] feeRate w = .ok psbt w') :
    ∃ amountSat tx, recipient.witnessAmountSat = some amountSat ∧
      io.contractTx assetId recipient.recipientId amountSat feeRate = .ok tx ∧ tx.psbt = psbt ∧
      w' = { w with
        pendingRgbTransfer :=
          .doc (transferDetailsJson assetId recipient.assignment.rgbAmount amountSat) } := by
  obtain ⟨_, hmap, h⟩ := attempt_bind_eq_ok_iff.mp h
  obtain rfl := Except.ok.inj hmap
  obtain ⟨_, hfirst, h⟩ := attempt_bind_eq_ok_iff.mp h
  obtain rfl := Except.ok.inj hfirst
  obtain ⟨amountSat, hamount, h⟩ := attempt_bind_eq_ok_iff.mp h
  obtain ⟨tx, htx, h⟩ := attempt_bind_eq_ok_iff.mp h
  obtain ⟨_, _, h⟩ := attempt_bind_eq_ok_iff.mp h
  obtain ⟨rfl, rfl⟩ := EStateM.Result.ok.inj h
  exact ⟨amountSat, tx, orErr_eq_ok_iff.mp hamount, htx, rfl, rfl⟩

/-- A funding that is not begun has written nothing. -/
theorem sendBegin_of_error {recipientMap : List (String × List Recipient)} {exit : Exit String}
    (h : sendBegin io recipientMap feeRate w = .error exit w') : w' = w := by
  rcases attempt_bind_eq_error h with rfl | ⟨_, _, h⟩
  · rfl
  rcases attempt_bind_eq_error h with rfl | ⟨_, _, h⟩
  · rfl
  rcases attempt_bind_eq_error h with rfl | ⟨_, _, h⟩
  · rfl
  rcases attempt_bind_eq_error h with rfl | ⟨_, _, h⟩
  · rfl
  rcases attempt_bind_eq_error h with rfl | ⟨_, _, h⟩
  · rfl
  cases h

end RgbLightningNode
