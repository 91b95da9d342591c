import RgbLightningNode.Lib.MachineInt
import RgbLightningNode.Lib.PoisonMutex
import RgbLightningNode.Adapter.Claim
import RgbLightningNode.Adapter.Funding
import RgbLightningNode.Adapter.Issuance

/-!
# Spending the outputs of closed channels

The sweeper hands over the outputs of closed channels in one transaction. Outputs
that carry tokens are known by the transfer info of their transaction, and the
wallet adapter has to colour the transaction for them. All this happens under the
mutex of the transactions made so far.
-/

namespace RgbLightningNode

open Fallible

/-- An output of a closed channel, and what the Lightning library knows of it. -/
inductive SpendableOutputDescriptor (D : Type) where
  | staticPaymentOutput (outpoint : OutPoint) (details : D)
  | delayedPaymentOutput (outpoint : OutPoint) (details : D)
  | staticOutput (outpoint : OutPoint) (details : D)

def SpendableOutputDescriptor.outpoint {D : Type} : SpendableOutputDescriptor D → OutPoint
  | staticPaymentOutput outpoint _ => outpoint
  | delayedPaymentOutput outpoint _ => outpoint
  | staticOutput outpoint _ => outpoint

structure RgbTransferInfo (ContractId : Type) where
  contractId : ContractId
  rgbAmount : UInt64

/-- The assets a transaction moves: the contract, the index and the amount of the output,
and its recipient. -/
structure SweptAsset (ContractId : Type) where
  contractId : ContractId
  vout : Nat
  amtRgb : Nat
  recipientId : String

structure AssetColoringInfo where
  outputMap : List (Nat × Nat)
  staticBlinding : Option Nat

structure ColoringInfo (ContractId : Type) where
  assetInfoMap : List (ContractId × AssetColoringInfo)
  staticBlinding : Option Nat
  nonce : Option Nat

/-- A consignment that is left after a transaction has been coloured. -/
structure RgbTransfer (ContractId : Type) where
  contractId : ContractId

inductive ExtractTxError (Tx : Type) where
  | missingInputValue (tx : Tx)
  | other (message : String)

/-- What the wallet adapter answers to the sweeper. -/
structure SweepWallet (ContractId P : Type) where
  getTxHeight : (txid : String) → Except RgbLibError (Option Nat)
  /-- The witnesses that could not be updated. -/
  updateWitnesses : (afterHeight : Nat) → (forceWitnesses : List String) →
    Except RgbLibError (List String)
  /-- The recipient that the tokens of any asset can be sent to. -/
  witnessReceive : (transportEndpoints : List String) → Except (Exit RgbLibError) String
  colorPsbtAndConsume : P → ColoringInfo ContractId →
    Except RgbLibError (P × List (RgbTransfer ContractId))

/-- What the Lightning library, the Bitcoin library and the disk answer during one
sweep. -/
structure SweepIo (D ContractId P Tx : Type) where
  hash : List (SpendableOutputDescriptor D) → Nat
  /-- What reading a file of the data directory gives, if there is one; a malformed
  one ends in a panic. -/
  readRgbTransferInfo : (name : String) → Option (Except String (RgbTransferInfo ContractId))
  scriptBufFromRecipientId : String → Option ScriptBuf
  keysManagerSpend : List (SpendableOutputDescriptor D) → List TxOut → ScriptBuf → Nat →
    Option Nat → Except Unit Tx
  createSpendableOutputsPsbt : List (SpendableOutputDescriptor D) → List TxOut → ScriptBuf →
    Nat → Option Nat → Option P
  /-- The PSBT that is read from the text of another. -/
  reparse : P → Option P
  signSpendableOutputsPsbt : List (SpendableOutputDescriptor D) → P → Option P
  extractTx : P → Except (ExtractTxError Tx) Tx
  computeTxid : Tx → String
  /-- The thread is one of a runtime. -/
  inRuntime : Bool
  saveConsignment : RgbTransfer ContractId → (name : String) → Bool
  proxyUrl : Option String
  /-- A consignment is posted on a thread of its own, which may panic. -/
  postConsignment : (proxyUrl recipientId name txid : String) → (vout : Option Nat) → Bool
  removeConsignment : (name : String) → Bool
  writeTxes : Bool

/-- The transactions made so far, by the hash of what they spend. -/
structure SweeperTxes (Tx : Type) where
  txes : HashMap Nat Tx
  stored : HashMap Nat Tx

/-- What is known of the transaction after some of the outputs. -/
structure SweepPlan (ContractId : Type) where
  vout : Nat
  vanillaDescriptor : Bool
  txouts : List TxOut
  assetInfo : List (SweptAsset ContractId)

def unwrapErr : String := "called `Result::unwrap()` on an `Err` value"

/-- The value of a result, or a panic. -/
def unwrapResult {ε α : Type} (x : Except ε α) : Except (Exit Unit) α :=
  x.mapError fun _ => .panic none unwrapErr

variable {D ContractId P Tx : Type} [DecidableEq ContractId]

section Programs

variable (overflowChecks : Bool) (proxyEndpoint : String)

def addU32 : Nat → Nat → Except (Exit Unit) Nat :=
  MachineInt.add 32 overflowChecks (.panic none "attempt to add with overflow")

def addU64 : Nat → Nat → Except (Exit Unit) Nat :=
  MachineInt.add 64 overflowChecks (.panic none "attempt to add with overflow")

namespace SweepPlan

def find (contractId : ContractId) (plan : SweepPlan ContractId) :
    Option (SweptAsset ContractId) :=
  plan.assetInfo.find? fun asset => decide (asset.contractId = contractId)

/-- An output for an asset that the transaction does not move yet. -/
def addAsset (io : SweepIo D ContractId P Tx) (wallet : SweepWallet ContractId P)
    (info : RgbTransferInfo ContractId) (plan : SweepPlan ContractId) :
    Except (Exit Unit) (SweepPlan ContractId) := do
  let recipientId ← unwrapResult (wallet.witnessReceive [proxyEndpoint])
  let scriptPubkey ← orPanic (io.scriptBufFromRecipientId recipientId) unwrapErr
  let vout ← addU32 overflowChecks plan.vout 1
  return { plan with
    vout := vout
    txouts := plan.txouts ++ [⟨dustLimitMsat / 1000, scriptPubkey⟩]
    assetInfo := plan.assetInfo ++
      [⟨info.contractId, plan.vout, info.rgbAmount.toNat, recipientId⟩] }

/-- More of an asset that the transaction moves. -/
def addAmount (info : RgbTransferInfo ContractId) (asset : SweptAsset ContractId)
    (plan : SweepPlan ContractId) : Except (Exit Unit) (SweepPlan ContractId) := do
  let amtRgb ← addU64 overflowChecks asset.amtRgb info.rgbAmount.toNat
  return { plan with
    assetInfo := plan.assetInfo.map fun other =>
      if other.contractId = info.contractId then { other with amtRgb := amtRgb } else other }

/-- What an output with tokens adds. -/
def addColored (io : SweepIo D ContractId P Tx) (wallet : SweepWallet ContractId P)
    (txid : String) (info : RgbTransferInfo ContractId) (plan : SweepPlan ContractId) :
    Except (Exit Unit) (SweepPlan ContractId) := do
  let closingHeight ← (wallet.getTxHeight txid).mapError fun _ => .err ()
  let closingHeight ← orPanic closingHeight "called `Option::unwrap()` on a `None` value"
  let failed ← unwrapResult (wallet.updateWitnesses closingHeight [txid])
  if failed ≠ [] then .error (.err ())
  else
    match plan.find info.contractId with
    | some asset => addAmount overflowChecks info asset { plan with vanillaDescriptor := false }
    | none =>
      addAsset overflowChecks proxyEndpoint io wallet info { plan with vanillaDescriptor := false }

/-- What one output adds. -/
def addDescriptor (io : SweepIo D ContractId P Tx) (wallet : SweepWallet ContractId P)
    (plan : SweepPlan ContractId) (descriptor : SpendableOutputDescriptor D) :
    Except (Exit Unit) (SweepPlan ContractId) :=
  let txid := descriptor.outpoint.txid
  match io.readRgbTransferInfo s!"{txid}_transfer_info" with
  | none => .ok plan
  | some (.error message) => .error (.panic none message)
  | some (.ok info) =>
    if info.rgbAmount = 0 then .ok plan
    else plan.addColored overflowChecks proxyEndpoint io wallet txid info

def coloringInfo (plan : SweepPlan ContractId) : ColoringInfo ContractId where
  assetInfoMap := plan.assetInfo.map fun asset =>
    (asset.contractId, ⟨[(asset.vout, asset.amtRgb)], none⟩)
  staticBlinding := none
  nonce := none

/-- Colour the transaction, and sign it. -/
def coloredTx (io : SweepIo D ContractId P Tx) (wallet : SweepWallet ContractId P)
    (descriptors : List (SpendableOutputDescriptor D)) (changeDestinationScript : ScriptBuf)
    (locktime : Option Nat) (plan : SweepPlan ContractId) :
    Except (Exit Unit) (Tx × List (RgbTransfer ContractId)) := do
  let psbt ← orPanic (io.createSpendableOutputsPsbt descriptors plan.txouts
    changeDestinationScript (feeRate * 250) locktime) unwrapErr
  let psbt ← orPanic (io.reparse psbt) unwrapErr
  let (psbt, consignments) ← unwrapResult (wallet.colorPsbtAndConsume psbt plan.coloringInfo)
  let psbt ← orPanic (io.reparse psbt) "valid transaction"
  let psbt ← orPanic (io.signSpendableOutputsPsbt descriptors psbt) unwrapErr
  match io.extractTx psbt with
  | .ok tx => return (tx, consignments)
  | .error (.missingInputValue tx) => return (tx, consignments)
  | .error (.other message) => .error (.panic none s!"should never happen: {message}")

/-- Post the consignments one after another. -/
def postConsignments (io : SweepIo D ContractId P Tx) (closingTxid : String)
    (plan : SweepPlan ContractId) : List (RgbTransfer ContractId) → Except (Exit Unit) Unit
  | [] => .ok ()
  | consignment :: consignments => do
    let asset ← orPanic (plan.find consignment.contractId) "no entry found for key"
    let vout ← addU32 overflowChecks asset.vout 1
    let name := s!"consignment_{closingTxid}"
    if !io.saveConsignment consignment name then .error (.panic none "successful save")
    let proxyUrl ← orPanic io.proxyUrl unwrapErr
    if !io.postConsignment proxyUrl asset.recipientId name closingTxid (some vout) then
      .error (.err ())
    if !io.removeConsignment name then .error (.panic none unwrapErr)
    postConsignments io closingTxid plan consignments

end SweepPlan

/-- One sweep, with the transactions locked. -/
def spendUnlocked (io : SweepIo D ContractId P Tx) (wallet : SweepWallet ContractId P)
    (descriptors : List (SpendableOutputDescriptor D)) (outputs : List TxOut)
    (changeDestinationScript : ScriptBuf) (feerateSatPer1000Weight : Nat)
    (locktime : Option Nat) : Fallible (Exit Unit) (SweeperTxes Tx) Tx := do
  let s ← get
  match s.txes.lookup (io.hash descriptors) with
  | some tx => return tx
  | none =>
    let plan ← attempt (descriptors.foldlM
      (SweepPlan.addDescriptor overflowChecks proxyEndpoint io wallet) ⟨0, true, outputs, []⟩)
    if plan.vanillaDescriptor then
      attempt ((io.keysManagerSpend descriptors plan.txouts changeDestinationScript
        feerateSatPer1000Weight locktime).mapError .err)
    else do
      let (spendingTx, consignments) ← attempt (plan.coloredTx io wallet descriptors
        changeDestinationScript locktime)
      ensure io.inRuntime (.panic none "there is no reactor running")
      attempt (plan.postConsignments overflowChecks io (io.computeTxid spendingTx) consignments)
      modify fun s => { s with txes := s.txes.insert (io.hash descriptors) spendingTx }
      ensure io.writeTxes (.panic none unwrapErr)
      modify fun s => { s with stored := s.txes }
      return spendingTx

def spendSpendableOutputs (io : SweepIo D ContractId P Tx) (wallet : SweepWallet ContractId P)
    (descriptors : List (SpendableOutputDescriptor D)) (outputs : List TxOut)
    (changeDestinationScript : ScriptBuf) (feerateSatPer1000Weight : Nat)
    (locktime : Option Nat) : Fallible (Exit Unit) (PoisonMutex (SweeperTxes Tx)) Tx :=
  PoisonMutex.locked Exit.answers poisonError (spendUnlocked overflowChecks proxyEndpoint io wallet
    descriptors outputs changeDestinationScript feerateSatPer1000Weight locktime)

end Programs

end RgbLightningNode
