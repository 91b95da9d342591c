import RgbLightningNode.Lib.Mealy
import RgbLightningNode.Adapter.Claim
import RgbLightningNode.Node

/-!
# Closed channels

The event handler claims this node's tokens of a closed coloured channel,
releases the locked output and removes the channel's info files. An error on
the way is logged, and the event is acknowledged all the same.
-/

namespace RgbLightningNode

open Fallible SerdeJson

/-- What the node knows and does not change while a channel is closed. -/
structure ClosingNode (ContractId : Type) where
  /-- Whether the wallet has a transaction. -/
  hasTransaction : String → Bool
  /-- The SHA-256 of a text, in hex. -/
  sha256 : String → String
  /-- The library's reader of a channel's info file. -/
  readRgbChannelInfo : ChannelId → LdkDataDir ContractId → Option (RgbInfo ContractId)

/-- The answers of everything outside to one delivery of the event. -/
structure CloseIo (S : Type) where
  claimUtxo : ClaimUtxoIo
  claim : ClaimIo S
  locked : LockedIo
  removeInfo : Bool
  removePendingInfo : Bool
  order : List ChannelId

/-- What the handler changes. -/
structure CloseWorld (ContractId S : Type) where
  node : Node ContractId
  claiming : ClaimWorld S
  lockedChannelUtxos : File

variable {ContractId S : Type}

/-- The witness id under which the settlement has put this node's tokens. -/
def ClosingNode.ourWitnessId (env : ClosingNode ContractId) (txo : OutPoint) : String :=
  channelWitness env.sha256 txo.utxo
    (if env.hasTransaction txo.txid then "holder" else "counterparty")

/-- Remove the info files of a channel, where they are and the system lets it. -/
def LdkDataDir.removeInfoFiles (removeInfo removePending : Bool) (channelId : ChannelId)
    (dir : LdkDataDir ContractId) : LdkDataDir ContractId :=
  { dir with
    channelInfo := if removeInfo then dir.channelInfo.erase channelId.hex else dir.channelInfo
    channelInfoPending :=
      if removePending then dir.channelInfoPending.erase channelId.hex
      else dir.channelInfoPending }

/-- Release the locked output and remove the info files. Their errors are ignored. -/
def CloseWorld.cleanUp (io : CloseIo S) (channelId : ChannelId) (txo : OutPoint)
    (w : CloseWorld ContractId S) : CloseWorld ContractId S where
  node := { w.node with
    ldkDataDir :=
      w.node.ldkDataDir.removeInfoFiles io.removeInfo io.removePendingInfo channelId }
  claiming := w.claiming
  lockedChannelUtxos := after (releaseLockedUtxo io.locked txo.txid txo.index) w.lockedChannelUtxos

def handleRgbChannelClose [ContractIdText ContractId] (env : ClosingNode ContractId)
    (io : CloseIo S) (channelId : ChannelId) (fundingTxo : OutPoint) :
    Fallible (Exit String) (CloseWorld ContractId S) Unit := do
  let w ← get
  match env.readRgbChannelInfo channelId w.node.ldkDataDir with
  | none => pure ()
  | some rgbInfo =>
    if rgbInfo.localRgbAmount = 0 then pure ()
    else do
      let claimUtxo ← attempt (withContext "Failed to get claim UTXO" (getClaimUtxo io.claimUtxo))
      zoom CloseWorld.claiming (fun c w => { w with claiming := c })
        (EStateM.adaptExcept (Exit.inContext "Claim failed")
          (claim io.claim (env.ourWitnessId fundingTxo) claimUtxo
            (ContractIdText.toText rgbInfo.contractId)))
      modify (CloseWorld.cleanUp io channelId fundingTxo)

/-- Log an error and return; only a panic stops. -/
def logError {σ : Type} (x : Fallible (Exit String) σ Unit) : Fallible (Exit ReplayEvent) σ Unit :=
  fun s => match x s with
    | .ok () t => .ok () t
    | .error (.err _) t => .ok () t
    | .error (.panic held message) t => .error (.panic held message) t

theorem after_logError {σ : Type} (x : Fallible (Exit String) σ Unit) (s : σ) :
    after (logError x) s = after x s := by
  unfold after logError
  rcases x s with ⟨⟨⟩, t⟩ | ⟨_ | _, t⟩ <;> rfl

/-- A program whose errors are logged never asks for the event again. -/
theorem logError_ne_replay {σ : Type} (x : Fallible (Exit String) σ Unit) (s t : σ)
    (e : ReplayEvent) : logError x s ≠ .error (.err e) t := by
  unfold logError
  rcases x s with ⟨⟨⟩, _⟩ | ⟨_ | _, _⟩ <;> simp

def channelClosed [ContractIdText ContractId] (env : ClosingNode ContractId) (io : CloseIo S)
    (channelId : ChannelId) (channelFundingTxo : Option OutPoint) :
    Fallible (Exit ReplayEvent) (CloseWorld ContractId S) Unit := do
  match channelFundingTxo with
  | some fundingTxo => logError (handleRgbChannelClose env io channelId fundingTxo)
  | none => pure ()
  modify fun w => { w with
    node := { w.node with stores := w.node.stores.deleteChannelId io.order channelId } }

end RgbLightningNode
