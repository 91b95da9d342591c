import RgbLightningNode.Adapter.SendEnd
import RgbLightningNode.LdkDataDir
import RgbLightningNode.Routes.OpenChannel

/-!
# Opening channels

The life of the channels this node opens, from the request to the completion of
their funding, cut where other handlers can come in between. Requests are served
one at a time, and so are events, but the two interleave. All coloured channels
share one file of transfer details, and one boolean that is to keep a second
request out.
-/

namespace RgbLightningNode

open Fallible SerdeJson

variable {ContractId : Type} [ContractIdText ContractId]

/-- The stage of the request under way. -/
inductive Opening (ContractId : Type) where
  | idle
  | checked (colored : Option (ContractId × Nat)) (capacitySat : Nat)
  | begun (rgbInfo : Option (RgbInfo ContractId))
  | locked (rgbInfo : Option (RgbInfo ContractId))
  | created (temporaryChannelId : ChannelId) (rgbInfo : Option (RgbInfo ContractId))
  deriving DecidableEq

inductive ChannelPhase where
  /-- Created; the library waits for its funding transaction. -/
  | unfunded
  /-- FundingGenerationReady is being handled. -/
  | generating
  /-- The library has the transaction; ChannelPending is still to be handled. -/
  | funded
  /-- ChannelPending has been handled. -/
  | finished
  /-- Closed, discarded or dropped. -/
  | gone
  deriving DecidableEq

/-- The phase behind a ChannelPending that is handled. -/
def ChannelPhase.handled : ChannelPhase → ChannelPhase
  | .funded => .finished
  | phase => phase

/-- A channel this node has opened. `begun` is what the last send_begin for its
own funding wrote; the code does not keep it. -/
structure OwnChannel (ContractId : Type) where
  phase : ChannelPhase
  rgbInfo : Option (RgbInfo ContractId)
  psbt : Bool
  reading : Option TransferDetails
  begun : Option TransferDetails

structure Channels (ContractId : Type) where
  rgbSendLock : Bool
  opening : Opening ContractId
  own : ChannelId → Option (OwnChannel ContractId)
  wallet : FundingWorld

/-- The answer of the channel manager to a funding transaction. -/
inductive FundingAnswer where
  /-- The consignment could not be posted; the event is asked for again. -/
  | replay
  | refused
  | registered

inductive ChannelStep where
  /-- A request passes its checks, or is answered with an error. -/
  | openChannel (channelIds : HashMap ChannelId ChannelId) (req : OpenChannelRequest)
      (balance : Except String Nat)
  /-- A request that has passed the checks fails before the trial. -/
  | refuse
  /-- The trial send_begin, to a script without a known key. -/
  | trial (io : SendBeginIo String) (schema : AssetSchema) (recipientId : String)
  | setLock
  /-- The channel manager creates the channel, or fails. -/
  | createChannel (temporaryChannelId : Option ChannelId)
  | writeInfo
  /-- FundingGenerationReady, up to the unsigned transaction. -/
  | fundingGenerationReady (temporaryChannelId : ChannelId) (io : SendBeginIo String)
      (recipientId : String) (channelValueSatoshis : Nat)
  /-- FundingGenerationReady, from there on. -/
  | fundingGenerated (temporaryChannelId : ChannelId) (answer : FundingAnswer)
  /-- ChannelPending, up to the details that send_end reads. -/
  | channelPending (channelId : ChannelId) (read : Except String Unit)
  /-- ChannelPending of a coloured channel, from there on. -/
  | completeSend (channelId : ChannelId) (io : SendEndIo) (psbt : SignedPsbt)
  /-- ChannelPending of a channel without colour, when send_btc_end is Ok. -/
  | completeBtc (channelId : ChannelId)
  | channelClosed (channelId : ChannelId) (removesInfo : Bool)
  /-- DiscardFunding, of any channel of the node. -/
  | discardFunding (channelId : ChannelId)
  | restart

/-- What a funding assigns; one schema is not implemented. -/
def schemaAssignment {ε : Type} (schema : AssetSchema) (amount : Nat) :
    Except (Exit ε) Assignment :=
  match schema with
  | .nia | .cfa => .ok (.fungible amount)
  | .uda => .ok .nonFungible
  | .ifa => .error (.panic none "not yet implemented")

/-- All checks of a request before the trial. -/
def openChannelChecks (rgbSendLock : Bool) (channelIds : HashMap ChannelId ChannelId)
    (req : OpenChannelRequest) (balance : Except String Nat) :
    Except APIError (Option (ContractId × Nat)) := do
  let (_, colored) ← checkOpenChannel rgbSendLock channelIds req
  match colored with
  | none => return none
  | some (contractId, assetAmount) =>
    match getAssetBalance balance with
    | .error (.err e) => throw (.rgbLib e)
    | .error (.panic _ message) => throw (.rgbLib message)
    | .ok balance =>
      checkSpendable balance assetAmount
      return some (contractId, assetAmount)

/-- The map of a coloured funding to its one recipient. -/
def recipientMap (contractId : ContractId) (recipientId : String) (amountSat : Nat)
    (assignment : Assignment) : List (String × List Recipient) :=
  [(ContractIdText.toText contractId, [⟨recipientId, some amountSat, assignment⟩])]

namespace OwnChannel

def new : OwnChannel ContractId := ⟨.unfunded, none, false, none, none⟩

/-- A coloured channel whose ChannelPending is still to come. -/
def OnItsWay (ch : OwnChannel ContractId) : Prop :=
  ch.rgbInfo.isSome ∧ (ch.phase = .unfunded ∨ ch.phase = .generating ∨ ch.phase = .funded)

/-- Channels without a funding transaction are dropped when the node stops. -/
def restarted (ch : OwnChannel ContractId) : OwnChannel ContractId :=
  { ch with
    phase := if ch.phase = .unfunded ∨ ch.phase = .generating then .gone else ch.phase
    reading := none }

end OwnChannel

namespace Channels

/-- A node that has just started for the first time. -/
def new (wallet : FundingWorld) : Channels ContractId := ⟨false, .idle, fun _ => none, wallet⟩

/-- Change a channel of this node; there is nothing to change of another. -/
def update (id : ChannelId) (f : OwnChannel ContractId → OwnChannel ContractId)
    (w : Channels ContractId) : Channels ContractId :=
  { w with own := Function.update w.own id ((w.own id).map f) }

/-- The trial of a request: the details are written, or the request ends. -/
def runTrial (io : SendBeginIo String) (schema : AssetSchema) (recipientId : String)
    (contractId : ContractId) (assetAmount capacitySat : Nat) (w : Channels ContractId) :
    Channels ContractId :=
  match schemaAssignment (ε := String) schema assetAmount with
  | .error _ => { w with opening := .idle }
  | .ok assignment =>
    match sendBegin io (recipientMap contractId recipientId capacitySat assignment) feeRate
        w.wallet with
    | .ok _ wallet => { w with
        wallet := wallet
        opening := .begun (some ⟨contractId, schema, UInt64.ofNat assetAmount, 0⟩) }
    | .error _ wallet => { w with wallet := wallet, opening := .idle }

/-- The send_begin of a channel's own funding; an error is a panic. -/
def runSendBegin (id : ChannelId) (io : SendBeginIo String) (recipientId : String) (amountSat : Nat)
    (rgbInfo : RgbInfo ContractId) (w : Channels ContractId) : Channels ContractId :=
  match schemaAssignment (ε := String) rgbInfo.schema rgbInfo.localRgbAmount.toNat with
  | .error _ => w
  | .ok assignment =>
    match sendBegin io (recipientMap rgbInfo.contractId recipientId amountSat assignment) feeRate
        w.wallet with
    | .ok _ wallet =>
      { w with wallet := wallet }.update id fun ch => { ch with
        phase := .generating
        begun := some ⟨ContractIdText.toText rgbInfo.contractId, assignment.rgbAmount⟩ }
    -- unwrap of the error: the handler panics
    | .error _ wallet => { w with wallet := wallet }

def runOpenChannel (channelIds : HashMap ChannelId ChannelId) (req : OpenChannelRequest)
    (balance : Except String Nat) (w : Channels ContractId) : Channels ContractId :=
  match w.opening with
  | .idle =>
    match openChannelChecks w.rgbSendLock channelIds req balance with
    | .ok colored => { w with opening := .checked colored req.capacitySat }
    | .error _ => w
  | _ => w

/-- An error of the channel manager releases the lock. Ids are never given twice. -/
def runCreateChannel (rgbInfo : Option (RgbInfo ContractId)) (w : Channels ContractId) :
    Option ChannelId → Channels ContractId
  | none => { w with rgbSendLock := false, opening := .idle }
  | some id =>
    if (w.own id).isSome then w
    else { w with
      own := Function.update w.own id (some .new)
      opening := .created id rgbInfo }

def runFundingGenerated (id : ChannelId) (w : Channels ContractId) :
    FundingAnswer → Channels ContractId
  | .replay => w.update id fun ch => { ch with phase := .unfunded }
  | .refused => { w with rgbSendLock := false }.update id fun ch => { ch with phase := .gone }
  | .registered => w.update id fun ch => { ch with phase := .funded, psbt := true }

/-- A completion that returns Ok releases the lock; otherwise the event is asked
for again. -/
def runCompleteSend (id : ChannelId) (io : SendEndIo) (psbt : SignedPsbt)
    (details : TransferDetails) (w : Channels ContractId) : Channels ContractId :=
  match completeSend io psbt details w.wallet with
  | .ok _ wallet => { w with wallet := wallet, rgbSendLock := false }.update id fun ch => { ch with
      phase := ch.phase.handled
      reading := none }
  | .error _ wallet => { w with wallet := wallet }.update id fun ch => { ch with reading := none }

/-- One step; the answer is the details that send_end reads in it. -/
def step (w : Channels ContractId) : ChannelStep → Option TransferDetails × Channels ContractId
  | .openChannel channelIds req balance => (none, w.runOpenChannel channelIds req balance)
  | .refuse =>
    match w.opening with
    | .checked .. => (none, { w with opening := .idle })
    | _ => (none, w)
  | .trial io schema recipientId =>
    match w.opening with
    | .checked (some (contractId, amt)) cap =>
      (none, w.runTrial io schema recipientId contractId amt cap)
    | .checked none _ => (none, { w with opening := .begun none })
    | _ => (none, w)
  | .setLock =>
    match w.opening with
    | .begun rgbInfo => (none, { w with rgbSendLock := true, opening := .locked rgbInfo })
    | _ => (none, w)
  | .createChannel answer =>
    match w.opening with
    | .locked rgbInfo => (none, w.runCreateChannel rgbInfo answer)
    | _ => (none, w)
  | .writeInfo =>
    match w.opening with
    | .created id (some rgbInfo) =>
      (none, { w with opening := .idle }.update id fun ch => { ch with rgbInfo := some rgbInfo })
    | .created _ none => (none, { w with opening := .idle })
    | _ => (none, w)
  | .fundingGenerationReady id io recipientId amountSat =>
    match w.own id with
    | some ⟨.unfunded, some rgbInfo, _, _, _⟩ =>
      (none, w.runSendBegin id io recipientId amountSat rgbInfo)
    | some ⟨.unfunded, none, _, _, _⟩ =>
      (none, w.update id fun ch => { ch with phase := .generating })
    | _ => (none, w)
  | .fundingGenerated id answer =>
    match w.own id with
    | some ⟨.generating, _, _, _, _⟩ => (none, w.runFundingGenerated id answer)
    | _ => (none, w)
  -- the details are read from the shared file, whichever channel they belong to
  | .channelPending id read =>
    match w.own id with
    | some ⟨_, some _, true, _, _⟩ =>
      match readTransferDetails read w.wallet.pendingRgbTransfer with
      | .ok details => (some details, w.update id fun ch => { ch with reading := some details })
      | .error _ => (none, w)
    | _ => (none, w)
  | .completeSend id io psbt =>
    match w.own id with
    | some ⟨_, _, _, some details, _⟩ => (none, w.runCompleteSend id io psbt details)
    | _ => (none, w)
  | .completeBtc id =>
    match w.own id with
    | some ⟨_, none, true, _, _⟩ =>
      (none, { w with rgbSendLock := false }.update id fun ch =>
        { ch with phase := ch.phase.handled })
    | _ => (none, w)
  | .channelClosed id removesInfo =>
    (none, w.update id fun ch => { ch with
      phase := .gone
      rgbInfo := if removesInfo then none else ch.rgbInfo })
  -- the lock is cleared also when another open holds it
  | .discardFunding id =>
    (none, { w with rgbSendLock := false }.update id fun ch => { ch with phase := .gone })
  | .restart =>
    (none, { w with
      rgbSendLock := false
      opening := .idle
      own := fun id => (w.own id).map OwnChannel.restarted })

end Channels

end RgbLightningNode
