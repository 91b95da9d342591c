import RgbLightningNode.SwapString
import RgbLightningNode.Node

/-!
# Requests about swaps

The taker accepts a swap string; listing swaps moves the status of those whose
time has run out.
-/

namespace RgbLightningNode

open Fallible Node

variable {ContractId : Type} [DecidableEq ContractId]

/-- The largest local amount of a contract on one of the channels. -/
def getMaxLocalRgbAmount {ε : Type} (contractId : ContractId) (dir : LdkDataDir ContractId) :
    List ChannelDetails → UInt64 → Except (Exit ε) UInt64
  | [], maxBalance => .ok maxBalance
  | chanInfo :: channels, maxBalance => do
    match ← dir.getRgbChannelInfoOptional chanInfo.channelId false with
    | some rgbInfo =>
      if rgbInfo.contractId = contractId ∧ rgbInfo.localRgbAmount > maxBalance then
        getMaxLocalRgbAmount contractId dir channels rgbInfo.localRgbAmount
      else getMaxLocalRgbAmount contractId dir channels maxBalance
    | none => getMaxLocalRgbAmount contractId dir channels maxBalance

/-- A taker that sells an asset has to have enough of it on one channel. -/
def checkFromAsset (info : SwapInfo ContractId) (n : Node ContractId) :
    Except (Exit APIError) Unit :=
  match info.fromAsset with
  | none => .ok ()
  | some fromAsset => do
    let maxBalance ← getMaxLocalRgbAmount fromAsset n.ldkDataDir n.channels 0
    if info.qtyFrom > maxBalance.toNat then .error (.err .insufficientAssets) else .ok ()

def taker [ContractIdText ContractId] (now : Nat) (swapstring : String) :
    Fallible (Exit APIError) (Node ContractId) Unit := do
  match (SwapString.fromStr swapstring : Except String (SwapString ContractId)) with
  | .error e => throw (.err (.invalidSwapString swapstring e))
  | .ok s =>
    ensure (now ≤ s.swapInfo.expiry) (.err .expiredSwapOffer)
    let n ← get
    attempt (checkFromAsset s.swapInfo n)
    -- an entry under the same hash is overwritten
    set { n with
      stores := n.stores.addTakerSwap s.paymentHash
        (SwapData.createFromSwapInfo s.swapInfo now) }

/-- The status under which a swap is listed. -/
def listedStatus (now : Nat) (swapData : SwapData ContractId) :
    Except (Exit APIError) SwapStatus :=
  if swapData.status = .waiting ∧ now > swapData.swapInfo.expiry then .ok .expired
  else if swapData.status = .pending then
    match swapData.initiatedAt with
    | none => .error (.panic none unwrapNone)
    | some initiatedAt =>
      .ok (if now > initiatedAt + 86400 then .failed else swapData.status)
  else .ok swapData.status

def updateListed (now : Nat) (paymentHash : PaymentHash) (status : SwapStatus) (ofTaker : Bool) :
    Fallible (Exit APIError) (Stores ContractId) Unit :=
  if ofTaker then Stores.updateTakerSwapStatus paymentHash status now
  else Stores.updateMakerSwapStatus paymentHash status now

/-- List one swap that a request has copied out of the store, and store its
status when that has changed. -/
def mapSwap (now : Nat) (paymentHash : PaymentHash) (swapData : SwapData ContractId)
    (ofTaker : Bool) : Fallible (Exit APIError) (Stores ContractId) Unit := do
  let status ← attempt (listedStatus now swapData)
  if status ≠ swapData.status then updateListed now paymentHash status ofTaker else pure ()

end RgbLightningNode
