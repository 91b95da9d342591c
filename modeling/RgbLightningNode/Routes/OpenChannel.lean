import RgbLightningNode.Adapter.Funding
import RgbLightningNode.Utils

/-!
# Opening a channel: the checks of the request

A coloured channel takes an asset and an amount of it. The amount is compared
with what the wallet reports as spendable, and a funding is begun on trial
before the channel is created.
-/

namespace RgbLightningNode

open Fallible

def openRgbChannelMinSat : Nat := htlcMinMsat / 1000 * 10 + 10
def openChannelMinSat : Nat := 5506
def openChannelMaxSat : Nat := 16777215
def openChannelMinRgbAmt : Nat := 1

/-- The wallet library knows one total; it stands for all three figures. -/
def getAssetBalance (total : Except String Nat) : Except (Exit String) Balance := do
  let total ← withContext "Failed to get balance" total
  return ⟨total, total, total⟩

structure OpenChannelRequest where
  temporaryChannelId : Option String
  assetId : Option String
  assetAmount : Option Nat
  capacitySat : Nat
  pushMsat : Nat
  withAnchors : Bool

variable {ContractId : Type} [ContractIdText ContractId]

def checkChannelId (channelIdStr : String) : Except APIError ChannelId :=
  match (hexStrToVec channelIdStr.toList).bind bytes32? with
  | some bytes => .ok ⟨bytes⟩
  | none => .error .invalidChannelID

def checkTemporaryChannelId (channelIds : HashMap ChannelId ChannelId) :
    Option String → Except APIError (Option ChannelId)
  | none => .ok none
  | some text => do
    let tmpChanId ← checkChannelId text
    if (channelIds.lookup tmpChanId).isSome then throw .temporaryChannelIdAlreadyUsed
    else return some tmpChanId

/-- The asset of a coloured channel and the amount of it. -/
def coloredInfo : Option String → Option Nat → Except APIError (Option (ContractId × Nat))
  | some asset, some amt =>
    if amt < openChannelMinRgbAmt then .error (.invalidAmount
      s!"Channel RGB amount must be equal to or higher than {openChannelMinRgbAmt}")
    else match ContractIdText.ofText asset with
      | some contractId => .ok (some (contractId, amt))
      | none => .error (.invalidAssetID asset)
  | none, none => .ok none
  | _, _ => .error .incompleteRGBInfo

def checkCapacity (colored : Bool) (req : OpenChannelRequest) : Except APIError Unit :=
  if colored ∧ req.capacitySat < openRgbChannelMinSat then .error (.invalidAmount
    s!"RGB channel amount must be equal to or higher than {openRgbChannelMinSat} sats")
  else if req.capacitySat < openChannelMinSat then .error (.invalidAmount
    s!"Channel amount must be equal to or higher than {openChannelMinSat} sats")
  else if openChannelMaxSat < req.capacitySat then .error (.invalidAmount
    s!"Channel amount must be equal to or less than {openChannelMaxSat} sats")
  else if req.capacitySat * 1000 < req.pushMsat then .error (.invalidAmount
    "Channel push amount cannot be higher than the capacity")
  else if colored ∧ !req.withAnchors then .error .anchorsRequired
  else .ok ()

/-- The checks up to the connection to the peer. -/
def checkOpenChannel (rgbSendLock : Bool) (channelIds : HashMap ChannelId ChannelId)
    (req : OpenChannelRequest) :
    Except APIError (Option ChannelId × Option (ContractId × Nat)) := do
  if rgbSendLock then throw .openChannelInProgress
  let temporaryChannelId ← checkTemporaryChannelId channelIds req.temporaryChannelId
  let colored ← coloredInfo req.assetId req.assetAmount
  checkCapacity colored.isSome req
  return (temporaryChannelId, colored)

/-- The comparison with the balance. -/
def checkSpendable (balance : Balance) (assetAmount : Nat) : Except APIError Unit :=
  if balance.spendable < assetAmount then .error .insufficientAssets else .ok ()

/-- An amount that gets through is at least the smallest one. -/
theorem coloredInfo_of_ok {asset : Option String} {amount : Option Nat} {contractId : ContractId}
    {amt : Nat} (h : coloredInfo asset amount = .ok (some (contractId, amt))) :
    openChannelMinRgbAmt ≤ amt := by
  unfold coloredInfo at h
  split at h
  · split at h
    · cases h
    · rename_i hmin
      split at h
      · obtain ⟨-, rfl⟩ := Prod.mk.inj (Option.some.inj (Except.ok.inj h))
        exact Nat.le_of_not_lt hmin
      · cases h
  · cases h
  · cases h

theorem checkSpendable_eq_ok_iff {balance : Balance} {assetAmount : Nat} :
    checkSpendable balance assetAmount = .ok () ↔ assetAmount ≤ balance.spendable := by
  unfold checkSpendable
  split <;> simp <;> omega

end RgbLightningNode
