import RgbLightningNode.Adapter.LockedUtxos
import RgbLightningNode.Auth.ReadOnlyToken

/-!
# The two balance reports

`/assetbalance` and `/listassets` take their figures from the wallet adapter by
separate paths: the listing subtracts what is locked in channels from what it
calls spendable, the balance of one asset does not. What lies in channels is
added up by both.
-/

namespace RgbLightningNode

open Fallible SerdeJson

structure AssetBalanceResponse where
  settled : Nat
  future : Nat
  spendable : Nat
  offchainOutbound : UInt64
  offchainInbound : UInt64
  deriving DecidableEq

def Balance.response (b : Balance) (offchain : UInt64 × UInt64) : AssetBalanceResponse :=
  ⟨b.settled, b.future, b.spendable, offchain.1, offchain.2⟩

/-- The manager of the wallet's contracts. Asking for a balance may refresh it. -/
structure WalletManager (Wallet : Type) where
  listAssets : Wallet → Except String (List String)
  getAssetInfo : String → Wallet → Except String AssetInfo
  getAssetBalance : String → Fallible String Wallet Nat

/-- What the adapter answers the handlers. -/
inductive WalletAnswer (Other : Type) where
  | balance (b : Balance)
  | assets (nia : List (AssetNIA Balance))
  | other (o : Other)

/-- The adapter: the manager, the file of locked outputs, and the calls that are
not about assets. -/
structure WalletAdapter (ContractId Wallet Other : Type) where
  manager : WalletManager Wallet
  lockedFile : File
  readLocked : Except String Unit
  otherCall : WalletCall ContractId → Wallet → Except String Other × Wallet

namespace WalletManager

variable {Wallet : Type} (m : WalletManager Wallet)

def assetBalance (assetId : String) : Fallible String Wallet Balance := do
  let total ← EStateM.adaptExcept (fun e => s!"Failed to get balance: {e}")
    (m.getAssetBalance assetId)
  return ⟨total, total, total⟩

/-- The total the manager reports of a contract. -/
def total (contractId : String) (w : Wallet) : Except String Nat :=
  (outcome (m.getAssetBalance contractId) w).1

/-- What is promised of the manager: the info of a contract carries the id that
was asked for, and asking for a balance changes no balance. -/
structure Lawful : Prop where
  info_contractId : ∀ contractId w info,
    m.getAssetInfo contractId w = .ok info → info.contractId = contractId
  total_after : ∀ contractId other w,
    m.total other (after (m.getAssetBalance contractId) w) = m.total other w

end WalletManager

namespace WalletAdapter

variable {ContractId Wallet Other : Type} [ContractIdText ContractId]
  (a : WalletAdapter ContractId Wallet Other)

/-- The locked amount of a contract; an error counts as none. -/
def lockedAmount (contractId : String) : UInt64 :=
  (getLockedAmount a.readLocked contractId a.lockedFile).toOption.getD 0

/-- One entry of the listing. -/
def assetNIA (now : Nat) (contractId : String) : Fallible String Wallet (AssetNIA Balance) := do
  let w ← get
  let assetInfo ← attempt ((a.manager.getAssetInfo contractId w).mapError
    fun e => s!"Failed to get asset info: {e}")
  let total ← EStateM.adaptExcept (fun e => s!"Failed to get balance: {e}")
    (a.manager.getAssetBalance contractId)
  return {
    assetId := assetInfo.contractId
    addedAt := now
    balance := ⟨total, total, total - (a.lockedAmount contractId).toNat⟩
    issuedSupply := assetInfo.supply
    ticker := assetInfo.ticker
    name := assetInfo.name
    precision := assetInfo.precision
    timestamp := now }

/-- The schemas of the filter are ignored; there are fungible assets only. -/
def listAssets (now : Nat) : Fallible String Wallet (List (AssetNIA Balance)) := do
  let w ← get
  let assets ← attempt ((a.manager.listAssets w).mapError fun e => s!"Failed to list assets: {e}")
  assets.mapM (a.assetNIA now)

def call (now : Nat) : WalletCall ContractId → Wallet →
    Except String (WalletAnswer Other) × Wallet
  | .assetBalance contractId, w =>
    outcome (.balance <$> a.manager.assetBalance (ContractIdText.toText contractId)) w
  | .listAssets _, w => outcome (.assets <$> a.listAssets now) w
  | request, w => ((a.otherCall request w).1.map .other, (a.otherCall request w).2)

end WalletAdapter

/-- An entry of the listing as the API shows it. -/
def AssetNIA.response (offchainBalances : HashMap String (UInt64 × UInt64))
    (asset : AssetNIA Balance) : AssetNIA AssetBalanceResponse :=
  { asset with balance :=
      asset.balance.response ((offchainBalances.lookup asset.assetId).getD (0, 0)) }

namespace ReadReply

variable {Other : Type}

/-- The fungible assets in the reply to `/listassets`. -/
def nia : ReadReply (WalletAnswer Other) → List (AssetNIA AssetBalanceResponse)
  | .assets (.assets nia) offchain => nia.map (AssetNIA.response offchain)
  | _ => []

end ReadReply

namespace WalletAdapter

variable {ContractId Wallet Other : Type} (a : WalletAdapter ContractId Wallet Other)

end WalletAdapter

/-! ### What lies in channels -/

section Offchain

variable {ContractId : Type} [DecidableEq ContractId] [ContractIdText ContractId]

end Offchain

/-! ### What the manager is asked -/

section Figures

variable {ContractId Wallet Other : Type} {m : WalletManager Wallet}
  {a : WalletAdapter ContractId Wallet Other} {contractId : String} {w u v : Wallet}

end Figures

/-! ### The two reports -/

/-- The environment of the handlers with this adapter for the wallet. -/
def WalletAdapter.env {ContractId Wallet Other : Type} [ContractIdText ContractId]
    (a : WalletAdapter ContractId Wallet Other) (now : Nat)
    (env : ReadEnv ContractId (WalletAnswer Other) Wallet) :
    ReadEnv ContractId (WalletAnswer Other) Wallet :=
  { env with wallet := a.call now }

namespace ServedNode

section Handlers

variable {ContractId Answer Wallet : Type} {env : ReadEnv ContractId Answer Wallet}
  {s t : ServedNode ContractId Wallet}

end Handlers

variable {ContractId Wallet Other : Type} [DecidableEq ContractId] [ContractIdText ContractId]
  {a : WalletAdapter ContractId Wallet Other}
  {env : ReadEnv ContractId (WalletAnswer Other) Wallet} {now : Nat}
  {s t : ServedNode ContractId Wallet} {contractId : ContractId}

end ServedNode

end RgbLightningNode
