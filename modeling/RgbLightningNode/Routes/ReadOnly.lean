import RgbLightningNode.Auth.Middleware
import RgbLightningNode.Routes.AssetMedia
import RgbLightningNode.Routes.OpenChannel
import RgbLightningNode.Routes.SendPayment
import RgbLightningNode.Routes.Swaps
import RgbLightningNode.Routes.Unlock

/-!
# The handlers of the read-only operations

What each of them checks, in its order, what it asks of the wallet and of the
Lightning library, and what it takes from the stores. Two of them also store a
new status of the swaps they list.
-/

namespace RgbLightningNode

open Fallible

/-- The body of a request for one of the operations. -/
inductive ReadRequest where
  | assetBalance (assetId : String)
  | assetMetadata (assetId : String)
  | btcBalance (skipSync : Bool)
  | checkIndexerUrl (indexerUrl : String)
  | checkProxyEndpoint (proxyEndpoint : String)
  | decodeLnInvoice (invoice : String)
  | decodeRgbInvoice (invoice : String)
  | estimateFee (blocks : Nat)
  | getAssetMedia (digest : String)
  | getChannelId (temporaryChannelId : String)
  | getPayment (paymentHash : String)
  | getSwap (paymentHash : String) (taker : Bool)
  | invoiceStatus (invoice : String)
  | listAssets (filterAssetSchemas : List AssetSchema)
  | listChannels
  | listPayments
  | listPeers
  | listSwaps
  | listTransactions (skipSync : Bool)
  | listTransfers (assetId : String)
  | listUnspents (skipSync : Bool)
  | networkInfo
  | nodeInfo

def ReadRequest.path : ReadRequest → String
  | .assetBalance _ => "/assetbalance"
  | .assetMetadata _ => "/assetmetadata"
  | .btcBalance _ => "/btcbalance"
  | .checkIndexerUrl _ => "/checkindexerurl"
  | .checkProxyEndpoint _ => "/checkproxyendpoint"
  | .decodeLnInvoice _ => "/decodelninvoice"
  | .decodeRgbInvoice _ => "/decodergbinvoice"
  | .estimateFee _ => "/estimatefee"
  | .getAssetMedia _ => "/getassetmedia"
  | .getChannelId _ => "/getchannelid"
  | .getPayment _ => "/getpayment"
  | .getSwap _ _ => "/getswap"
  | .invoiceStatus _ => "/invoicestatus"
  | .listAssets _ => "/listassets"
  | .listChannels => "/listchannels"
  | .listPayments => "/listpayments"
  | .listPeers => "/listpeers"
  | .listSwaps => "/listswaps"
  | .listTransactions _ => "/listtransactions"
  | .listTransfers _ => "/listtransfers"
  | .listUnspents _ => "/listunspents"
  | .networkInfo => "/networkinfo"
  | .nodeInfo => "/nodeinfo"

/-- The calls of the RGB wallet. -/
inductive WalletCall (ContractId : Type) where
  | assetBalance (contractId : ContractId)
  | assetMetadata (contractId : ContractId)
  | btcBalance (skipSync : Bool)
  | feeEstimation (blocks : Nat)
  | listAssets (filterAssetSchemas : List AssetSchema)
  | listTransactions (skipSync : Bool)
  | listTransfers (assetId : String)
  | listUnspents (skipSync : Bool)

inductive InvoiceStatus where
  | pending | succeeded | failed | expired
  deriving DecidableEq

/-- A payment as it is listed. -/
structure ListedPayment where
  amtMsat : Option Nat
  assetAmount : Option UInt64
  assetId : Option String
  paymentHash : String
  inbound : Bool
  status : HTLCStatus
  createdAt : Nat
  updatedAt : Nat
  payeePubkey : String
  deriving DecidableEq

/-- A swap as it is listed. -/
structure ListedSwap where
  paymentHash : String
  qtyFrom : Nat
  qtyTo : Nat
  fromAsset : Option String
  toAsset : Option String
  status : SwapStatus
  requestedAt : Nat
  initiatedAt : Option Nat
  expiresAt : Nat
  completedAt : Option Nat
  deriving DecidableEq

/-- A reply. What the wallet or the library has answered is passed on as it is. -/
inductive ReadReply (Answer : Type) where
  | answer (a : Answer)
  | done
  | assetBalance (balance : Answer) (offchainOutbound offchainInbound : UInt64)
  | assets (assets : Answer) (offchain : HashMap String (UInt64 × UInt64))
  | channels (channels : List (Answer × Option (String × UInt64 × UInt64)))
  | bytesHex (bytesHex : String)
  | channelId (channelId : String)
  | payment (payment : ListedPayment)
  | payments (payments : List ListedPayment)
  | invoiceStatus (status : InvoiceStatus)
  | peers (peers : List PublicKey)
  | swap (swap : ListedSwap)
  | swaps (taker maker : List ListedSwap)
  | nodeInfo (info : Answer) (numChannels numPeers : Nat)

/-- What the handlers take from outside: the RGB wallet with a state of its own,
the Lightning library, the media directory, and the orders in which maps happen
to be iterated. -/
structure ReadEnv (ContractId Answer Wallet : Type) where
  wallet : WalletCall ContractId → Wallet → Except String Answer × Wallet
  checkIndexerUrl : String → Except APIError Answer
  checkProxyEndpoint : String → Except APIError Unit
  bolt11FromStr : String → Except String (Bolt11Invoice ContractId)
  invoiceDetails : Bolt11Invoice ContractId → Answer
  invoiceExpired : Bolt11Invoice ContractId → Nat → Bool
  decodeRgbInvoice : String → Except APIError Answer
  describeChannel : ChannelDetails → Except (Exit APIError) Answer
  networkInfo : Answer
  nodeInfo : Answer
  /-- The reader of payment-info files; one that does not parse is a panic. -/
  rgbPaymentInfo : PaymentHash → (inbound : Bool) →
    Except (Exit APIError) (Option (UInt64 × ContractId))
  mediaDir : MediaDir
  inboundOrder : List PaymentHash
  outboundOrder : List PaymentId
  takerOrder : List PaymentHash
  makerOrder : List PaymentHash

/-- The node behind the requests. -/
structure ServedNode (ContractId Wallet : Type) where
  app : AppState Unit Unit
  node : Node ContractId
  disk : Disk
  wallet : Wallet
  /-- The peers that are connected. -/
  peers : List PublicKey
  /-- The lines of the file of channel peers. -/
  channelPeerData : List String
  auth : AuthState
  revokedTokensFile : Option (List Char)

variable {ContractId Answer Wallet : Type} [DecidableEq ContractId] [ContractIdText ContractId]

def SwapData.listed (paymentHash : PaymentHash) (swapData : SwapData ContractId)
    (status : SwapStatus) : ListedSwap where
  paymentHash := paymentHash.hex
  qtyFrom := swapData.swapInfo.qtyFrom
  qtyTo := swapData.swapInfo.qtyTo
  fromAsset := swapData.swapInfo.fromAsset.map ContractIdText.toText
  toAsset := swapData.swapInfo.toAsset.map ContractIdText.toText
  status := status
  requestedAt := swapData.requestedAt
  initiatedAt := swapData.initiatedAt
  expiresAt := swapData.swapInfo.expiry
  completedAt := swapData.completedAt

/-- Store the new status of a swap, if it has one, and list the swap under it. -/
def listSwap (now : Nat) (ofTaker : Bool) (paymentHash : PaymentHash)
    (swapData : SwapData ContractId) :
    Fallible (Exit APIError) (Stores ContractId) ListedSwap := do
  mapSwap now paymentHash swapData ofTaker
  let status ← attempt (listedStatus now swapData)
  return swapData.listed paymentHash status

/-- List the copied swaps of one side. -/
def listSwapsOf (now : Nat) (ofTaker : Bool) : List (PaymentHash × SwapData ContractId) →
    Fallible (Exit APIError) (Stores ContractId) (List ListedSwap)
  | [] => pure []
  | (paymentHash, swapData) :: copies => do
    let swap ← listSwap now ofTaker paymentHash swapData
    let swaps ← listSwapsOf now ofTaker copies
    return swap :: swaps

/-- List the copied swaps of both sides. -/
def listSides (now : Nat) (takerSwaps makerSwaps : List (PaymentHash × SwapData ContractId)) :
    Fallible (Exit APIError) (Stores ContractId) (List ListedSwap × List ListedSwap) := do
  let taker ← listSwapsOf now true takerSwaps
  let maker ← listSwapsOf now false makerSwaps
  return (taker, maker)

/-- The entries of a map, in the order in which it happens to be iterated. -/
def iterate {K V : Type} [DecidableEq K] (m : HashMap K V) (order : List K) : List (K × V) :=
  order.filterMap fun k => (m.lookup k).map fun v => (k, v)

theorem mem_iterate {K V : Type} [DecidableEq K] {m : HashMap K V} {order : List K}
    (horder : ∀ k, k ∈ order ↔ k ∈ m) {k : K} {v : V} :
    (k, v) ∈ iterate m order ↔ m.lookup k = some v := by
  simp only [iterate, List.mem_filterMap, Option.map_eq_some_iff, Prod.mk.injEq]
  constructor
  · rintro ⟨_, -, _, hl, rfl, rfl⟩
    exact hl
  · intro hl
    exact ⟨k, (horder k).mpr (Finmap.mem_of_lookup_eq_some hl), v, hl, rfl, rfl⟩

theorem keys_iterate {K V : Type} [DecidableEq K] {m : HashMap K V} {order : List K}
    (horder : ∀ k, k ∈ order ↔ k ∈ m) : (iterate m order).map Prod.fst = order := by
  have hall : ∀ k ∈ order, ∃ v, m.lookup k = some v := fun k hk =>
    Finmap.mem_iff.mp ((horder k).mp hk)
  clear horder
  induction order with
  | nil => rfl
  | cons k order ih =>
    obtain ⟨v, hl⟩ := hall k List.mem_cons_self
    simp only [iterate, List.filterMap_cons, hl, Option.map_some, List.map_cons]
    exact congrArg (k :: ·) (ih fun k' hk' => hall k' (List.mem_cons_of_mem k hk'))

def parsePaymentHash (text : String) : Except (Exit APIError) PaymentHash :=
  match (hexStrToVec text.toList).bind bytes32? with
  | some bytes => .ok ⟨bytes⟩
  | none => .error (.err (.invalidPaymentHash text))

def parseContractId (text : String) : Except (Exit APIError) ContractId :=
  match ContractIdText.ofText text with
  | some contractId => .ok contractId
  | none => .error (.err (.invalidAssetID text))

def PaymentInfo.listed (rgbInfo : Option (UInt64 × ContractId)) (paymentHash : PaymentHash)
    (inbound : Bool) (info : PaymentInfo) : ListedPayment where
  amtMsat := info.amtMsat
  assetAmount := rgbInfo.map Prod.fst
  assetId := rgbInfo.map fun rgb => ContractIdText.toText rgb.2
  paymentHash := paymentHash.hex
  inbound := inbound
  status := info.status
  createdAt := info.createdAt
  updatedAt := info.updatedAt
  payeePubkey := hexStr info.payeePubkey.bytes.toList

namespace ReadEnv

variable (env : ReadEnv ContractId Answer Wallet)

def listPayment (paymentHash : PaymentHash) (inbound : Bool) (info : PaymentInfo) :
    Except (Exit APIError) ListedPayment := do
  let rgbInfo ← env.rgbPaymentInfo paymentHash inbound
  return info.listed rgbInfo paymentHash inbound

def listPayments (s : Stores ContractId) : Except (Exit APIError) (List ListedPayment) := do
  let inbound ← (iterate s.inboundPayments env.inboundOrder).mapM fun (paymentHash, info) =>
    env.listPayment paymentHash true info
  let outbound ← (iterate s.outboundPayments env.outboundOrder).mapM fun (paymentId, info) =>
    env.listPayment ⟨paymentId.bytes⟩ false info
  return inbound ++ outbound

/-- The payment with a hash; an outbound one has the hash for its id. -/
def getPayment (text : String) (s : Stores ContractId) : Except (Exit APIError) ListedPayment := do
  let requestedPh ← parsePaymentHash text
  match s.inboundPayments.lookup requestedPh with
  | some info => env.listPayment requestedPh true info
  | none =>
    match s.outboundPayments.lookup ⟨requestedPh.bytes⟩ with
    | some info => env.listPayment requestedPh false info
    | none => .error (.err (.paymentNotFound text))

def invoiceStatus (now : Nat) (text : String) (s : Stores ContractId) :
    Except (Exit APIError) InvoiceStatus :=
  match env.bolt11FromStr text with
  | .error e => .error (.err (.invalidInvoice e))
  | .ok invoice =>
    match s.inboundPayments.lookup invoice.paymentHash with
    | some info =>
      match info.status with
      | .pending => .ok (if env.invoiceExpired invoice now then .expired else .pending)
      | .succeeded => .ok .succeeded
      | .failed => .ok .failed
    | none => .error (.err .unknownLNInvoice)

def listChannel (dir : LdkDataDir ContractId) (chanInfo : ChannelDetails) :
    Except (Exit APIError) (Answer × Option (String × UInt64 × UInt64)) := do
  let channel ← env.describeChannel chanInfo
  let rgbInfo := dir.channelInfo.lookup chanInfo.channelId.hex
  return (channel, rgbInfo.map fun info =>
    (ContractIdText.toText info.contractId, info.localRgbAmount, info.remoteRgbAmount))

end ReadEnv

/-- What the channels hold of a contract on our side and on the other. -/
def offchainBalance (contractId : ContractId) (dir : LdkDataDir ContractId)
    (channels : List ChannelDetails) : UInt64 × UInt64 :=
  channels.foldl (fun balance chanInfo =>
    match dir.channelInfo.lookup chanInfo.channelId.hex with
    | some info =>
      if info.contractId = contractId then
        (balance.1 + info.localRgbAmount, balance.2 + info.remoteRgbAmount)
      else balance
    | none => balance) (0, 0)

def offchainBalances (dir : LdkDataDir ContractId) (channels : List ChannelDetails) :
    HashMap String (UInt64 × UInt64) :=
  channels.foldl (fun balances chanInfo =>
    match dir.channelInfo.lookup chanInfo.channelId.hex with
    | some info =>
      let asset := ContractIdText.toText info.contractId
      match balances.lookup asset with
      | some (outbound, inbound) =>
        balances.insert asset (outbound + info.localRgbAmount, inbound + info.remoteRgbAmount)
      | none => balances.insert asset (info.localRgbAmount, info.remoteRgbAmount)
    | none => balances) ∅

namespace ServedNode

/-- Run a program of the stores on the node. -/
def onStores {α : Type} (x : Fallible (Exit APIError) (Stores ContractId) α) :
    Fallible (Exit APIError) (ServedNode ContractId Wallet) α :=
  zoom (fun s => s.node.stores) (fun stores s => { s with node.stores := stores }) x

def checkUnlocked : Fallible (Exit APIError) (ServedNode ContractId Wallet) Unit := do
  let s ← get
  attempt (s.app.checkChangingState.mapError .err)
  attempt (s.app.checkUnlocked.mapError .err)

/-- Ask the wallet, whose own state may change. -/
def callWallet (env : ReadEnv ContractId Answer Wallet) (call : WalletCall ContractId) :
    Fallible (Exit APIError) (ServedNode ContractId Wallet) Answer := do
  let s ← get
  modify fun s => { s with wallet := (env.wallet call s.wallet).2 }
  attempt ((env.wallet call s.wallet).1.mapError fun e => .err (.rgbLib e))

variable (env : ReadEnv ContractId Answer Wallet) (now : Nat)

def assetBalance (assetId : String) :
    Fallible (Exit APIError) (ServedNode ContractId Wallet) (ReadReply Answer) := do
  checkUnlocked
  let contractId ← attempt (parseContractId assetId)
  let balance ← callWallet env (.assetBalance contractId)
  let s ← get
  let (offchainOutbound, offchainInbound) :=
    offchainBalance contractId s.node.ldkDataDir s.node.channels
  return .assetBalance balance offchainOutbound offchainInbound

def assetMetadata (assetId : String) :
    Fallible (Exit APIError) (ServedNode ContractId Wallet) (ReadReply Answer) := do
  -- the id is parsed before the node is known to be unlocked
  let contractId ← attempt (parseContractId assetId)
  checkUnlocked
  let metadata ← callWallet env (.assetMetadata contractId)
  return .answer metadata

/-- The handlers that only pass on what the wallet answers. -/
def askWallet (call : WalletCall ContractId) :
    Fallible (Exit APIError) (ServedNode ContractId Wallet) (ReadReply Answer) := do
  checkUnlocked
  let answer ← callWallet env call
  return .answer answer

def btcBalance (skipSync : Bool) := askWallet env (.btcBalance skipSync)

def estimateFee (blocks : Nat) := askWallet env (.feeEstimation blocks)

def listTransactions (skipSync : Bool) := askWallet env (.listTransactions skipSync)

def listTransfers (assetId : String) := askWallet env (.listTransfers assetId)

def listUnspents (skipSync : Bool) := askWallet env (.listUnspents skipSync)

/-! Four handlers answer a locked node too. -/

def checkIndexerUrl (indexerUrl : String) :
    Fallible (Exit APIError) (ServedNode ContractId Wallet) (ReadReply Answer) := do
  let protocol ← attempt ((env.checkIndexerUrl indexerUrl).mapError .err)
  return .answer protocol

def checkProxyEndpoint (proxyEndpoint : String) :
    Fallible (Exit APIError) (ServedNode ContractId Wallet) (ReadReply Answer) := do
  attempt ((env.checkProxyEndpoint proxyEndpoint).mapError .err)
  return .done

def decodeLnInvoice (text : String) :
    Fallible (Exit APIError) (ServedNode ContractId Wallet) (ReadReply Answer) := do
  let invoice ← attempt ((env.bolt11FromStr text).mapError fun e => .err (.invalidInvoice e))
  return .answer (env.invoiceDetails invoice)

def decodeRgbInvoice (text : String) :
    Fallible (Exit APIError) (ServedNode ContractId Wallet) (ReadReply Answer) := do
  let details ← attempt ((env.decodeRgbInvoice text).mapError .err)
  return .answer details

def getAssetMedia (digest : String) :
    Fallible (Exit APIError) (ServedNode ContractId Wallet) (ReadReply Answer) := do
  checkUnlocked
  let s ← get
  let bytesHex ← attempt ((env.mediaDir.getAssetMedia s.disk digest.toList).mapError .err)
  return .bytesHex bytesHex

def getChannelId (temporaryChannelId : String) :
    Fallible (Exit APIError) (ServedNode ContractId Wallet) (ReadReply Answer) := do
  let tmpChanId ← attempt ((checkChannelId temporaryChannelId).mapError .err)
  checkUnlocked
  let s ← get
  let channelId ← expect (s.node.stores.channelIds.lookup tmpChanId)
    (.err .unknownTemporaryChannelId)
  return .channelId channelId.hex

def getPayment (paymentHash : String) :
    Fallible (Exit APIError) (ServedNode ContractId Wallet) (ReadReply Answer) := do
  checkUnlocked
  let s ← get
  let payment ← attempt (env.getPayment paymentHash s.node.stores)
  return .payment payment

def getSwap (paymentHash : String) (ofTaker : Bool) :
    Fallible (Exit APIError) (ServedNode ContractId Wallet) (ReadReply Answer) := do
  checkUnlocked
  let s ← get
  let requestedPh ← attempt (parsePaymentHash paymentHash)
  let swapData ← expect
    ((if ofTaker then s.node.stores.takerSwaps else s.node.stores.makerSwaps).lookup requestedPh)
    (.err (.swapNotFound paymentHash))
  let swap ← onStores (listSwap now ofTaker requestedPh swapData)
  return .swap swap

def invoiceStatus (invoice : String) :
    Fallible (Exit APIError) (ServedNode ContractId Wallet) (ReadReply Answer) := do
  checkUnlocked
  let s ← get
  let status ← attempt (env.invoiceStatus now invoice s.node.stores)
  return .invoiceStatus status

def listAssets (filterAssetSchemas : List AssetSchema) :
    Fallible (Exit APIError) (ServedNode ContractId Wallet) (ReadReply Answer) := do
  checkUnlocked
  let assets ← callWallet env (.listAssets filterAssetSchemas)
  let s ← get
  return .assets assets (offchainBalances s.node.ldkDataDir s.node.channels)

def listChannels : Fallible (Exit APIError) (ServedNode ContractId Wallet) (ReadReply Answer) := do
  checkUnlocked
  let s ← get
  let channels ← attempt (s.node.channels.mapM (env.listChannel s.node.ldkDataDir))
  return .channels channels

def listPayments : Fallible (Exit APIError) (ServedNode ContractId Wallet) (ReadReply Answer) := do
  checkUnlocked
  let s ← get
  let payments ← attempt (env.listPayments s.node.stores)
  return .payments payments

def listPeers : Fallible (Exit APIError) (ServedNode ContractId Wallet) (ReadReply Answer) := do
  checkUnlocked
  let s ← get
  return .peers s.peers

/-- Both sides are copied before the first swap is listed. -/
def listSwaps : Fallible (Exit APIError) (ServedNode ContractId Wallet) (ReadReply Answer) := do
  checkUnlocked
  let s ← get
  let (taker, maker) ← onStores (listSides now (iterate s.node.stores.takerSwaps env.takerOrder)
    (iterate s.node.stores.makerSwaps env.makerOrder))
  return .swaps taker maker

def networkInfo : Fallible (Exit APIError) (ServedNode ContractId Wallet) (ReadReply Answer) := do
  checkUnlocked
  return .answer env.networkInfo

def nodeInfo : Fallible (Exit APIError) (ServedNode ContractId Wallet) (ReadReply Answer) := do
  checkUnlocked
  let s ← get
  return .nodeInfo env.nodeInfo s.node.channels.length s.peers.length

/-- The handler of a request. -/
def handle : ReadRequest →
    Fallible (Exit APIError) (ServedNode ContractId Wallet) (ReadReply Answer)
  | .assetBalance assetId => assetBalance env assetId
  | .assetMetadata assetId => assetMetadata env assetId
  | .btcBalance skipSync => btcBalance env skipSync
  | .checkIndexerUrl indexerUrl => checkIndexerUrl env indexerUrl
  | .checkProxyEndpoint proxyEndpoint => checkProxyEndpoint env proxyEndpoint
  | .decodeLnInvoice invoice => decodeLnInvoice env invoice
  | .decodeRgbInvoice invoice => decodeRgbInvoice env invoice
  | .estimateFee blocks => estimateFee env blocks
  | .getAssetMedia digest => getAssetMedia env digest
  | .getChannelId temporaryChannelId => getChannelId temporaryChannelId
  | .getPayment paymentHash => getPayment env paymentHash
  | .getSwap paymentHash taker => getSwap now paymentHash taker
  | .invoiceStatus invoice => invoiceStatus env now invoice
  | .listAssets filterAssetSchemas => listAssets env filterAssetSchemas
  | .listChannels => listChannels env
  | .listPayments => listPayments env
  | .listPeers => listPeers
  | .listSwaps => listSwaps env now
  | .listTransactions skipSync => listTransactions env skipSync
  | .listTransfers assetId => listTransfers env assetId
  | .listUnspents skipSync => listUnspents env skipSync
  | .networkInfo => networkInfo env
  | .nodeInfo => nodeInfo env

end ServedNode

end RgbLightningNode
