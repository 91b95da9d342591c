import RgbLightningNode.Lib.MachineInt
import RgbLightningNode.Routes.Swaps

/-!
# Executing a swap as its maker

The maker reads its swap string, builds the circular route of the swap, and pays
along it.
-/

namespace RgbLightningNode

open Fallible Node

def maxSwapFeeMsat : Nat := htlcMinMsat

structure ForwardingInfo where
  cltvExpiryDelta : Nat
  feeBaseMsat : Nat
  feeProportionalMillionths : Nat

structure UsableChannel where
  channelId : ChannelId
  shortChannelId : Option Nat
  counterparty : PublicKey
  forwardingInfo : Option ForwardingInfo

structure RouteHintHop where
  srcNodeId : PublicKey
  shortChannelId : Nat
  cltvExpiryDelta : Nat
  baseMsat : Nat
  proportionalMillionths : Nat

/-- What the router is asked for. -/
structure RouteQuery (ContractId : Type) where
  start : PublicKey
  dest : PublicKey
  finalValueMsat : Nat
  rgbPayment : Option (ContractId × Nat)
  hints : List RouteHintHop

/-- The build of the node and the parts of the Lightning library the request
runs against. -/
structure Lightning (ContractId : Type) where
  /-- The build checks its arithmetic; a release build does not. -/
  overflowChecks : Bool
  ourNodeId : PublicKey
  publicKeyFromStr : String → Option PublicKey
  getPaymentPreimage : PaymentHash → PaymentSecret → Option PaymentPreimage
  listUsableChannels : List UsableChannel
  /-- The paths of the route found, if one is. -/
  getRoute : RouteQuery ContractId → Option (List (List (RouteHop ContractId)))
  isSwapScid : Nat
  writeRgbPaymentInfoFile : PaymentHash → ContractId → Nat → (swap inbound : Bool) →
    LdkDataDir ContractId → LdkDataDir ContractId
  sendSpontaneousPayment : SpontaneousPayment ContractId → Except String Unit

structure MakerExecuteRequest where
  swapstring : String
  paymentSecret : String
  takerPubkey : String

namespace MakerExecuteRequest

variable {ContractId : Type} [DecidableEq ContractId] [ContractIdText ContractId]

/-- The parsed fields of a request. -/
structure Parsed (ContractId : Type) where
  swapstring : SwapString ContractId
  paymentSecret : PaymentSecret
  takerPk : PublicKey
  deriving DecidableEq

def parse (ln : Lightning ContractId) (req : MakerExecuteRequest) :
    Except (Exit APIError) (Parsed ContractId) :=
  match SwapString.fromStr req.swapstring with
  | .error e => .error (.err (.invalidSwapString req.swapstring e))
  | .ok swapstring =>
    match (hexStrToVec req.paymentSecret.toList).bind bytes32? with
    | none => .error (.err .invalidPaymentSecret)
    | some secret =>
      match ln.publicKeyFromStr req.takerPubkey with
      | none => .error (.err .invalidPubkey)
      | some takerPk => .ok ⟨swapstring, ⟨secret⟩, takerPk⟩

end MakerExecuteRequest

section Route

variable {ContractId : Type} [DecidableEq ContractId]

/-- A channel on which the maker could receive what the taker gives. -/
def isReceiveChannel (info : SwapInfo ContractId) (dir : LdkDataDir ContractId)
    (details : UsableChannel) : Except (Exit APIError) Bool := do
  let rgbInfo ← dir.getRgbChannelInfoOptional details.channelId false
  if info.isFromBtc then return true
  else match rgbInfo with
    | some rgbInfo => return some rgbInfo.contractId = info.fromAsset
    | none => return false

def receiveHint (details : UsableChannel) : Except (Exit APIError) RouteHintHop := do
  let config ← orPanic details.forwardingInfo unwrapNone
  let scid ← orPanic details.shortChannelId unwrapNone
  return ⟨details.counterparty, scid, config.cltvExpiryDelta, config.feeBaseMsat,
    config.feeProportionalMillionths⟩

def receiveHints (info : SwapInfo ContractId) (dir : LdkDataDir ContractId)
    (channels : List UsableChannel) : Except (Exit APIError) (List RouteHintHop) := do
  let receiving ← channels.filterM (isReceiveChannel info dir)
  receiving.mapM receiveHint

/-- The panic of a build with overflow checks. -/
def addOverflows : Exit APIError := .panic none "attempt to add with overflow"

/-- An amount in msat on top of the least amount of an HTLC. -/
def addHtlcMin (ln : Lightning ContractId) (qty : Nat) : Except (Exit APIError) Nat :=
  MachineInt.add 64 ln.overflowChecks addOverflows qty htlcMinMsat

def firstLegMsat (ln : Lightning ContractId) (info : SwapInfo ContractId) :
    Except (Exit APIError) Nat :=
  if info.isToBtc then addHtlcMin ln info.qtyTo else .ok htlcMinMsat

def secondLegMsat (ln : Lightning ContractId) (info : SwapInfo ContractId) :
    Except (Exit APIError) Nat :=
  if info.isToBtc || info.isAssetAsset then .ok htlcMinMsat else addHtlcMin ln info.qtyFrom

/-- From the maker to the taker, with what the taker gets. -/
def firstLegQuery (ln : Lightning ContractId) (info : SwapInfo ContractId) (takerPk : PublicKey) :
    Except (Exit APIError) (RouteQuery ContractId) := do
  let finalValueMsat ← firstLegMsat ln info
  return {
    start := ln.ourNodeId
    dest := takerPk
    finalValueMsat := finalValueMsat
    rgbPayment := info.toAsset.map fun toAsset => (toAsset, info.qtyTo)
    hints := [] }

/-- From the taker back to the maker, with what the taker gives. -/
def secondLegQuery (ln : Lightning ContractId) (info : SwapInfo ContractId) (takerPk : PublicKey)
    (hints : List RouteHintHop) : Except (Exit APIError) (RouteQuery ContractId) := do
  let finalValueMsat ← secondLegMsat ln info
  return {
    start := takerPk
    dest := ln.ourNodeId
    finalValueMsat := finalValueMsat
    rgbPayment := info.fromAsset.map fun fromAsset => (fromAsset, info.qtyFrom)
    hints := hints }

/-- The first path of a route found. -/
def firstPath (paths : List (List (RouteHop ContractId))) :
    Except (Exit APIError) (List (RouteHop ContractId)) :=
  orPanic paths.head? "index out of bounds: the len is 0 but the index is 0"

/-- Mark the first hop of the second leg as the swap. -/
def setSwapFlag (ln : Lightning ContractId) :
    List (RouteHop ContractId) → Except (Exit APIError) (List (RouteHop ContractId))
  | [] => .error (.panic none "index out of bounds: the len is 0 but the index is 0")
  | hop :: hops =>
    .ok ({ hop with shortChannelId := hop.shortChannelId ||| ln.isSwapScid } :: hops)

/-- The last hop's fee is the payment amount, which is not paid at the taker. -/
def clearLastFee (hops : List (RouteHop ContractId)) :
    Except (Exit APIError) (List (RouteHop ContractId)) :=
  match hops.reverse with
  | [] => .error (.panic none "Path not to be empty")
  | last :: before => .ok ({ last with feeMsat := 0 } :: before).reverse

/-- Let the hops carry an asset, when there is one. -/
def carrying (asset : Option ContractId) (qty : Nat) (hops : List (RouteHop ContractId)) :
    List (RouteHop ContractId) :=
  hops.map fun hop => match asset with
    | some asset => { hop with rgbPayment := some (asset, qty) }
    | none => hop

/-- The fees along the route, without the last one. -/
def totalFee (ln : Lightning ContractId) (hops : List (RouteHop ContractId)) :
    Except (Exit APIError) Nat :=
  MachineInt.sum 64 ln.overflowChecks addOverflows
    ((hops.reverse.drop 1).map RouteHop.feeMsat)

def checkFee (ln : Lightning ContractId) (fullpaths : List (RouteHop ContractId)) :
    Except (Exit APIError) (List (RouteHop ContractId)) := do
  let totalFee ← totalFee ln fullpaths
  if totalFee ≥ maxSwapFeeMsat then
    .error (.err (.failedPayment s!"Fee too high: {totalFee}"))
  else .ok fullpaths

/-- The circular route for these terms. -/
def buildRoute (ln : Lightning ContractId) (info : SwapInfo ContractId) (takerPk : PublicKey)
    (dir : LdkDataDir ContractId) : Except (Exit APIError) (List (RouteHop ContractId)) := do
  let hints ← receiveHints info dir ln.listUsableChannels
  let firstQuery ← firstLegQuery ln info takerPk
  let secondQuery ← secondLegQuery ln info takerPk hints
  match ln.getRoute firstQuery, ln.getRoute secondQuery with
  | some firstLeg, some secondLeg =>
    let second ← firstPath secondLeg
    let second ← setSwapFlag ln second
    let first ← firstPath firstLeg
    let first ← clearLastFee first
    checkFee ln (carrying info.toAsset info.qtyTo first ++
      carrying info.fromAsset info.qtyFrom second)
  | _, _ => .error (.err .noRoute)

omit [DecidableEq ContractId] in
theorem rgbPayment_of_mem_carrying {asset : ContractId} {qty : Nat}
    {hops : List (RouteHop ContractId)} {hop : RouteHop ContractId}
    (h : hop ∈ carrying (some asset) qty hops) : hop.rgbPayment = some (asset, qty) := by
  obtain ⟨_, -, rfl⟩ := List.mem_map.mp h
  rfl

/-- A route that is built carries what the taker gets to the taker, and what it
gives back to the maker. -/
theorem carries_of_buildRoute {ln : Lightning ContractId} {info : SwapInfo ContractId}
    {takerPk : PublicKey} {dir : LdkDataDir ContractId} {hops : List (RouteHop ContractId)}
    (h : buildRoute ln info takerPk dir = .ok hops) :
    ∃ there back, hops = there ++ back ∧
      (∀ asset, info.toAsset = some asset →
        ∀ hop ∈ there, hop.rgbPayment = some (asset, info.qtyTo)) ∧
      (∀ asset, info.fromAsset = some asset →
        ∀ hop ∈ back, hop.rgbPayment = some (asset, info.qtyFrom)) := by
  obtain ⟨hints, -, h⟩ := except_bind_eq_ok_iff.mp h
  obtain ⟨firstQuery, -, h⟩ := except_bind_eq_ok_iff.mp h
  obtain ⟨secondQuery, -, h⟩ := except_bind_eq_ok_iff.mp h
  split at h
  · obtain ⟨_, -, h⟩ := except_bind_eq_ok_iff.mp h
    obtain ⟨second, -, h⟩ := except_bind_eq_ok_iff.mp h
    obtain ⟨_, -, h⟩ := except_bind_eq_ok_iff.mp h
    obtain ⟨first, -, h⟩ := except_bind_eq_ok_iff.mp h
    refine ⟨carrying info.toAsset info.qtyTo first, carrying info.fromAsset info.qtyFrom second,
      ?_, fun asset ha hop hh => ?_, fun asset ha hop hh => ?_⟩
    · obtain ⟨_, -, h⟩ := except_bind_eq_ok_iff.mp h
      split at h
      · cases h
      · exact (Except.ok.inj h).symm
    · rw [ha] at hh
      exact rgbPayment_of_mem_carrying hh
    · rw [ha] at hh
      exact rgbPayment_of_mem_carrying hh
  · cases h

end Route

section Execute

variable {ContractId : Type} [DecidableEq ContractId]

/-- Look up the preimage and build the route. -/
def preparePayment (ln : Lightning ContractId) (parsed : MakerExecuteRequest.Parsed ContractId)
    (dir : LdkDataDir ContractId) : Except (Exit APIError) (SpontaneousPayment ContractId) :=
  match ln.getPaymentPreimage parsed.swapstring.paymentHash parsed.paymentSecret with
  | none => .error (.err .missingSwapPaymentPreimage)
  | some preimage => do
    let hops ← buildRoute ln parsed.swapstring.swapInfo parsed.takerPk dir
    return ⟨hops, preimage, ⟨parsed.swapstring.paymentHash.bytes⟩⟩

/-- The payment-info file of a leg that sends an asset. -/
def recordSwapPayment (ln : Lightning ContractId) (s : SwapString ContractId)
    (dir : LdkDataDir ContractId) : LdkDataDir ContractId :=
  match s.swapInfo.toAsset with
  | some toAsset =>
    ln.writeRgbPaymentInfoFile s.paymentHash toAsset s.swapInfo.qtyTo true false dir
  | none => dir

/-- Hand a payment to the channel manager. -/
def sendPayment (ln : Lightning ContractId) (paymentHash : PaymentHash) (now : Nat)
    (payment : SpontaneousPayment ContractId) :
    Fallible (Exit APIError) (Node ContractId) Unit := do
  modify fun n => { n with sentPayments := n.sentPayments ++ [payment] }
  match ln.sendSpontaneousPayment payment with
  | .ok () => pure ()
  | .error e => do
    onStores (Stores.updateMakerSwapStatus paymentHash .failed now)
    throw (.err (.failedPayment e))

def payAlong (ln : Lightning ContractId) (s : SwapString ContractId) (now : Nat)
    (payment : SpontaneousPayment ContractId) :
    Fallible (Exit APIError) (Node ContractId) Unit := do
  modify fun n => { n with ldkDataDir := recordSwapPayment ln s n.ldkDataDir }
  onStores (Stores.updateMakerSwapStatus s.paymentHash .pending now)
  sendPayment ln s.paymentHash now payment

def expireOffer (paymentHash : PaymentHash) (now : Nat) :
    Fallible (Exit APIError) (Node ContractId) Unit := do
  onStores (Stores.updateMakerSwapStatus paymentHash .expired now)
  throw (.err .expiredSwapOffer)

def makerExecute [ContractIdText ContractId] (ln : Lightning ContractId) (now : Nat)
    (req : MakerExecuteRequest) : Fallible (Exit APIError) (Node ContractId) Unit := do
  let parsed ← attempt (req.parse ln)
  if now > parsed.swapstring.swapInfo.expiry then
    expireOffer parsed.swapstring.paymentHash now
  else do
    -- the terms are those of the string; the recorded swap is not read
    let n ← get
    let payment ← attempt (preparePayment ln parsed n.ldkDataDir)
    payAlong ln parsed.swapstring now payment

/-! ### The request in two parts

The event handler may run while the channel manager is asked to pay. -/

/-- What is done before the payment is handed over. -/
def startPayment (ln : Lightning ContractId) (s : SwapString ContractId) (now : Nat) :
    Fallible (Exit APIError) (Node ContractId) Unit := do
  modify fun n => { n with ldkDataDir := recordSwapPayment ln s n.ldkDataDir }
  onStores (Stores.updateMakerSwapStatus s.paymentHash .pending now)

/-- The request up to the payment that is to be handed over, if there is one. -/
def startMakerExecute [ContractIdText ContractId] (ln : Lightning ContractId) (now : Nat)
    (req : MakerExecuteRequest) :
    Fallible (Exit APIError) (Node ContractId)
      (Option (PaymentHash × SpontaneousPayment ContractId)) := do
  let parsed ← attempt (req.parse ln)
  if now > parsed.swapstring.swapInfo.expiry then do
    expireOffer parsed.swapstring.paymentHash now
    return none
  else do
    let n ← get
    let payment ← attempt (preparePayment ln parsed n.ldkDataDir)
    startPayment ln parsed.swapstring now
    return some (parsed.swapstring.paymentHash, payment)

theorem makerExecute_eq [ContractIdText ContractId] (ln : Lightning ContractId) (now : Nat)
    (req : MakerExecuteRequest) :
    (makerExecute ln now req : Fallible (Exit APIError) (Node ContractId) Unit) =
      startMakerExecute ln now req >>= fun started => match started with
        | none => pure ()
        | some (paymentHash, payment) => sendPayment ln paymentHash now payment := by
  rw [makerExecute, startMakerExecute, bind_assoc]
  refine bind_congr fun parsed => ?_
  split
  · simp only [bind_assoc, pure_bind, bind_pure_unit]
  · simp only [bind_assoc, pure_bind, payAlong, startPayment]

end Execute

end RgbLightningNode
