import Mathlib.Data.Finmap

/-!
# Data model

The types the handlers, the stores and the wallet adapter share. A contract id
comes from the RGB libraries, so it is a type variable wherever it is not
already text.
-/

namespace RgbLightningNode

abbrev Bytes32 := Vector UInt8 32

structure PaymentHash where
  bytes : Bytes32
  deriving DecidableEq

structure PaymentId where
  bytes : Bytes32
  deriving DecidableEq

structure PaymentPreimage where
  bytes : Bytes32
  deriving DecidableEq

structure PaymentSecret where
  bytes : Bytes32
  deriving DecidableEq

structure ChannelId where
  bytes : Bytes32
  deriving DecidableEq

structure PublicKey where
  bytes : Vector UInt8 33
  deriving DecidableEq

/-- A hash map: only what a key is mapped to can be observed. -/
abbrev HashMap (K V : Type) := Finmap fun _ : K => V

/-- The text forms a contract id has. -/
class ContractIdText (ContractId : Type) where
  toText : ContractId → String
  ofText : String → Option ContractId

/-- What is promised of these texts: an id is read back from its own text, which
has no slash and is not the word for BTC. -/
class LawfulContractIdText (ContractId : Type) [ContractIdText ContractId] : Prop where
  ofText_toText : ∀ c : ContractId, ContractIdText.ofText (ContractIdText.toText c) = some c
  slash_notMem : ∀ c : ContractId, '/' ∉ (ContractIdText.toText c).toList
  toText_ne_btc : ∀ c : ContractId, ContractIdText.toText c ≠ "btc"

inductive SwapStatus where
  | waiting | pending | succeeded | expired | failed
  deriving DecidableEq

inductive HTLCStatus where
  | pending | succeeded | failed
  deriving DecidableEq

def HTLCStatus.toText : HTLCStatus → String
  | pending => "Pending"
  | succeeded => "Succeeded"
  | failed => "Failed"

/-- The terms of a swap; an absent asset is BTC. -/
structure SwapInfo (ContractId : Type) where
  qtyFrom : Nat
  qtyTo : Nat
  fromAsset : Option ContractId
  toAsset : Option ContractId
  expiry : Nat
  deriving DecidableEq

structure SwapData (ContractId : Type) where
  swapInfo : SwapInfo ContractId
  status : SwapStatus
  requestedAt : Nat
  initiatedAt : Option Nat
  completedAt : Option Nat
  deriving DecidableEq

structure PaymentInfo where
  preimage : Option PaymentPreimage
  secret : Option PaymentSecret
  status : HTLCStatus
  amtMsat : Option Nat
  createdAt : Nat
  updatedAt : Nat
  payeePubkey : PublicKey
  deriving DecidableEq

inductive AssetSchema where
  | nia | cfa | uda | ifa
  deriving DecidableEq

/-- The RGB state of a channel, as its info file holds it. -/
structure RgbInfo (ContractId : Type) where
  contractId : ContractId
  schema : AssetSchema
  localRgbAmount : UInt64
  remoteRgbAmount : UInt64
  deriving DecidableEq

/-- What the wallet manager knows of a contract. -/
structure AssetInfo where
  contractId : String
  ticker : String
  name : String
  precision : Nat
  supply : Nat

structure Balance where
  settled : Nat
  future : Nat
  spendable : Nat
  deriving DecidableEq

/-- A fungible asset, with the balance as the adapter or as the API has it. -/
structure AssetNIA (Balance : Type) where
  assetId : String
  addedAt : Nat
  balance : Balance
  issuedSupply : Nat
  ticker : String
  name : String
  precision : Nat
  timestamp : Nat

namespace SwapInfo

variable {ContractId : Type}

def isFromBtc (info : SwapInfo ContractId) : Bool := info.fromAsset.isNone

def isFromAsset (info : SwapInfo ContractId) : Bool := info.fromAsset.isSome

def isToBtc (info : SwapInfo ContractId) : Bool := info.toAsset.isNone

def isToAsset (info : SwapInfo ContractId) : Bool := info.toAsset.isSome

def isAssetAsset (info : SwapInfo ContractId) : Bool := info.isFromAsset && info.isToAsset

def sameAsset [DecidableEq ContractId] (info : SwapInfo ContractId) : Bool :=
  info.fromAsset == info.toAsset

end SwapInfo

/-- A swap as it is stored when it is first recorded. -/
def SwapData.createFromSwapInfo {ContractId : Type} (info : SwapInfo ContractId) (now : Nat) :
    SwapData ContractId :=
  ⟨info, .waiting, now, none, none⟩

/-- The mutexes a handler may hold when it panics. -/
inductive Mutex where
  | makerSwaps | takerSwaps | inboundPayments | outboundPayments | channelIds | walletManager
  deriving DecidableEq

/-- How a handler stops early: with an error, or by a panic. -/
inductive Exit (ε : Type) where
  | err (e : ε)
  | panic (held : Option Mutex) (message : String)
  deriving DecidableEq

/-- An early stop that still answers the request. -/
def Exit.answers {ε : Type} : Exit ε → Prop
  | .err _ => True
  | .panic .. => False

instance {ε : Type} : (e : Exit ε) → Decidable e.answers
  | .err _ => isTrue trivial
  | .panic .. => isFalse id

/-- An error with what it is about in front; a panic stays as it is. -/
def Exit.inContext (context : String) : Exit String → Exit String
  | .err e => .err s!"{context}: {e}"
  | .panic held message => .panic held message

/-- The panic of a thread that locks a poisoned mutex. -/
def poisonError {ε : Type} : Exit ε :=
  .panic none "called `Result::unwrap()` on an `Err` value: PoisonError { .. }"

theorem not_answers_poisonError {ε : Type} : ¬(poisonError : Exit ε).answers := id

/-- The value of an option, or a panic with nothing locked. -/
def orPanic {ε α : Type} (x : Option α) (message : String) : Except (Exit ε) α :=
  match x with
  | some a => .ok a
  | none => .error (.panic none message)

theorem orPanic_eq_ok_iff {ε α : Type} {x : Option α} {message : String} {a : α} :
    (orPanic x message : Except (Exit ε) α) = .ok a ↔ x = some a := by
  cases x <;> simp [orPanic]

inductive BitcoinNetwork where
  | mainnet | testnet | testnet4 | regtest | signet
  deriving DecidableEq

/-- The errors of the requests modelled here. -/
inductive APIError where
  | invalidSwapString (swapstring message : String)
  | expiredSwapOffer
  | insufficientAssets
  | invalidPaymentSecret
  | invalidPubkey
  | missingSwapPaymentPreimage
  | noRoute
  | failedPayment (message : String)
  | openChannelInProgress
  | invalidChannelID
  | temporaryChannelIdAlreadyUsed
  | invalidAmount (message : String)
  | invalidAssetID (assetId : String)
  | incompleteRGBInfo
  | anchorsRequired
  | rgbLib (message : String)
  | duplicatePayment (status : String)
  | invalidInvoice (message : String)
  | failedInvoiceCreation (message : String)
  | failedBitcoindConnection (message : String)
  | networkMismatch (chain : String) (network : BitcoinNetwork)
  | wrongPassword
  | notInitialized
  | invalidAnnounceAddresses (message : String)
  | invalidAnnounceAlias (message : String)
  | mediaFileNotProvided
  | mediaFileEmpty
  | invalidMediaDigest
  | invalidBackupPath
  | unsupportedBackupVersion (version : String)
  | unexpected (message : String)
  | invalidSwap (message : String)
  | changingState
  | lockedNode
  | unlockedNode
  | alreadyUnlocked
  | io (message : String)
  | invalidPaymentHash (paymentHash : String)
  | paymentNotFound (paymentHash : String)
  | swapNotFound (paymentHash : String)
  | unknownLNInvoice
  | unknownTemporaryChannelId
  | invalidPeerInfo (message : String)
  | failedPeerConnection
  | failedPeerDisconnection (message : String)
  | invalidPassword (message : String)
  | failedKeysCreation (path message : String)
  deriving DecidableEq

def APIError.isInvalidSwapString : APIError → Bool
  | invalidSwapString .. => true
  | _ => false

def htlcMinMsat : Nat := 3000000

def dustLimitMsat : Nat := 546000

/-- The fee rate of every funding, in sat per vbyte. -/
def feeRate : Nat := 7

/-- The event handler asks for the event to be delivered again. -/
inductive ReplayEvent where
  | mk
  deriving DecidableEq

end RgbLightningNode
