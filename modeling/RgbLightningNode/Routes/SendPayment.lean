import RgbLightningNode.Utils
import RgbLightningNode.Stores

/-!
# Sending a payment

An offer, an invoice or a key send is checked, recorded as pending under its
payment id, and handed to the channel manager. When that refuses it, the record
is marked as failed.
-/

namespace RgbLightningNode

open Fallible

variable {ContractId : Type} {ε : Type}

def invoiceMinMsat : Nat := htlcMinMsat

/-- The amount of an offer; one in a currency comes with the text it is printed as. -/
inductive OfferAmount where
  | bitcoin (amountMsats : Nat)
  | currency (debug : String)

structure Offer where
  amount : Option OfferAmount
  signingPubkey : Option PublicKey

structure Bolt11Invoice (ContractId : Type) where
  paymentHash : PaymentHash
  paymentSecret : PaymentSecret
  amountMilliSatoshis : Option Nat
  rgbContractId : Option ContractId
  rgbAmount : Option Nat
  payeePubKey : PublicKey

/-- What the Lightning library makes of texts and bytes. -/
structure PaymentLibrary (ContractId : Type) where
  offerFromStr : String → Option Offer
  bolt11FromStr : String → Except String (Bolt11Invoice ContractId)
  /-- Whether there are payment parameters for an invoice, at an amount of its
  own or at the given one. -/
  paymentParameters : Bolt11Invoice ContractId → Option Nat → Bool
  publicKeyFromSlice : List UInt8 → Option PublicKey
  sha256 : Bytes32 → Bytes32

structure SendPaymentRequest where
  invoice : String
  amtMsat : Option Nat

structure KeysendRequest where
  destPubkey : String
  amtMsat : Nat
  assetId : Option String
  assetAmount : Option Nat

/-- How a payment is handed to the channel manager. -/
inductive SendCall where
  | payForOffer
  | sendPayment
  | sendSpontaneousPayment
  deriving DecidableEq

/-- A payment that has passed the checks, as it is going to be recorded. -/
structure OutboundPayment (ContractId : Type) where
  paymentId : PaymentId
  info : PaymentInfo
  /-- What goes into the payment-info file, if it carries an asset. -/
  rgbPayment : Option (ContractId × Nat)
  call : SendCall

/-! ### Checks -/

/-- The amount to pay for an offer. -/
def offerAmount : Option OfferAmount → Option Nat → Except (Exit APIError) Nat
  | some (.bitcoin amountMsats), _ => .ok amountMsats
  | _, some amt => .ok amt
  | none, none => .error (.err (.invalidAmount
      "cannot process non-Bitcoin-denominated offer value None"))
  | some (.currency debug), none => .error (.err (.invalidAmount
      s!"cannot process non-Bitcoin-denominated offer value Some({debug})"))

def prepareOffer (offer : Offer) (amtMsat : Option Nat) (random : Bytes32) (now : Nat) :
    Except (Exit APIError) (OutboundPayment ContractId) := do
  let amt ← offerAmount offer.amount amtMsat
  if amtMsat.isSome ∧ amtMsat ≠ some amt then
    .error (.err (.invalidAmount s!"amount didn't match offer of {amt}msat"))
  else match offer.signingPubkey with
    | none => .error (.err (.invalidInvoice "missing signing pubkey"))
    | some payee =>
      .ok ⟨⟨random⟩, ⟨none, none, .pending, some amt, now, now, payee⟩, none, .payForOffer⟩

/-- The amount to pay for an invoice, and whether the request had to name it. -/
def invoiceAmount (invoice : Bolt11Invoice ContractId) (amtMsat : Option Nat) :
    Except (Exit APIError) (Nat × Bool) :=
  if invoice.amountMilliSatoshis = none ∨ invoice.amountMilliSatoshis = some 0 then
    match amtMsat with
    | some amt => .ok (amt, true)
    | none => .error (.err (.invalidAmount "need an amount for the given 0-value invoice"))
  else if amtMsat.isSome ∧ invoice.amountMilliSatoshis ≠ amtMsat then
    .error (.err (.invalidAmount
      s!"amount didn't match invoice value of {invoice.amountMilliSatoshis.getD 0}msat"))
  else .ok (invoice.amountMilliSatoshis.getD 0, false)

/-- The asset an invoice asks for, which needs a minimum of BTC to travel with. -/
def invoiceRgbPayment (invoice : Bolt11Invoice ContractId) (amtMsat : Nat) :
    Except (Exit APIError) (Option (ContractId × Nat)) :=
  match invoice.rgbContractId, invoice.rgbAmount with
  | some contractId, some rgbAmount =>
    if amtMsat < invoiceMinMsat then
      .error (.err (.invalidAmount s!"msat amount in invoice sending an RGB asset cannot be less than {invoiceMinMsat}"))
    else .ok (some (contractId, rgbAmount))
  | none, none => .ok none
  | some _, none => .error (.err (.invalidInvoice
      "invoice has an RGB contract ID but not an RGB amount"))
  | none, some _ => .error (.err (.invalidInvoice
      "invoice has an RGB amount but not an RGB contract ID"))

def prepareInvoice (lib : PaymentLibrary ContractId) (invoice : Bolt11Invoice ContractId)
    (amtMsat : Option Nat) (now : Nat) : Except (Exit APIError) (OutboundPayment ContractId) := do
  let (amt, named) ← invoiceAmount invoice amtMsat
  if !lib.paymentParameters invoice (if named then some amt else none) then
    .error (.err (.invalidInvoice "failed to parse invoice: ()"))
  else do
    let rgbPayment ← invoiceRgbPayment invoice amt
    -- the payment id is the payment hash, so an invoice has one record
    return ⟨⟨invoice.paymentHash.bytes⟩, ⟨none, some invoice.paymentSecret, .pending,
      invoice.amountMilliSatoshis, now, now, invoice.payeePubKey⟩, rgbPayment, .sendPayment⟩

def prepareSendPayment (lib : PaymentLibrary ContractId) (req : SendPaymentRequest)
    (random : Bytes32) (now : Nat) : Except (Exit APIError) (OutboundPayment ContractId) :=
  match lib.offerFromStr req.invoice with
  | some offer => prepareOffer offer req.amtMsat random now
  | none =>
    match lib.bolt11FromStr req.invoice with
    | .error e => .error (.err (.invalidInvoice e))
    | .ok invoice => prepareInvoice lib invoice req.amtMsat now

def hexStrToCompressedPubkey (lib : PaymentLibrary ContractId) (hex : String) :
    Option PublicKey :=
  if hex.utf8ByteSize ≠ 33 * 2 then none
  else (hexStrToVec hex.toList).bind lib.publicKeyFromSlice

def keysendRgbPayment [ContractIdText ContractId] :
    Option String → Option Nat → Except (Exit APIError) (Option (ContractId × Nat))
  | some assetId, some rgbAmount =>
    match ContractIdText.ofText assetId with
    | some contractId => .ok (some (contractId, rgbAmount))
    | none => .error (.err (.invalidAssetID assetId))
  | none, none => .ok none
  | _, _ => .error (.err .incompleteRGBInfo)

def prepareKeysend [ContractIdText ContractId] (lib : PaymentLibrary ContractId)
    (req : KeysendRequest) (random : Bytes32) (now : Nat) :
    Except (Exit APIError) (OutboundPayment ContractId) :=
  match hexStrToCompressedPubkey lib req.destPubkey with
  | none => .error (.err .invalidPubkey)
  | some destPubkey =>
    if req.amtMsat < htlcMinMsat then
      .error (.err (.invalidAmount s!"amt_msat cannot be less than {htlcMinMsat}"))
    else do
      let rgbPayment ← keysendRgbPayment req.assetId req.assetAmount
      return ⟨⟨lib.sha256 random⟩, ⟨none, none, .pending, some req.amtMsat, now, now, destPubkey⟩,
        rgbPayment, .sendSpontaneousPayment⟩

/-! ### Recording -/

/-- Record a payment that has passed the checks. -/
def recordOutbound (prepared : Except (Exit APIError) (OutboundPayment ContractId)) :
    Fallible (Exit APIError) (Stores ContractId) (OutboundPayment ContractId) := do
  let payment ← attempt prepared
  Stores.addOutboundPayment payment.paymentId payment.info
  return payment

/-- How often a payment that is refused is marked as failed: once, and for an
offer twice. -/
def SendCall.failedMarks : SendCall → Nat
  | payForOffer => 2
  | sendPayment | sendSpontaneousPayment => 1

theorem status_of_prepareOffer {offer : Offer} {amtMsat : Option Nat} {random : Bytes32}
    {now : Nat} {payment : OutboundPayment ContractId}
    (h : prepareOffer offer amtMsat random now = .ok payment) :
    payment.info.status = .pending := by
  obtain ⟨amt, -, h⟩ := except_bind_eq_ok_iff.mp h
  split at h
  · cases h
  · split at h
    · cases h
    · rw [← Except.ok.inj h]

theorem status_of_prepareInvoice {lib : PaymentLibrary ContractId}
    {invoice : Bolt11Invoice ContractId} {amtMsat : Option Nat} {now : Nat}
    {payment : OutboundPayment ContractId}
    (h : prepareInvoice lib invoice amtMsat now = .ok payment) :
    payment.info.status = .pending := by
  obtain ⟨⟨amt, named⟩, -, h⟩ := except_bind_eq_ok_iff.mp h
  by_cases hparams : lib.paymentParameters invoice (if named then some amt else none) = true
  · simp only [hparams, Bool.not_true, Bool.false_eq_true, if_false] at h
    obtain ⟨rgbPayment, -, h⟩ := except_bind_eq_ok_iff.mp h
    rw [← Except.ok.inj h]
  · simp [hparams] at h

/-- Every payment is pending when it is prepared. -/
theorem status_of_prepareSendPayment {lib : PaymentLibrary ContractId} {req : SendPaymentRequest}
    {random : Bytes32} {now : Nat} {payment : OutboundPayment ContractId}
    (h : prepareSendPayment lib req random now = .ok payment) :
    payment.info.status = .pending := by
  unfold prepareSendPayment at h
  split at h
  · exact status_of_prepareOffer h
  · split at h
    · cases h
    · exact status_of_prepareInvoice h

theorem status_of_prepareKeysend [ContractIdText ContractId] {lib : PaymentLibrary ContractId}
    {req : KeysendRequest} {random : Bytes32} {now : Nat} {payment : OutboundPayment ContractId}
    (h : prepareKeysend lib req random now = .ok payment) : payment.info.status = .pending := by
  unfold prepareKeysend at h
  split at h
  · cases h
  · split at h
    · cases h
    · obtain ⟨rgbPayment, -, h⟩ := except_bind_eq_ok_iff.mp h
      rw [← Except.ok.inj h]

/-- A payment is recorded when it passes the checks and its id is free or has
failed. -/
theorem recordOutbound_eq_ok_iff
    {prepared : Except (Exit APIError) (OutboundPayment ContractId)} {s s' : Stores ContractId}
    {payment : OutboundPayment ContractId} :
    recordOutbound prepared s = .ok payment s' ↔ prepared = .ok payment ∧
      (∀ existing, s.outboundPayments.lookup payment.paymentId = some existing →
        existing.status = .failed) ∧
      s' = s.saveOutboundPayments
        (s.outboundPayments.insert payment.paymentId payment.info) := by
  rcases prepared with exit | prepared
  · simp [recordOutbound, bind_apply]
  · rw [recordOutbound, bind_of_ok (attempt_ok prepared s)]
    constructor
    · intro h
      obtain ⟨t, hadd, hret⟩ := unit_bind_eq_ok_iff.mp h
      obtain ⟨rfl, rfl⟩ := EStateM.Result.ok.inj hret
      exact ⟨rfl, Stores.addOutboundPayment_eq_ok_iff.mp hadd⟩
    · rintro ⟨hp, hadd⟩
      obtain rfl := Except.ok.inj hp
      rw [bind_of_ok (Stores.addOutboundPayment_eq_ok_iff.mpr hadd)]
      rfl

theorem recordOutbound_error
    {prepared : Except (Exit APIError) (OutboundPayment ContractId)} {s s' : Stores ContractId}
    {e : Exit APIError} (h : recordOutbound prepared s = .error e s') : s = s' := by
  rcases attempt_bind_eq_error h with rfl | ⟨payment, -, h⟩
  · rfl
  · rcases ha : Stores.addOutboundPayment payment.paymentId payment.info s with ⟨⟨⟩, t⟩ | ⟨e', t⟩
    · rw [bind_of_ok ha] at h
      cases h
    · rw [bind_of_error ha] at h
      obtain ⟨-, rfl⟩ := EStateM.Result.error.inj h
      exact Stores.addOutboundPayment_error ha

end RgbLightningNode
