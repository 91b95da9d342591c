import RgbLightningNode.Routes.SendPayment
import RgbLightningNode.SwapString

/-!
# Issuing an invoice

The request names an amount, an asset and an amount of the asset, each of which
may be missing. What the channel manager makes of them is another node's to pay.
-/

namespace RgbLightningNode

open Fallible

inductive Currency where
  | bitcoin | bitcoinTestnet | regtest | signet
  deriving DecidableEq

def BitcoinNetwork.currency : BitcoinNetwork → Currency
  | mainnet => .bitcoin
  | testnet | testnet4 => .bitcoinTestnet
  | regtest => .regtest
  | signet => .signet

/-- What an invoice is created from. -/
structure InvoiceTerms (ContractId : Type) where
  currency : Currency
  amtMsat : Option Nat
  description : String
  invoiceExpiryDeltaSecs : Nat
  contractId : Option ContractId
  assetAmount : Option Nat

/-- The channel manager's way of creating an invoice, and the text of one. -/
structure InvoiceIssuer (ContractId : Type) where
  createInvoice : InvoiceTerms ContractId → Except String (Bolt11Invoice ContractId)
  toText : Bolt11Invoice ContractId → String

structure LNInvoiceRequest where
  amtMsat : Option Nat
  expirySec : Nat
  assetId : Option String
  assetAmount : Option Nat

variable {ContractId : Type}

namespace LNInvoiceRequest

section Checks

variable [ContractIdText ContractId]

def contractId (req : LNInvoiceRequest) : Except APIError (Option ContractId) :=
  match req.assetId with
  | none => .ok none
  | some assetId =>
    match ContractIdText.ofText assetId with
    | some contractId => .ok (some contractId)
    | none => .error (.invalidAssetID assetId)

/-- The terms of the invoice, when the request passes the checks. -/
def terms (network : BitcoinNetwork) (req : LNInvoiceRequest) :
    Except APIError (InvoiceTerms ContractId) := do
  let contractId ← req.contractId
  -- the amount of the asset is not looked at
  if contractId.isSome ∧ req.amtMsat.getD 0 < invoiceMinMsat then
    .error (.invalidAmount
      s!"amt_msat cannot be less than {invoiceMinMsat} when transferring an RGB asset")
  else return {
    currency := network.currency
    amtMsat := req.amtMsat
    description := "ldk-tutorial-node"
    invoiceExpiryDeltaSecs := req.expirySec
    contractId := contractId
    assetAmount := req.assetAmount }

def lnInvoice (issuer : InvoiceIssuer ContractId) (network : BitcoinNetwork)
    (ourNodeId : PublicKey) (now : Nat) (req : LNInvoiceRequest) :
    Fallible APIError (Stores ContractId) String := do
  let terms ← attempt (req.terms network)
  let invoice ← attempt ((issuer.createInvoice terms).mapError .failedInvoiceCreation)
  modify (Stores.addInboundPayment invoice.paymentHash {
    preimage := none
    secret := some invoice.paymentSecret
    status := .pending
    amtMsat := req.amtMsat
    createdAt := now
    updatedAt := now
    payeePubkey := ourNodeId })
  return issuer.toText invoice

variable {req : LNInvoiceRequest} {network : BitcoinNetwork} {issued : InvoiceTerms ContractId}

theorem isSome_of_contractId {contractId : Option ContractId}
    (h : req.contractId = .ok contractId) : contractId.isSome = req.assetId.isSome := by
  unfold LNInvoiceRequest.contractId at h
  cases hasset : req.assetId with
  | none =>
    rw [hasset] at h
    cases h
    rfl
  | some assetId =>
    simp only [hasset] at h
    cases hof : (ContractIdText.ofText assetId : Option ContractId) with
    | none =>
      rw [hof] at h
      cases h
    | some contractId =>
      rw [hof] at h
      cases h
      rfl

/-- What is known of terms that have passed the checks. -/
structure Checked (req : LNInvoiceRequest) (issued : InvoiceTerms ContractId) : Prop where
  amtMsat : issued.amtMsat = req.amtMsat
  assetAmount : issued.assetAmount = req.assetAmount
  contractId : issued.contractId.isSome = req.assetId.isSome
  /-- An asset travels with the least amount of BTC. -/
  min : req.assetId.isSome = true → invoiceMinMsat ≤ req.amtMsat.getD 0

theorem checked_of_terms (h : req.terms network = .ok issued) : Checked req issued := by
  obtain ⟨contractId, hid, h⟩ := except_bind_eq_ok_iff.mp h
  have hsome := isSome_of_contractId hid
  by_cases hmin : contractId.isSome ∧ req.amtMsat.getD 0 < invoiceMinMsat
  · rw [if_pos hmin] at h
    cases h
  · rw [if_neg hmin] at h
    cases h
    refine ⟨rfl, rfl, hsome, fun hasset => ?_⟩
    exact Nat.le_of_not_lt fun hlt => hmin ⟨hsome ▸ hasset, hlt⟩

/-- A text that is issued is that of an invoice created on checked terms. -/
theorem created_of_lnInvoice {issuer : InvoiceIssuer ContractId} {ourNodeId : PublicKey}
    {now : Nat} {s s' : Stores ContractId} {text : String}
    (h : lnInvoice issuer network ourNodeId now req s = .ok text s') :
    ∃ issued invoice, Checked req issued ∧ issuer.createInvoice issued = .ok invoice ∧
      text = issuer.toText invoice := by
  obtain ⟨issued, s₁, hterms, h⟩ := bind_eq_ok_iff.mp h
  obtain ⟨invoice, s₂, hinvoice, h⟩ := bind_eq_ok_iff.mp h
  obtain ⟨hterms, -⟩ := attempt_eq_ok_iff.mp hterms
  obtain ⟨hinvoice, -⟩ := attempt_eq_ok_iff.mp hinvoice
  obtain ⟨_, _, -, h⟩ := bind_eq_ok_iff.mp h
  refine ⟨issued, invoice, checked_of_terms hterms, ?_, by cases h; rfl⟩
  cases hc : issuer.createInvoice issued with
  | error e =>
    rw [hc] at hinvoice
    cases hinvoice
  | ok created =>
    rw [hc] at hinvoice
    cases hinvoice
    rfl

end Checks

end LNInvoiceRequest

/-! ### The checks of the payer -/

/-- The checks of a payment turn it down as an invoice or for its amount. -/
def ChecksReject {α : Type} (prepared : Except (Exit APIError) α) : Prop :=
  ∃ message, prepared = .error (.err (.invalidInvoice message)) ∨
    prepared = .error (.err (.invalidAmount message))

theorem not_checksReject_ok {α : Type} (a : α) : ¬ChecksReject (.ok a) := by
  rintro ⟨message, h | h⟩ <;> cases h

/-- The amount a payer names: none for an invoice with an amount, and at least the
minimum for one without. An invoice of 0 may be taken for either. -/
def NamesAmount (issued : Option Nat) (amtMsat : Option Nat) : Prop :=
  (issued.isSome ∧ amtMsat = none) ∨
    ((issued = none ∨ issued = some 0) ∧ ∃ amt, amtMsat = some amt ∧ invoiceMinMsat ≤ amt)

theorem exists_namesAmount (issued : Option Nat) : ∃ amtMsat, NamesAmount issued amtMsat := by
  cases issued with
  | none => exact ⟨some invoiceMinMsat, .inr ⟨.inl rfl, _, rfl, le_rfl⟩⟩
  | some amt => exact ⟨none, .inl ⟨rfl, rfl⟩⟩

/-- The documented rule of the two functions that make payment parameters: one is for
invoices with an amount, the other for those without. -/
structure PaymentLibrary.MakesParameters (lib : PaymentLibrary ContractId) : Prop where
  own : ∀ invoice, lib.paymentParameters invoice none = true ↔
    invoice.amountMilliSatoshis.isSome = true
  named : ∀ invoice amt, lib.paymentParameters invoice (some amt) = true ↔
    invoice.amountMilliSatoshis = none

/-- With BTC enough for an asset, an invoice is turned down for naming an asset
without an amount, or an amount without an asset. -/
theorem checksReject_invoiceRgbPayment_iff {invoice : Bolt11Invoice ContractId} {amt : Nat}
    (hmin : invoice.rgbContractId.isSome = true → invoiceMinMsat ≤ amt) :
    ChecksReject (invoiceRgbPayment invoice amt) ↔
      invoice.rgbContractId.isSome ≠ invoice.rgbAmount.isSome := by
  rw [invoiceRgbPayment]
  cases hid : invoice.rgbContractId with
  | none =>
    cases hamt : invoice.rgbAmount with
    | none => simp [not_checksReject_ok]
    | some rgbAmount => simp [ChecksReject]
  | some contractId =>
    cases hamt : invoice.rgbAmount with
    | none => simp [ChecksReject]
    | some rgbAmount =>
      have hlt : ¬amt < invoiceMinMsat := Nat.not_lt.mpr (hmin (by rw [hid]; rfl))
      simp [hlt, not_checksReject_ok]

theorem checksReject_bind_ok {α β : Type} {x : Except (Exit APIError) α} {f : α → β} :
    ChecksReject (x >>= fun a => Except.ok (f a)) ↔ ChecksReject x := by
  cases x with
  | error e =>
    constructor
    · rintro ⟨message, h | h⟩
      · exact ⟨message, .inl (by cases h; rfl)⟩
      · exact ⟨message, .inr (by cases h; rfl)⟩
    · rintro ⟨message, h | h⟩
      · exact ⟨message, .inl (by cases h; rfl)⟩
      · exact ⟨message, .inr (by cases h; rfl)⟩
  | ok a => exact iff_of_false (not_checksReject_ok _) (not_checksReject_ok _)

/-- A payment of an invoice of 0 msat is refused, whether it names an amount or not. -/
theorem checksReject_of_zero {lib : PaymentLibrary ContractId} {invoice : Bolt11Invoice ContractId}
    (hlib : lib.MakesParameters) (hzero : invoice.amountMilliSatoshis = some 0)
    (amtMsat : Option Nat) (now : Nat) :
    ChecksReject (prepareInvoice lib invoice amtMsat now) := by
  cases amtMsat with
  | none =>
    refine ⟨"need an amount for the given 0-value invoice", .inr ?_⟩
    rw [prepareInvoice, invoiceAmount, if_pos (.inr hzero)]
    rfl
  | some amt =>
    have hparams : lib.paymentParameters invoice (some amt) = false := by
      rw [Bool.eq_false_iff, Ne, hlib.named, hzero]
      simp
    refine ⟨"failed to parse invoice: ()", .inl ?_⟩
    rw [prepareInvoice, invoiceAmount, if_pos (.inr hzero), except_ok_bind]
    simp only [if_true, hparams, Bool.not_false]

/-- A payment of another invoice that names an amount where it is left open has
parameters, and its amount is at least the minimum when the invoice's own is. -/
theorem prepareInvoice_of_namesAmount {lib : PaymentLibrary ContractId}
    {invoice : Bolt11Invoice ContractId} {amtMsat : Option Nat} (hlib : lib.MakesParameters)
    (hamt : NamesAmount invoice.amountMilliSatoshis amtMsat)
    (hzero : invoice.amountMilliSatoshis ≠ some 0) (now : Nat) :
    ∃ amt, (invoiceMinMsat ≤ invoice.amountMilliSatoshis.getD 0 → invoiceMinMsat ≤ amt) ∧
      prepareInvoice lib invoice amtMsat now =
        invoiceRgbPayment invoice amt >>= fun rgbPayment => .ok ⟨⟨invoice.paymentHash.bytes⟩,
          ⟨none, some invoice.paymentSecret, .pending, invoice.amountMilliSatoshis, now, now,
            invoice.payeePubKey⟩, rgbPayment, .sendPayment⟩ := by
  obtain ⟨hsome, rfl⟩ | ⟨hnone | hzero', amt, rfl, hmin⟩ := hamt
  · have hopen : ¬(invoice.amountMilliSatoshis = none ∨ invoice.amountMilliSatoshis = some 0) := by
      rintro (h | h)
      · rw [h] at hsome
        cases hsome
      · exact hzero h
    have hparams := (hlib.own invoice).mpr hsome
    refine ⟨invoice.amountMilliSatoshis.getD 0, id, ?_⟩
    rw [prepareInvoice, invoiceAmount, if_neg hopen, if_neg (by simp), except_ok_bind]
    simp only [Bool.false_eq_true, if_false, hparams, Bool.not_true]
    rfl
  · have hparams := (hlib.named invoice amt).mpr hnone
    refine ⟨amt, fun _ => hmin, ?_⟩
    rw [prepareInvoice, invoiceAmount, if_pos (.inl hnone), except_ok_bind]
    simp only [if_true, hparams, Bool.not_true, Bool.false_eq_true, if_false]
    rfl
  · exact absurd hzero' hzero

theorem checksReject_prepareInvoice_iff {lib : PaymentLibrary ContractId}
    {invoice : Bolt11Invoice ContractId} {amtMsat : Option Nat} {now : Nat}
    (hlib : lib.MakesParameters) (hamt : NamesAmount invoice.amountMilliSatoshis amtMsat)
    (hmin : invoice.rgbContractId.isSome = true →
      invoiceMinMsat ≤ invoice.amountMilliSatoshis.getD 0) :
    ChecksReject (prepareInvoice lib invoice amtMsat now) ↔
      invoice.amountMilliSatoshis = some 0 ∨
        invoice.rgbContractId.isSome ≠ invoice.rgbAmount.isSome := by
  by_cases hzero : invoice.amountMilliSatoshis = some 0
  · exact iff_of_true (checksReject_of_zero hlib hzero amtMsat now) (.inl hzero)
  · obtain ⟨amt, henough, hprepare⟩ := prepareInvoice_of_namesAmount hlib hamt hzero now
    rw [hprepare, checksReject_bind_ok,
      checksReject_invoiceRgbPayment_iff fun hid => henough (hmin hid), or_iff_right hzero]

/-- The payer's library reads an issued text as the invoice it is of, which
carries what it was created from. -/
structure ReadsBack (issuer : InvoiceIssuer ContractId) (payer : PaymentLibrary ContractId) :
    Prop where
  amount : ∀ {issued invoice}, issuer.createInvoice issued = .ok invoice →
    invoice.amountMilliSatoshis = issued.amtMsat
  contractId : ∀ {issued invoice}, issuer.createInvoice issued = .ok invoice →
    invoice.rgbContractId = issued.contractId
  assetAmount : ∀ {issued invoice}, issuer.createInvoice issued = .ok invoice →
    invoice.rgbAmount = issued.assetAmount
  notOffer : ∀ {issued invoice}, issuer.createInvoice issued = .ok invoice →
    payer.offerFromStr (issuer.toText invoice) = none
  parses : ∀ {issued invoice}, issuer.createInvoice issued = .ok invoice →
    payer.bolt11FromStr (issuer.toText invoice) = .ok invoice
  parameters : payer.MakesParameters

namespace LNInvoiceRequest

variable [ContractIdText ContractId]

/-- The issued text passes the checks of a payment that names an amount exactly where the
invoice leaves it open. -/
def Payable (issuer : InvoiceIssuer ContractId) (payer : PaymentLibrary ContractId)
    (network : BitcoinNetwork) (ourNodeId : PublicKey) (now : Nat) (s : Stores ContractId)
    (req : LNInvoiceRequest) : Prop :=
  ∀ text s', lnInvoice issuer network ourNodeId now req s = .ok text s' →
    ∀ amtMsat random later, NamesAmount req.amtMsat amtMsat →
      ¬ChecksReject (prepareSendPayment payer ⟨text, amtMsat⟩ random later)

/-- The text of an issued invoice is payable when the request names an asset and
an amount of it, or neither, and does not ask for 0 msat. -/
theorem payable_iff {issuer : InvoiceIssuer ContractId} {payer : PaymentLibrary ContractId}
    {network : BitcoinNetwork} {ourNodeId : PublicKey} {now : Nat} {s : Stores ContractId}
    {req : LNInvoiceRequest} (hlib : ReadsBack issuer payer)
    (hok : ∃ text s', lnInvoice issuer network ourNodeId now req s = .ok text s') :
    Payable issuer payer network ourNodeId now s req ↔
      req.amtMsat ≠ some 0 ∧ req.assetId.isSome = req.assetAmount.isSome := by
  -- the checks of a payment compare what the request named
  have hreject : ∀ text s' amtMsat random later,
      lnInvoice issuer network ourNodeId now req s = .ok text s' →
      NamesAmount req.amtMsat amtMsat →
      (ChecksReject (prepareSendPayment payer ⟨text, amtMsat⟩ random later) ↔
        req.amtMsat = some 0 ∨ req.assetId.isSome ≠ req.assetAmount.isSome) := by
    intro text s' amtMsat random later htext hnames
    obtain ⟨issued, invoice, hchecked, hcreated, rfl⟩ := created_of_lnInvoice htext
    have hamount := (hlib.amount hcreated).trans hchecked.amtMsat
    have hsend : prepareSendPayment payer ⟨issuer.toText invoice, amtMsat⟩ random later =
        prepareInvoice payer invoice amtMsat later := by
      rw [prepareSendPayment]
      simp only [hlib.notOffer hcreated, hlib.parses hcreated]
    rw [hsend, checksReject_prepareInvoice_iff hlib.parameters (hamount ▸ hnames) ?_, hamount,
      hlib.contractId hcreated, hlib.assetAmount hcreated, hchecked.contractId,
      hchecked.assetAmount]
    intro hid
    rw [hlib.contractId hcreated, hchecked.contractId] at hid
    rw [hamount]
    exact hchecked.min hid
  constructor
  · intro hpayable
    obtain ⟨text, s', htext⟩ := hok
    obtain ⟨amtMsat, hnames⟩ := exists_namesAmount req.amtMsat
    have hnot := hpayable text s' htext amtMsat (Vector.replicate 32 0) now hnames
    rw [hreject text s' amtMsat _ _ htext hnames] at hnot
    exact ⟨fun hzero => hnot (.inl hzero), not_ne_iff.mp fun hne => hnot (.inr hne)⟩
  · rintro ⟨hzero, hboth⟩ text s' htext amtMsat random later hnames
    rw [hreject text s' amtMsat random later htext hnames]
    exact not_or.mpr ⟨hzero, not_ne_iff.mpr hboth⟩

/-- An issuer of one invoice, whatever is asked of it that the invoice carries. -/
def issuerOf (invoice : Bolt11Invoice ℕ) : InvoiceIssuer ℕ where
  createInvoice issued :=
    if invoice.amountMilliSatoshis = issued.amtMsat ∧ invoice.rgbContractId = issued.contractId ∧
      invoice.rgbAmount = issued.assetAmount then .ok invoice else .error "CreationError"
  toText _ := "lnbcrt"

/-- A payer's library that knows the text of one invoice. -/
def payerOf (invoice : Bolt11Invoice ℕ) : PaymentLibrary ℕ where
  offerFromStr _ := none
  bolt11FromStr text := if text = "lnbcrt" then .ok invoice else .error "ParseError"
  paymentParameters
    | invoice, none => invoice.amountMilliSatoshis.isSome
    | invoice, some _ => invoice.amountMilliSatoshis.isNone
  publicKeyFromSlice _ := none
  sha256 bytes := bytes

theorem readsBack_issuerOf (invoice : Bolt11Invoice ℕ) :
    ReadsBack (issuerOf invoice) (payerOf invoice) := by
  have carried : ∀ {issued created}, (issuerOf invoice).createInvoice issued = .ok created →
      (invoice.amountMilliSatoshis = issued.amtMsat ∧ invoice.rgbContractId = issued.contractId ∧
        invoice.rgbAmount = issued.assetAmount) ∧ invoice = created := by
    intro issued created h
    simp only [issuerOf] at h
    split at h
    · exact ⟨‹_›, Except.ok.inj h⟩
    · cases h
  constructor
  · intro issued created h
    obtain ⟨hc, rfl⟩ := carried h
    exact hc.1
  · intro issued created h
    obtain ⟨hc, rfl⟩ := carried h
    exact hc.2.1
  · intro issued created h
    obtain ⟨hc, rfl⟩ := carried h
    exact hc.2.2
  · intro issued created h
    rfl
  · intro issued created h
    obtain ⟨-, rfl⟩ := carried h
    rfl
  · exact ⟨fun _ => Iff.rfl, fun _ _ => Option.isNone_iff_eq_none⟩

/-- The invoice issued for a request of an amount in BTC and of an asset. -/
def invoiceFor (amtMsat : Option Nat) (contractId assetAmount : Option Nat) :
    Bolt11Invoice ℕ where
  paymentHash := ⟨Vector.replicate 32 1⟩
  paymentSecret := ⟨Vector.replicate 32 2⟩
  amountMilliSatoshis := amtMsat
  rgbContractId := contractId
  rgbAmount := assetAmount
  payeePubKey := ⟨Vector.replicate 33 3⟩

/-- The issuer and the payer of such an invoice. -/
def PayableFor (req : LNInvoiceRequest) (contractId : Option ℕ) : Prop :=
  Payable (issuerOf (invoiceFor req.amtMsat contractId req.assetAmount))
    (payerOf (invoiceFor req.amtMsat contractId req.assetAmount)) .regtest
    ⟨Vector.replicate 33 3⟩ 0 (Stores.load ∅) req

/-- An invoice for 600 tokens of asset 1, and one that leaves the amount to the payer. -/
theorem payable_of_asset :
    PayableFor ⟨some 3000000, 900, some "1", some 600⟩ (some 1) ∧
      PayableFor ⟨none, 900, none, none⟩ none :=
  ⟨(payable_iff (readsBack_issuerOf _) ⟨_, _, rfl⟩).mpr ⟨by decide, rfl⟩,
    (payable_iff (readsBack_issuerOf _) ⟨_, _, rfl⟩).mpr ⟨by decide, rfl⟩⟩

/-- An amount without an asset, and an amount of 0, is issued in an invoice and refused by
a payment. -/
theorem issues_amount_of_no_asset :
    ¬PayableFor ⟨some 3000000, 900, none, some 5⟩ none ∧
      ¬PayableFor ⟨some 0, 900, none, none⟩ none := by
  constructor
  · intro h
    exact h "lnbcrt" _ rfl none (Vector.replicate 32 0) 0 (.inl ⟨rfl, rfl⟩)
      ⟨"invoice has an RGB amount but not an RGB contract ID", .inl rfl⟩
  · intro h
    exact h "lnbcrt" _ rfl (some 3000000) (Vector.replicate 32 0) 0
      (.inr ⟨.inr rfl, 3000000, rfl, by decide⟩) ⟨"failed to parse invoice: ()", .inl rfl⟩

end LNInvoiceRequest

end RgbLightningNode
