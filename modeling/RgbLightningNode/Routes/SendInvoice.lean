import RgbLightningNode.Routes.SendPayment
import RgbLightningNode.LdkDataDir

/-!
# Paying an invoice

An invoice may name its amount, and so may the request. What is recorded comes
from the invoice, what is paid from both.
-/

namespace RgbLightningNode

open Fallible

variable {ContractId : Type}

/-- What a request to pay an invoice works on, with the payments handed to the
channel manager and their amounts. -/
structure InvoicePayer (ContractId : Type) where
  stores : Stores ContractId
  ldkDataDir : LdkDataDir ContractId
  sent : List (PaymentId × Nat) := []

/-- The parts of the Lightning library that pay an invoice. -/
structure InvoiceLibrary (ContractId : Type) extends PaymentLibrary ContractId where
  /-- The final value in the payment parameters of an invoice, at an amount of its
  own or at the given one. -/
  finalValueMsat : Bolt11Invoice ContractId → Option Nat → Nat
  writeRgbPaymentInfoFile : PaymentHash → ContractId → Nat → (swap inbound : Bool) →
    LdkDataDir ContractId → LdkDataDir ContractId
  /-- Whether the channel manager takes a payment of this amount. -/
  sendPayment : PaymentHash → PaymentId → Nat → Bool

/-- Payment parameters are for the amount they are asked for. -/
structure InvoiceLibrary.Documented (lib : InvoiceLibrary ContractId) : Prop where
  own : ∀ invoice, lib.paymentParameters invoice none →
    invoice.amountMilliSatoshis = some (lib.finalValueMsat invoice none)
  named : ∀ invoice amt, lib.paymentParameters invoice (some amt) →
    lib.finalValueMsat invoice (some amt) = amt

/-- Whether an invoice leaves the amount to the request. -/
def Bolt11Invoice.isZeroAmount (invoice : Bolt11Invoice ContractId) : Bool :=
  invoice.amountMilliSatoshis = none ∨ invoice.amountMilliSatoshis = some 0

/-- The amount the payment parameters are asked for. -/
def Bolt11Invoice.namedAmount (invoice : Bolt11Invoice ContractId) (amtMsat : Option Nat) :
    Option Nat :=
  if invoice.isZeroAmount then amtMsat else none

namespace InvoicePayer

/-- Hand the recorded payment over; the amount is read when it is taken. -/
def handOver (lib : InvoiceLibrary ContractId) (invoice : Bolt11Invoice ContractId)
    (paymentId : PaymentId) (finalValueMsat now : Nat) :
    Fallible (Exit APIError) (InvoicePayer ContractId) HTLCStatus := do
  modify fun s => { s with sent := s.sent ++ [(paymentId, finalValueMsat)] }
  if lib.sendPayment invoice.paymentHash paymentId finalValueMsat then do
    let _ ← attempt (orPanic invoice.amountMilliSatoshis unwrapNone)
    return .pending
  else do
    zoom InvoicePayer.stores (fun stores s => { s with stores := stores })
      (Stores.updateOutboundPaymentStatus paymentId .failed now)
    return .failed

/-- Pay an invoice that has been parsed. -/
def sendInvoice (lib : InvoiceLibrary ContractId) (invoice : Bolt11Invoice ContractId)
    (amtMsat : Option Nat) (now : Nat) :
    Fallible (Exit APIError) (InvoicePayer ContractId) HTLCStatus := do
  let payment ← zoom InvoicePayer.stores (fun stores s => { s with stores := stores })
    (recordOutbound (prepareInvoice lib.toPaymentLibrary invoice amtMsat now))
  match payment.rgbPayment with
  | some (contractId, rgbAmount) =>
    modify fun s => { s with
      ldkDataDir := lib.writeRgbPaymentInfoFile invoice.paymentHash contractId rgbAmount
        false false s.ldkDataDir }
  | none => pure ()
  handOver lib invoice payment.paymentId
    (lib.finalValueMsat invoice (invoice.namedAmount amtMsat)) now

/-- The request answers, and a payment it hands over is on record with the amount
that was handed over. -/
structure PaysAsRecorded (lib : InvoiceLibrary ContractId) (invoice : Bolt11Invoice ContractId)
    (amtMsat : Option Nat) (now : Nat) (s : InvoicePayer ContractId) : Prop where
  answers : StopsOnly Exit.answers (sendInvoice lib invoice amtMsat now) s
  recorded : ∀ paymentId amt,
    (after (sendInvoice lib invoice amtMsat now) s).sent = s.sent ++ [(paymentId, amt)] →
    ∃ info, (after (sendInvoice lib invoice amtMsat now) s).stores.outboundPayments.lookup
      paymentId = some info ∧ info.amtMsat = some amt

/-- The invoice names the amount that is paid. -/
def NamesAmountPaid (invoice : Bolt11Invoice ContractId) (amtMsat : Option Nat) : Prop :=
  ∃ amt, invoice.amountMilliSatoshis = some amt ∧ (amt = 0 → amtMsat = some 0)

variable {lib : InvoiceLibrary ContractId} {invoice : Bolt11Invoice ContractId}
  {amtMsat : Option Nat} {now : Nat} {s : InvoicePayer ContractId}

/-! ### Handing over -/

theorem answers_panic_iff {held : Option Mutex} {message : String} :
    Exit.answers (.panic held message : Exit APIError) ↔ False :=
  Iff.rfl

/-- Marking a recorded payment as failed keeps its amount. -/
theorem markFailed_apply (s : InvoicePayer ContractId) (now : Nat) {paymentId : PaymentId}
    {info : PaymentInfo} (h : s.stores.outboundPayments.lookup paymentId = some info) :
    (zoom InvoicePayer.stores (fun stores s => { s with stores := stores })
      (Stores.updateOutboundPaymentStatus paymentId .failed now) :
        Fallible (Exit APIError) (InvoicePayer ContractId) Unit) s =
      .ok () { s with
        stores := s.stores.saveOutboundPayments (s.stores.outboundPayments.insert paymentId
          { info with status := .failed, updatedAt := now }) } :=
  zoom_of_ok (Stores.updateOutboundPaymentStatus_eq_ok_iff.mpr ⟨info, h, rfl⟩)

theorem stopsOnly_handOver_iff {paymentId : PaymentId} {finalValueMsat : Nat} {info : PaymentInfo}
    (h : s.stores.outboundPayments.lookup paymentId = some info) :
    StopsOnly Exit.answers (handOver lib invoice paymentId finalValueMsat now) s ↔
      (lib.sendPayment invoice.paymentHash paymentId finalValueMsat →
        invoice.amountMilliSatoshis.isSome) := by
  rw [handOver, StopsOnly.bind_of_ok_iff (modify_apply _ s)]
  cases lib.sendPayment invoice.paymentHash paymentId finalValueMsat with
  | true =>
    refine StopsOnly.attempt_bind_iff.trans ?_
    rw [failsOnly_orPanic_iff, answers_panic_iff, or_false]
    exact ⟨fun hsome _ => hsome.1, fun hsome => ⟨hsome rfl, fun _ _ => StopsOnly.pure _⟩⟩
  | false =>
    refine iff_of_true ?_ (by simp)
    have hmark := markFailed_apply { s with sent := s.sent ++ [(paymentId, finalValueMsat)] } now h
    rw [if_neg Bool.false_ne_true]
    exact (StopsOnly.bind_of_ok_iff hmark).mpr (StopsOnly.pure _)

/-- The payment is on record as handed over, and its record keeps the amount. -/
theorem after_handOver (lib : InvoiceLibrary ContractId) (invoice : Bolt11Invoice ContractId)
    (finalValueMsat now : Nat) {paymentId : PaymentId} {info : PaymentInfo}
    (h : s.stores.outboundPayments.lookup paymentId = some info) :
    (after (handOver lib invoice paymentId finalValueMsat now) s).sent =
        s.sent ++ [(paymentId, finalValueMsat)] ∧
      ∃ info', (after (handOver lib invoice paymentId finalValueMsat now)
        s).stores.outboundPayments.lookup paymentId = some info' ∧
        info'.amtMsat = info.amtMsat := by
  rw [handOver, after_bind_of_ok (modify_apply _ s)]
  cases lib.sendPayment invoice.paymentHash paymentId finalValueMsat with
  | true =>
    rw [if_pos rfl]
    cases invoice.amountMilliSatoshis <;> exact ⟨rfl, info, h, rfl⟩
  | false =>
    have hmark := markFailed_apply { s with sent := s.sent ++ [(paymentId, finalValueMsat)] } now h
    rw [if_neg Bool.false_ne_true, after_bind_of_ok hmark]
    exact ⟨rfl, _, Finmap.lookup_insert _, rfl⟩

/-! ### The whole request -/

/-- The amount to pay is the one the request names when the invoice leaves it
open, otherwise it is the invoice's own. -/
theorem invoiceAmount_of_ok {amt : Nat} {named : Bool}
    (h : invoiceAmount invoice amtMsat = .ok (amt, named)) :
    named = invoice.isZeroAmount ∧
      (if invoice.isZeroAmount then amtMsat else invoice.amountMilliSatoshis) = some amt := by
  unfold invoiceAmount at h
  split at h
  · rename_i hzero
    have hz : invoice.isZeroAmount = true := by simpa [Bolt11Invoice.isZeroAmount] using hzero
    cases amtMsat with
    | none => cases h
    | some amt' =>
      obtain ⟨rfl, rfl⟩ := Prod.mk.inj (Except.ok.inj h)
      rw [hz]
      exact ⟨rfl, rfl⟩
  · rename_i hzero
    have hz : invoice.isZeroAmount = false := by simpa [Bolt11Invoice.isZeroAmount] using hzero
    split at h
    · cases h
    · obtain ⟨rfl, rfl⟩ := Prod.mk.inj (Except.ok.inj h)
      rw [hz]
      refine ⟨rfl, ?_⟩
      cases hamt : invoice.amountMilliSatoshis with
      | none => exact absurd (.inl hamt) hzero
      | some amt => rfl

/-- What the checks let through: the record has the amount of the invoice, and
the payment parameters have the amount to pay. -/
theorem prepareInvoice_of_ok (hdoc : lib.Documented) {payment : OutboundPayment ContractId}
    (h : prepareInvoice lib.toPaymentLibrary invoice amtMsat now = .ok payment) :
    payment.info.amtMsat = invoice.amountMilliSatoshis ∧
      (if invoice.isZeroAmount then amtMsat else invoice.amountMilliSatoshis) =
        some (lib.finalValueMsat invoice (invoice.namedAmount amtMsat)) := by
  obtain ⟨⟨amt, named⟩, hamount, h⟩ := except_bind_eq_ok_iff.mp h
  obtain ⟨rfl, hamt⟩ := invoiceAmount_of_ok hamount
  by_cases hparams :
      lib.paymentParameters invoice (if invoice.isZeroAmount then some amt else none) = true
  · simp only [hparams, Bool.not_true, Bool.false_eq_true, if_false] at h
    obtain ⟨rgbPayment, -, h⟩ := except_bind_eq_ok_iff.mp h
    obtain rfl := Except.ok.inj h
    refine ⟨rfl, ?_⟩
    rw [Bolt11Invoice.namedAmount]
    cases hz : invoice.isZeroAmount with
    | true =>
      simp only [hz, if_true] at hamt hparams ⊢
      rw [hamt, hdoc.named invoice amt hparams]
    | false =>
      simp only [hz, Bool.false_eq_true, if_false] at hparams ⊢
      exact hdoc.own invoice hparams
  · simp [hparams] at h

theorem failsOnly_invoiceAmount : FailsOnly Exit.answers (invoiceAmount invoice amtMsat) := by
  unfold invoiceAmount
  split
  · cases amtMsat with
    | none => exact FailsOnly.error_iff.mpr trivial
    | some amt => exact .ok _
  · split
    · exact FailsOnly.error_iff.mpr trivial
    · exact .ok _

theorem failsOnly_invoiceRgbPayment (amt : Nat) :
    FailsOnly Exit.answers (invoiceRgbPayment invoice amt) := by
  unfold invoiceRgbPayment
  split
  · split
    · exact FailsOnly.error_iff.mpr trivial
    · exact .ok _
  · exact .ok _
  · exact FailsOnly.error_iff.mpr trivial
  · exact FailsOnly.error_iff.mpr trivial

theorem failsOnly_prepareInvoice :
    FailsOnly Exit.answers (prepareInvoice lib.toPaymentLibrary invoice amtMsat now) := by
  refine FailsOnly.bind_iff.mpr ⟨failsOnly_invoiceAmount, fun amount _ => ?_⟩
  simp only
  cases lib.paymentParameters invoice (if amount.2 then some amount.1 else none) with
  | false =>
    rw [if_pos (by rfl)]
    exact FailsOnly.error_iff.mpr trivial
  | true =>
    rw [if_neg (by decide)]
    exact FailsOnly.bind_iff.mpr ⟨failsOnly_invoiceRgbPayment amount.1, fun _ _ => .ok _⟩

theorem stopsOnly_addOutboundPayment (paymentId : PaymentId) (info : PaymentInfo)
    (stores : Stores ContractId) :
    StopsOnly Exit.answers (Stores.addOutboundPayment paymentId info) stores := by
  rw [Stores.addOutboundPayment, StopsOnly.bind_of_ok_iff (get_apply stores)]
  cases stores.outboundPayments.lookup paymentId with
  | none =>
    intro e t h
    cases h
  | some existing =>
    refine StopsOnly.bind_iff.mpr ⟨.ensure fun _ => trivial, fun _ _ _ e t h => ?_⟩
    cases h

/-- The checks and the record only ever refuse. -/
theorem stopsOnly_recordOutbound (stores : Stores ContractId) :
    StopsOnly Exit.answers
      (recordOutbound (prepareInvoice lib.toPaymentLibrary invoice amtMsat now)) stores := by
  rw [recordOutbound, StopsOnly.attempt_bind_iff]
  refine ⟨failsOnly_prepareInvoice, fun payment _ => ?_⟩
  exact StopsOnly.bind_iff.mpr
    ⟨stopsOnly_addOutboundPayment payment.paymentId payment.info stores,
      fun _ _ _ => StopsOnly.pure _⟩

/-- The record is made and the payment-info file written, and the payment is
handed over. -/
theorem sendInvoice_of_recorded {payment : OutboundPayment ContractId}
    {stores : Stores ContractId}
    (h : recordOutbound (prepareInvoice lib.toPaymentLibrary invoice amtMsat now) s.stores =
      .ok payment stores) :
    ∃ s', sendInvoice lib invoice amtMsat now s =
        handOver lib invoice payment.paymentId
          (lib.finalValueMsat invoice (invoice.namedAmount amtMsat)) now s' ∧
      s'.sent = s.sent ∧
      s'.stores.outboundPayments.lookup payment.paymentId = some payment.info := by
  obtain ⟨-, -, hstores⟩ := recordOutbound_eq_ok_iff.mp h
  have hl : stores.outboundPayments.lookup payment.paymentId = some payment.info := by
    rw [hstores]
    exact Finmap.lookup_insert _
  rw [sendInvoice, bind_of_ok (zoom_of_ok h)]
  cases payment.rgbPayment with
  | none => exact ⟨{ s with stores := stores }, rfl, rfl, hl⟩
  | some rgb => exact ⟨_, rfl, rfl, hl⟩

/-- A request that is refused hands nothing over. -/
theorem sendInvoice_of_refused {exit : Exit APIError} {stores : Stores ContractId}
    (h : recordOutbound (prepareInvoice lib.toPaymentLibrary invoice amtMsat now) s.stores =
      .error exit stores) :
    sendInvoice lib invoice amtMsat now s = .error exit { s with stores := stores } := by
  rw [sendInvoice, bind_of_error (zoom_of_error h)]

/-- The amount named is the amount to pay. -/
theorem namesAmountPaid_iff {amt : Nat}
    (h : (if invoice.isZeroAmount then amtMsat else invoice.amountMilliSatoshis) = some amt) :
    NamesAmountPaid invoice amtMsat ↔ invoice.amountMilliSatoshis = some amt := by
  cases hz : invoice.isZeroAmount with
  | true =>
    have hzero : invoice.amountMilliSatoshis = none ∨ invoice.amountMilliSatoshis = some 0 := by
      simpa [Bolt11Invoice.isZeroAmount] using hz
    rw [hz, if_pos rfl] at h
    obtain hnone | hzero := hzero
    · simp [NamesAmountPaid, hnone]
    · simp [NamesAmountPaid, hzero, h, eq_comm]
  | false =>
    have hzero : invoice.amountMilliSatoshis ≠ some 0 := by
      intro hzero
      simp [Bolt11Invoice.isZeroAmount, hzero] at hz
    rw [hz, if_neg Bool.false_ne_true] at h
    refine iff_of_true ⟨amt, h, fun h0 => ?_⟩ h
    rw [h0] at h
    exact absurd h hzero

/-- A request is refused, or it answers and records what it pays exactly when the
invoice names the amount that is paid. -/
theorem paysAsRecorded_iff (hdoc : lib.Documented) :
    PaysAsRecorded lib invoice amtMsat now s ↔
      ((∃ payment stores,
        recordOutbound (prepareInvoice lib.toPaymentLibrary invoice amtMsat now) s.stores =
          .ok payment stores) → NamesAmountPaid invoice amtMsat) := by
  cases hr : recordOutbound (prepareInvoice lib.toPaymentLibrary invoice amtMsat now) s.stores with
  | error exit stores =>
    have hsend := sendInvoice_of_refused hr
    refine iff_of_true ⟨fun e t he => ?_, fun paymentId amt hsent => ?_⟩ (by simp)
    · rw [hsend] at he
      obtain ⟨rfl, -⟩ := EStateM.Result.error.inj he
      exact stopsOnly_recordOutbound s.stores _ _ hr
    · rw [after_of_error hsend] at hsent
      simp at hsent
  | ok payment stores =>
    obtain ⟨s', hsend, hs', hl⟩ := sendInvoice_of_recorded hr
    obtain ⟨hrecord, hamount⟩ := prepareInvoice_of_ok hdoc (recordOutbound_eq_ok_iff.mp hr).1
    rw [namesAmountPaid_iff hamount]
    obtain ⟨hsent, info, hinfo, hamt⟩ := after_handOver lib invoice
      (lib.finalValueMsat invoice (invoice.namedAmount amtMsat)) now hl
    have hafter : after (sendInvoice lib invoice amtMsat now) s =
        after (handOver lib invoice payment.paymentId
          (lib.finalValueMsat invoice (invoice.namedAmount amtMsat)) now) s' := by
      rw [after, hsend, after]
    rw [← hafter] at hsent hinfo
    rw [hs'] at hsent
    constructor
    · intro h _
      obtain ⟨info', hinfo', hamt'⟩ := h.recorded _ _ hsent
      rw [← hrecord, ← hamt, Option.some.inj (hinfo.symm.trans hinfo'), hamt']
    · intro h
      have hnames := h ⟨payment, stores, rfl⟩
      refine ⟨fun e t he => ?_, fun paymentId amt hsent' => ?_⟩
      · rw [hsend] at he
        exact (stopsOnly_handOver_iff hl).mpr (fun _ => by rw [hnames]; rfl) e t he
      · obtain ⟨rfl, rfl⟩ : payment.paymentId = paymentId ∧ _ = amt := by
          simpa using hsent.symm.trans hsent'
        exact ⟨info, hinfo, by rw [hamt, hrecord, hnames]⟩

/-- A library that takes every payment. -/
def invoiceLibrary : InvoiceLibrary ℕ where
  offerFromStr _ := none
  bolt11FromStr _ := .error "ParseError"
  paymentParameters invoice named :=
    if named.isSome then invoice.amountMilliSatoshis.isNone else invoice.amountMilliSatoshis.isSome
  publicKeyFromSlice _ := none
  sha256 bytes := bytes
  finalValueMsat invoice named := (named.or invoice.amountMilliSatoshis).getD 0
  writeRgbPaymentInfoFile _ _ _ _ _ dir := dir
  sendPayment _ _ _ := true

theorem invoiceLibrary_documented : invoiceLibrary.Documented := by
  constructor
  · intro invoice h
    obtain ⟨amt, hamt⟩ := Option.isSome_iff_exists.mp h
    simp [invoiceLibrary, hamt]
  · intro invoice amt h
    rfl

/-- An invoice over this amount, or one that leaves it open. -/
def plainInvoice (amountMilliSatoshis : Option Nat) : Bolt11Invoice ℕ where
  paymentHash := ⟨Vector.replicate 32 1⟩
  paymentSecret := ⟨Vector.replicate 32 2⟩
  amountMilliSatoshis := amountMilliSatoshis
  rgbContractId := none
  rgbAmount := none
  payeePubKey := ⟨Vector.replicate 33 3⟩

def freshPayer : InvoicePayer ℕ where
  stores := Stores.load ∅
  ldkDataDir := ⟨∅, ∅, []⟩

theorem paysAsRecorded_of_amount :
    PaysAsRecorded invoiceLibrary (plainInvoice (some 5000)) none 100 freshPayer :=
  (paysAsRecorded_iff invoiceLibrary_documented).mpr fun _ => ⟨5000, rfl, by decide⟩

/-- 5000 msat are paid for an open invoice: they are handed over, the record has no
amount, and the request panics. -/
theorem open_invoice_panics :
    (outcome (sendInvoice invoiceLibrary (plainInvoice none) (some 5000) 100) freshPayer).1 =
        .error (.panic none unwrapNone) ∧
      (after (sendInvoice invoiceLibrary (plainInvoice none) (some 5000) 100) freshPayer).sent =
        [(⟨Vector.replicate 32 1⟩, 5000)] ∧
      ((after (sendInvoice invoiceLibrary (plainInvoice none) (some 5000) 100)
        freshPayer).stores.outboundPayments.lookup ⟨Vector.replicate 32 1⟩).map PaymentInfo.amtMsat =
          some none ∧
      ¬PaysAsRecorded invoiceLibrary (plainInvoice none) (some 5000) 100 freshPayer := by
  refine ⟨by decide +kernel, by decide +kernel, by decide +kernel, fun h => ?_⟩
  exact h.answers (.panic none unwrapNone) _ rfl

end InvoicePayer

end RgbLightningNode
