import RgbLightningNode.Lib.Mealy
import RgbLightningNode.Routes.LnInvoice
import RgbLightningNode.Events.Payments

/-!
# The records of inbound payments

Invoices are issued and payments are claimed in any order. A claim sets the status
of the record of its hash, and the amount only where there was no record before.
-/

namespace RgbLightningNode

open Fallible

variable {ContractId : Type}

/-- What is known of the claim that completed a record. -/
structure Completion where
  amountMsat : Nat
  /-- The creation time of the record that was there before. -/
  createdBefore : Option Nat

/-- The record shows what was received. -/
structure PaymentInfo.Shows (info : PaymentInfo) (completion : Completion) : Prop where
  amtMsat : info.amtMsat = some completion.amountMsat
  createdAt : ∀ created ∈ completion.createdBefore, info.createdAt = created

/-- Every record that has succeeded shows what was received. -/
def ShowsReceived (payments : HashMap PaymentHash PaymentInfo)
    (completions : HashMap PaymentHash Completion) : Prop :=
  ∀ paymentHash info, payments.lookup paymentHash = some info → info.status = .succeeded →
    ∃ completion, completions.lookup paymentHash = some completion ∧ info.Shows completion

/-- A node, and the claims that completed its records. -/
structure ReceivingNode (ContractId : Type) where
  node : Node ContractId
  completions : HashMap PaymentHash Completion

inductive InboundInput (ContractId : Type) where
  | lnInvoice (issuer : InvoiceIssuer ContractId) (network : BitcoinNetwork)
      (ourNodeId : PublicKey) (now : Nat) (req : LNInvoiceRequest)
  | paymentClaimed (paymentHash : PaymentHash) (purpose : PaymentPurpose) (amountMsat : Nat)
      (receiverNodeId : Option PublicKey) (now : Nat)

/-- The payment of a hash has been received. -/
def Stores.isReceived (paymentHash : PaymentHash) (s : Stores ContractId) : Bool :=
  (s.inboundPayments.lookup paymentHash).any fun info => decide (info.status = .succeeded)

namespace ReceivingNode

/-- The payment is claimed, and what the node has received by it is noted as completed. -/
def claim (paymentHash : PaymentHash) (amountMsat : Nat) (node : Node ContractId)
    (s : ReceivingNode ContractId) : ReceivingNode ContractId where
  node := node
  completions :=
    if s.node.stores.isReceived paymentHash = false ∧ node.stores.isReceived paymentHash = true then
      s.completions.insert paymentHash ⟨amountMsat,
        (s.node.stores.inboundPayments.lookup paymentHash).map PaymentInfo.createdAt⟩
    else s.completions

def step [ContractIdText ContractId] (s : ReceivingNode ContractId) :
    InboundInput ContractId → Unit × ReceivingNode ContractId
  | .lnInvoice issuer network ourNodeId now req =>
    ((), { s with node := { s.node with
      stores := after (LNInvoiceRequest.lnInvoice issuer network ourNodeId now req)
        s.node.stores } })
  | .paymentClaimed paymentHash purpose amountMsat receiverNodeId now =>
    ((), s.claim paymentHash amountMsat (after (PaymentEvent.handle now
      (.paymentClaimed paymentHash purpose amountMsat receiverNodeId)) s.node))

def Accurate (s : ReceivingNode ContractId) : Prop :=
  ShowsReceived s.node.stores.inboundPayments s.completions

end ReceivingNode

/-! ### One record -/

section Records

variable {payments : HashMap PaymentHash PaymentInfo}
  {completions : HashMap PaymentHash Completion} {paymentHash : PaymentHash} {info : PaymentInfo}
  {completion : Completion}

/-- Every completion is shown after an insertion of a record that shows its own. -/
theorem ShowsReceived.insert (h : ShowsReceived payments completions)
    (hinfo : info.status = .succeeded →
      ∃ completion, completions.lookup paymentHash = some completion ∧ info.Shows completion) :
    ShowsReceived (payments.insert paymentHash info) completions := by
  intro other found hlookup hsucceeded
  by_cases hother : other = paymentHash
  · subst hother
    rw [Finmap.lookup_insert, Option.some_inj] at hlookup
    subst hlookup
    exact hinfo hsucceeded
  · rw [Finmap.lookup_insert_of_ne _ hother] at hlookup
    exact h other found hlookup hsucceeded

/-- A record that has not succeeded has nothing to show. -/
theorem ShowsReceived.insert_of_ne (h : ShowsReceived payments completions)
    (hstatus : info.status ≠ .succeeded) :
    ShowsReceived (payments.insert paymentHash info) completions :=
  h.insert fun hsucceeded => absurd hsucceeded hstatus

/-- A record that has succeeded before shows the same after an insertion under its key. -/
theorem ShowsReceived.insert_of_received {old : PaymentInfo}
    (h : ShowsReceived payments completions) (hold : payments.lookup paymentHash = some old)
    (hreceived : old.status = .succeeded) (hamt : info.amtMsat = old.amtMsat)
    (hcreated : info.createdAt = old.createdAt) :
    ShowsReceived (payments.insert paymentHash info) completions := by
  refine h.insert fun _ => ?_
  obtain ⟨completion, hcompletion, hshows⟩ := h paymentHash old hold hreceived
  exact ⟨completion, hcompletion, hamt.trans hshows.amtMsat,
    fun created hmem => hcreated.trans (hshows.createdAt created hmem)⟩

/-- A record that is completed has to show what completed it. -/
theorem ShowsReceived.insert_iff (h : ShowsReceived payments completions)
    (hstatus : info.status = .succeeded) :
    ShowsReceived (payments.insert paymentHash info) (completions.insert paymentHash completion) ↔
      info.Shows completion := by
  constructor
  · intro hall
    obtain ⟨found, hfound, hshows⟩ := hall paymentHash info (Finmap.lookup_insert _) hstatus
    rw [Finmap.lookup_insert, Option.some_inj] at hfound
    exact hfound ▸ hshows
  · intro hshows other found hlookup hsucceeded
    by_cases hother : other = paymentHash
    · subst hother
      rw [Finmap.lookup_insert, Option.some_inj] at hlookup
      exact ⟨completion, Finmap.lookup_insert _, hlookup ▸ hshows⟩
    · rw [Finmap.lookup_insert_of_ne _ hother] at hlookup ⊢
      exact h other found hlookup hsucceeded

end Records

/-! ### What is written -/

namespace Stores

variable {s : Stores ContractId} {paymentHash : PaymentHash}

theorem inboundPayments_upsertInboundPayment (status : HTLCStatus)
    (preimage : Option PaymentPreimage) (secret : Option PaymentSecret) (amtMsat : Option Nat)
    (payeePubkey : PublicKey) (now : Nat) :
    (s.upsertInboundPayment paymentHash status preimage secret amtMsat payeePubkey
        now).inboundPayments =
      s.inboundPayments.insert paymentHash
        (match s.inboundPayments.lookup paymentHash with
        | some old =>
          { old with status := status, preimage := preimage, secret := secret, updatedAt := now }
        | none => ⟨preimage, secret, status, amtMsat, now, now, payeePubkey⟩) := by
  unfold upsertInboundPayment
  cases s.inboundPayments.lookup paymentHash <;> rfl

end Stores

namespace PaymentEvent

/-- A claim reaches the record of its hash: the channel file of its amounts is there, the
hash is that of no maker swap, and the receiver is known. -/
structure ReachesRecord (n : Node ContractId) (paymentHash : PaymentHash)
    (receiverNodeId : Option PublicKey) : Prop where
  moves : ∃ moves, (paymentMoves paymentHash true n.ldkDataDir.entries :
      Except (Exit ReplayEvent) _) = .ok moves ∧
    ∀ move ∈ moves, (n.ldkDataDir.channelInfo.lookup move.channelId).isSome
  notSwap : n.stores.isMakerSwap paymentHash = false
  receiver : receiverNodeId.isSome = true

theorem exists_updateAmounts_paymentClaimed_iff (paymentHash : PaymentHash)
    (purpose : PaymentPurpose) (amountMsat : Nat) (receiverNodeId : Option PublicKey)
    (dir : LdkDataDir ContractId) :
    (∃ dir', (paymentClaimed paymentHash purpose amountMsat receiverNodeId).updateAmounts dir =
        .ok () dir') ↔
      ∃ moves, (paymentMoves paymentHash true dir.entries : Except (Exit ReplayEvent) _) =
          .ok moves ∧ ∀ move ∈ moves, (dir.channelInfo.lookup move.channelId).isSome := by
  simp only [updateAmounts_eq_ok_iff, rgbMoves]
  rw [exists_comm]
  simp only [exists_and_left, exists_applyMoves_iff]

/-- A maker swap that is claimed leaves the records of payments unchanged. -/
theorem inboundPayments_after_updateMakerSwapStatus (paymentHash : PaymentHash) (now : Nat)
    (s : Stores ContractId) :
    (after (Stores.updateMakerSwapStatus paymentHash .succeeded now :
      Fallible (Exit ReplayEvent) _ Unit) s).inboundPayments = s.inboundPayments := by
  rw [Stores.updateMakerSwapStatus, after_bind_of_ok (get_apply s)]
  cases (updateSwapStatus .makerSwaps s.makerSwaps paymentHash .succeeded now :
    Except (Exit ReplayEvent) _) <;> rfl

/-- A claim either upserts the record of its hash or leaves the records unchanged. -/
theorem inboundPayments_after_paymentClaimed (n : Node ContractId) (paymentHash : PaymentHash)
    (purpose : PaymentPurpose) (amountMsat now : Nat) (receiverNodeId : Option PublicKey) :
    (∃ receiver, ReachesRecord n paymentHash receiverNodeId ∧
      (after ((paymentClaimed paymentHash purpose amountMsat receiverNodeId).handle now)
          n).stores.inboundPayments =
        (n.stores.upsertInboundPayment paymentHash .succeeded purpose.keys.1 purpose.keys.2
          (some amountMsat) receiver now).inboundPayments) ∨
    (¬ReachesRecord n paymentHash receiverNodeId ∧
      (after ((paymentClaimed paymentHash purpose amountMsat receiverNodeId).handle now)
          n).stores.inboundPayments = n.stores.inboundPayments) := by
  cases hd : (paymentClaimed paymentHash purpose amountMsat receiverNodeId).updateAmounts
      n.ldkDataDir with
  | error e dir =>
    refine .inr ⟨fun h => ?_, ?_⟩
    · obtain ⟨dir', hdir'⟩ := (exists_updateAmounts_paymentClaimed_iff paymentHash purpose
        amountMsat receiverNodeId n.ldkDataDir).mpr h.moves
      rw [hd] at hdir'
      cases hdir'
    · have hdir : Node.onLdkDataDir (paymentClaimed paymentHash purpose amountMsat
          receiverNodeId).updateAmounts n = .error e { n with ldkDataDir := dir } :=
        zoom_of_error hd
      rw [handle, after_bind_of_error hdir]
  | ok u dir =>
    have hdir : Node.onLdkDataDir (paymentClaimed paymentHash purpose amountMsat
        receiverNodeId).updateAmounts n = .ok u { n with ldkDataDir := dir } :=
      zoom_of_ok hd
    rw [handle, after_bind_of_ok hdir, Node.onStores, after_zoom]
    have hmoves := (exists_updateAmounts_paymentClaimed_iff _ _ _ _ _).mp ⟨dir, hd⟩
    dsimp only
    rw [recordOutcome, after_bind_of_ok (get_apply _)]
    by_cases hswap : n.stores.isMakerSwap paymentHash = true
    · rw [if_pos hswap]
      exact .inr ⟨fun h => by simp [h.notSwap] at hswap,
        inboundPayments_after_updateMakerSwapStatus paymentHash now n.stores⟩
    rw [if_neg hswap]
    cases receiverNodeId with
    | none =>
      rw [after_bind_of_error (expect_none _ _)]
      exact .inr ⟨fun h => absurd h.receiver (by decide), rfl⟩
    | some receiver =>
      rw [after_bind_of_ok (expect_some receiver _ _)]
      exact .inl ⟨receiver, ⟨hmoves, Bool.eq_false_iff.mpr hswap, rfl⟩, rfl⟩

end PaymentEvent

/-- An invoice that is issued starts its record anew. -/
theorem LNInvoiceRequest.inboundPayments_after_lnInvoice [ContractIdText ContractId]
    (issuer : InvoiceIssuer ContractId) (network : BitcoinNetwork) (ourNodeId : PublicKey)
    (now : Nat) (req : LNInvoiceRequest) (s : Stores ContractId) :
    (∃ (invoice : Bolt11Invoice ContractId) (info : PaymentInfo), info.status = .pending ∧
      (after (lnInvoice issuer network ourNodeId now req) s).inboundPayments =
        s.inboundPayments.insert invoice.paymentHash info) ∨
    (after (lnInvoice issuer network ourNodeId now req) s).inboundPayments =
      s.inboundPayments := by
  unfold lnInvoice
  cases hterms : (req.terms network : Except APIError (InvoiceTerms ContractId)) with
  | error e => exact .inr rfl
  | ok terms =>
    rw [after_bind_of_ok (attempt_ok _ s)]
    cases hinvoice : issuer.createInvoice terms with
    | error e => exact .inr rfl
    | ok invoice => exact .inl ⟨invoice, _, rfl, rfl⟩

/-! ### One step -/

namespace ReceivingNode

variable {s : ReceivingNode ContractId}

/-- A claim that completes a record is for the amount in the record. -/
def Fits (s : ReceivingNode ContractId) : InboundInput ContractId → Prop
  | .lnInvoice .. => True
  | .paymentClaimed paymentHash _ amountMsat receiverNodeId _ =>
    PaymentEvent.ReachesRecord s.node paymentHash receiverNodeId →
      ∀ info ∈ s.node.stores.inboundPayments.lookup paymentHash, info.status ≠ .succeeded →
        info.amtMsat = some amountMsat

theorem completions_claim_of_received {paymentHash : PaymentHash} {amountMsat : Nat}
    {node : Node ContractId} (h : s.node.stores.isReceived paymentHash = true) :
    (s.claim paymentHash amountMsat node).completions = s.completions :=
  if_neg fun hnew => absurd (hnew.1.symm.trans h) (by decide)

theorem completions_claim_of_same {paymentHash : PaymentHash} {amountMsat : Nat}
    {node : Node ContractId}
    (h : node.stores.inboundPayments = s.node.stores.inboundPayments) :
    (s.claim paymentHash amountMsat node).completions = s.completions := by
  have hreceived : node.stores.isReceived paymentHash = s.node.stores.isReceived paymentHash := by
    rw [Stores.isReceived, h]
    rfl
  refine if_neg fun hnew => ?_
  rw [hreceived] at hnew
  exact absurd (hnew.1.symm.trans hnew.2) (by decide)

/-- The records show what was received after a claim if and only if one that it
completes has the amount that is claimed. -/
theorem accurate_claim_iff (hs : s.Accurate) {paymentHash : PaymentHash}
    {preimage : Option PaymentPreimage} {secret : Option PaymentSecret} {amountMsat now : Nat}
    {receiver : PublicKey} {node : Node ContractId}
    (h : node.stores.inboundPayments =
      (s.node.stores.upsertInboundPayment paymentHash .succeeded preimage secret
        (some amountMsat) receiver now).inboundPayments) :
    (s.claim paymentHash amountMsat node).Accurate ↔
      ∀ info ∈ s.node.stores.inboundPayments.lookup paymentHash, info.status ≠ .succeeded →
        info.amtMsat = some amountMsat := by
  rw [Stores.inboundPayments_upsertInboundPayment] at h
  have hreceived : node.stores.isReceived paymentHash = true := by
    rw [Stores.isReceived, h, Finmap.lookup_insert]
    cases s.node.stores.inboundPayments.lookup paymentHash <;> rfl
  -- a record that had not succeeded is completed by the claim
  have hcompletes : s.node.stores.isReceived paymentHash = false →
      (s.claim paymentHash amountMsat node).completions = s.completions.insert paymentHash
        ⟨amountMsat, (s.node.stores.inboundPayments.lookup paymentHash).map
          PaymentInfo.createdAt⟩ :=
    fun hnot => if_pos ⟨hnot, hreceived⟩
  change ShowsReceived node.stores.inboundPayments _ ↔ _
  cases hold : s.node.stores.inboundPayments.lookup paymentHash with
  | none =>
    rw [hold] at h
    rw [h, hcompletes (by rw [Stores.isReceived, hold]; rfl), hold, hs.insert_iff rfl]
    exact iff_of_true ⟨rfl, fun created hmem => by cases hmem⟩ fun info hmem => by cases hmem
  | some old =>
    rw [hold] at h
    have hiff : (∀ info ∈ some old, info.status ≠ .succeeded → info.amtMsat = some amountMsat) ↔
        (old.status ≠ .succeeded → old.amtMsat = some amountMsat) :=
      ⟨fun hall => hall old rfl, fun hone info hmem => Option.mem_some_iff.mp hmem ▸ hone⟩
    rw [h, hiff]
    by_cases hstatus : old.status = .succeeded
    · rw [completions_claim_of_received
        (by rw [Stores.isReceived, hold]; exact decide_eq_true hstatus)]
      exact iff_of_true (hs.insert_of_received hold hstatus rfl rfl) fun hne => absurd hstatus hne
    · rw [hcompletes (by rw [Stores.isReceived, hold]; exact decide_eq_false hstatus), hold,
        hs.insert_iff rfl]
      constructor
      · intro hshows _
        exact hshows.amtMsat
      · intro hamt
        exact ⟨hamt hstatus, fun created hmem => Option.mem_some_iff.mp hmem⟩

/-- After one step the records show what was received if and only if the step fits. -/
theorem accurate_step_iff [ContractIdText ContractId] (hs : s.Accurate)
    (input : InboundInput ContractId) : (step s input).2.Accurate ↔ s.Fits input := by
  cases input with
  | lnInvoice issuer network ourNodeId now req =>
    refine iff_of_true ?_ trivial
    change ShowsReceived (after (LNInvoiceRequest.lnInvoice issuer network ourNodeId now req)
      s.node.stores).inboundPayments s.completions
    obtain ⟨invoice, info, hpending, h⟩ | h :=
      LNInvoiceRequest.inboundPayments_after_lnInvoice issuer network ourNodeId now req
        s.node.stores
    · rw [h]
      exact hs.insert_of_ne (by simp [hpending])
    · rw [h]
      exact hs
  | paymentClaimed paymentHash purpose amountMsat receiverNodeId now =>
    obtain ⟨receiver, hreaches, h⟩ | ⟨hnot, h⟩ :=
      PaymentEvent.inboundPayments_after_paymentClaimed s.node paymentHash purpose amountMsat now
        receiverNodeId
    · exact (accurate_claim_iff hs h).trans ⟨fun hfits _ => hfits, fun hfits => hfits hreaches⟩
    · refine iff_of_true ?_ fun hreaches => absurd hreaches hnot
      change ShowsReceived _ (s.claim _ _ _).completions
      rw [completions_claim_of_same h]
      exact h ▸ hs

/-! ### Runs -/

/-- After every step the records show what was received, and when they were created, if
and only if every claim that completes a record is for the amount in it. -/
theorem accurate_iff [ContractIdText ContractId] (hs : s.Accurate)
    (inputs : List (InboundInput ContractId)) :
    Mealy.Along step (fun s input => (step s input).2.Accurate) s inputs ↔
      Mealy.Along step Fits s inputs :=
  Mealy.along_iff_of_invariant (fun _ input hs => accurate_step_iff hs input)
    (fun _ input hs hfits => (accurate_step_iff hs input).mpr hfits) hs

/-- A node that has received nothing. -/
def fresh : ReceivingNode ℕ :=
  ⟨⟨Stores.load ∅, ⟨∅, ∅, []⟩, [], [], []⟩, ∅⟩

theorem accurate_fresh : fresh.Accurate := by
  intro paymentHash info hlookup _
  change (∅ : HashMap PaymentHash PaymentInfo).lookup paymentHash = some info at hlookup
  rw [Finmap.lookup_empty] at hlookup
  cases hlookup

/-- An invoice that is issued, and a claim of its hash. -/
def invoicePaid (amtMsat : Option Nat) (amountMsat : Nat) : List (InboundInput ℕ) :=
  [.lnInvoice (LNInvoiceRequest.issuerOf (LNInvoiceRequest.invoiceFor amtMsat none none)) .regtest
      ⟨Vector.replicate 33 3⟩ 10 ⟨amtMsat, 900, none, none⟩,
    .paymentClaimed ⟨Vector.replicate 32 1⟩
      (.bolt11InvoicePayment (some ⟨Vector.replicate 32 4⟩) ⟨Vector.replicate 32 2⟩) amountMsat
      (some ⟨Vector.replicate 33 3⟩) 20]

theorem accurate_iff_invoicePaid :
    Mealy.Along step (fun s input => (step s input).2.Accurate) fresh
        (invoicePaid (some 3000000) 3000000) ↔
      Mealy.Along step Fits fresh (invoicePaid (some 3000000) 3000000) :=
  accurate_iff accurate_fresh _

/-- An invoice of no amount succeeds without one. -/
theorem amount_not_recorded :
    ¬Mealy.Along step (fun s input => (step s input).2.Accurate) fresh
      (invoicePaid none 5000) := by
  rintro ⟨hissued, hpaid, -⟩
  have hfits := (accurate_step_iff hissued _).mp hpaid ⟨⟨[], rfl, by simp⟩, rfl, rfl⟩
  have hamt := hfits _ (Finmap.lookup_insert _) (by decide)
  exact absurd hamt (by decide)

end ReceivingNode

end RgbLightningNode
