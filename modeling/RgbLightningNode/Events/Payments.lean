import RgbLightningNode.RgbAmounts
import RgbLightningNode.Node

/-!
# Payment events

A claimed, a sent or a forwarded payment moves RGB amounts in the channel info
files and records its outcome in the stores. The outcome is overwritten when
the event comes again; the amounts are moved again.
-/

namespace RgbLightningNode

open Fallible Node

inductive PaymentPurpose where
  | bolt11InvoicePayment (preimage : Option PaymentPreimage) (secret : PaymentSecret)
  | bolt12OfferPayment (preimage : Option PaymentPreimage) (secret : PaymentSecret)
  | bolt12RefundPayment (preimage : Option PaymentPreimage) (secret : PaymentSecret)
  | spontaneousPayment (preimage : PaymentPreimage)

/-- The preimage and the secret a purpose comes with. -/
def PaymentPurpose.keys : PaymentPurpose → Option PaymentPreimage × Option PaymentSecret
  | bolt11InvoicePayment preimage secret => (preimage, some secret)
  | bolt12OfferPayment preimage secret => (preimage, some secret)
  | bolt12RefundPayment preimage secret => (preimage, some secret)
  | spontaneousPayment preimage => (some preimage, none)

inductive PaymentEvent where
  | paymentClaimed (paymentHash : PaymentHash) (purpose : PaymentPurpose) (amountMsat : Nat)
      (receiverNodeId : Option PublicKey)
  | paymentSent (paymentPreimage : PaymentPreimage) (paymentHash : PaymentHash)
      (paymentId : Option PaymentId)
  | paymentForwarded (prevChannelId nextChannelId : Option ChannelId)
      (outboundAmountForwardedRgb inboundAmountForwardedRgb : Option UInt64)
      (paymentHash : PaymentHash)

/-- Move the amount of a settled payment. -/
def updateRgbChannelAmount {ContractId : Type} (paymentHash : PaymentHash) (receiver : Bool) :
    Fallible (Exit ReplayEvent) (LdkDataDir ContractId) Unit := do
  let dir ← get
  let moves ← attempt (paymentMoves paymentHash receiver dir.entries)
  applyMoves moves

/-- The moves of a payment that is forwarded from one channel to another. -/
def forwardedMoves (prevChannelId nextChannelId : Option ChannelId)
    (outboundRgb inboundRgb : Option UInt64) : Except (Exit ReplayEvent) (List RgbMove) := do
  let prevChannelId ← orPanic prevChannelId "prev_channel_id"
  let nextChannelId ← orPanic nextChannelId "next_channel_id"
  return (outboundRgb.toList.map fun amount => ⟨nextChannelId.hex, amount, 0⟩) ++
    inboundRgb.toList.map fun amount => ⟨prevChannelId.hex, 0, amount⟩

namespace PaymentEvent

variable {ContractId : Type}

/-- A claimed payment is received, and a sent one is not. -/
def updateAmounts : PaymentEvent → Fallible (Exit ReplayEvent) (LdkDataDir ContractId) Unit
  | paymentClaimed paymentHash _ _ _ => updateRgbChannelAmount paymentHash true
  | paymentSent _ paymentHash _ => updateRgbChannelAmount paymentHash false
  | paymentForwarded prevChannelId nextChannelId outboundRgb inboundRgb _ => do
    let moves ← attempt (forwardedMoves prevChannelId nextChannelId outboundRgb inboundRgb)
    applyMoves moves

/-- Record the outcome of the payment in the stores. -/
def recordOutcome (now : Nat) : PaymentEvent → Fallible (Exit ReplayEvent) (Stores ContractId) Unit
  | paymentClaimed paymentHash purpose amountMsat receiverNodeId => do
    let s ← get
    if s.isMakerSwap paymentHash then
      Stores.updateMakerSwapStatus paymentHash .succeeded now
    else do
      let receiver ← expect receiverNodeId (.panic none unwrapNone)
      modify (Stores.upsertInboundPayment paymentHash .succeeded purpose.keys.1 purpose.keys.2
        (some amountMsat) receiver now)
  | paymentSent paymentPreimage paymentHash paymentId => do
    let s ← get
    if s.isMakerSwap paymentHash then
      Stores.updateMakerSwapStatus paymentHash .succeeded now
    else do
      let paymentId ← expect paymentId (.panic none unwrapNone)
      discard (Stores.updateOutboundPayment paymentId .succeeded (some paymentPreimage) now)
  | paymentForwarded _ _ _ _ paymentHash => do
    let s ← get
    if s.isTakerSwap paymentHash then
      Stores.updateTakerSwapStatus paymentHash .succeeded now

def handle (now : Nat) (ev : PaymentEvent) :
    Fallible (Exit ReplayEvent) (Node ContractId) Unit := do
  onLdkDataDir ev.updateAmounts
  onStores (ev.recordOutcome now)

/-- Record that a payment has failed. It moves no amounts; without a hash it is
an offer whose invoice never came. -/
def paymentFailed (now : Nat) (paymentHash : Option PaymentHash) (paymentId : PaymentId) :
    Fallible (Exit ReplayEvent) (Stores ContractId) Unit := do
  let s ← get
  match paymentHash with
  | some hash =>
    if s.isMakerSwap hash then Stores.updateMakerSwapStatus hash .failed now
    else Stores.updateOutboundPaymentStatus paymentId .failed now
  | none => Stores.updateOutboundPaymentStatus paymentId .failed now

/-! ### The amounts -/

/-- The moves an event makes in the channel info files. -/
def rgbMoves (entries : List DirEntry) : PaymentEvent → Except (Exit ReplayEvent) (List RgbMove)
  | paymentClaimed paymentHash _ _ _ => paymentMoves paymentHash true entries
  | paymentSent _ paymentHash _ => paymentMoves paymentHash false entries
  | paymentForwarded prevChannelId nextChannelId outboundRgb inboundRgb _ =>
    forwardedMoves prevChannelId nextChannelId outboundRgb inboundRgb

/-- On every channel the event moves as much out as in. -/
def MovesNothing (ev : PaymentEvent) (dir : LdkDataDir ContractId) : Prop :=
  ∀ moves, ev.rgbMoves dir.entries = .ok moves →
    ∀ channelId, offeredOn channelId moves = receivedOn channelId moves

variable {ev : PaymentEvent} {dir dir' : LdkDataDir ContractId}

theorem updateAmounts_eq_ok_iff : ev.updateAmounts dir = .ok () dir' ↔
    ∃ moves, ev.rgbMoves dir.entries = .ok moves ∧
      (applyMoves moves : Fallible (Exit ReplayEvent) _ Unit) dir = .ok () dir' := by
  have hread : (ev.updateAmounts : Fallible (Exit ReplayEvent) (LdkDataDir ContractId) Unit) dir =
      (attempt (ev.rgbMoves dir.entries) >>= applyMoves) dir := by
    cases ev <;> rfl
  rw [hread, bind_apply]
  rcases ev.rgbMoves dir.entries with exit | moves <;> simp

/-- After one round of moves a second one goes through, and keeps the amounts
of all channels exactly when the event moves nothing. -/
theorem updateAmounts_again {dir₁ : LdkDataDir ContractId}
    (h : ev.updateAmounts dir = .ok () dir₁) :
    ∃ dir₂, ev.updateAmounts dir₁ = .ok () dir₂ ∧
      ((∀ channelId, dir₂.amounts channelId = dir₁.amounts channelId) ↔ ev.MovesNothing dir) := by
  obtain ⟨moves, hmoves, happly⟩ := updateAmounts_eq_ok_iff.mp h
  obtain ⟨hentries, hinfo⟩ := applyMoves_of_ok happly
  have hnamed := exists_applyMoves_iff.mp ⟨dir₁, happly⟩
  -- the same moves again: the files they name are still there
  obtain ⟨dir₂, happly₂⟩ : ∃ dir₂, applyMoves moves dir₁ = .ok () dir₂ :=
    exists_applyMoves_iff.mpr fun move hm => by
      rw [hinfo, Option.isSome_map]
      exact hnamed move hm
  obtain ⟨-, hinfo₂⟩ := applyMoves_of_ok happly₂
  refine ⟨dir₂, updateAmounts_eq_ok_iff.mpr ⟨moves, hentries ▸ hmoves, happly₂⟩, ?_⟩
  have hchannel : ∀ channelId, dir₂.amounts channelId = dir₁.amounts channelId ↔
      offeredOn channelId moves = receivedOn channelId moves := by
    intro channelId
    rcases hl : dir.channelInfo.lookup channelId with _ | rgbInfo
    · have hun : ∀ move ∈ moves, move.channelId ≠ channelId := by
        rintro move hm rfl
        simpa [hl] using hnamed move hm
      simp [LdkDataDir.amounts, hinfo₂, hinfo, hl, offeredOn_eq_receivedOn_of_unnamed hun]
    · simp [LdkDataDir.amounts, hinfo₂, hinfo, hl, RgbInfo.amounts_transfer_eq_iff]
  simp only [hchannel, MovesNothing, hmoves, Except.ok.injEq, forall_eq']

theorem handle_eq_ok_iff {now : Nat} {n n' : Node ContractId} :
    ev.handle now n = .ok () n' ↔ ∃ dir s, ev.updateAmounts n.ldkDataDir = .ok () dir ∧
      ev.recordOutcome now n.stores = .ok () s ∧
      n' = { n with ldkDataDir := dir, stores := s } := by
  simp only [handle, unit_bind_eq_ok_iff, onLdkDataDir, onStores, zoom_eq_ok_iff]
  constructor
  · rintro ⟨-, ⟨dir, hd, rfl⟩, s, hs, rfl⟩
    exact ⟨dir, s, hd, hs, rfl⟩
  · rintro ⟨dir, s, hd, hs, rfl⟩
    exact ⟨_, ⟨dir, hd, rfl⟩, s, hs, rfl⟩

end PaymentEvent

end RgbLightningNode
