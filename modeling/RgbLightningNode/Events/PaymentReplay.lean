import RgbLightningNode.Events.Payments

/-!
# Payment events that are delivered twice

The record of the outcome is the same after a second delivery, up to
timestamps. The RGB amounts are the same only when the event moves none.
-/

namespace RgbLightningNode

open Fallible Node

variable {ContractId : Type}

def PaymentInfo.eraseUpdatedAt (info : PaymentInfo) : PaymentInfo := { info with updatedAt := 0 }

def SwapData.eraseCompletedAt (swap : SwapData ContractId) : SwapData ContractId :=
  { swap with completedAt := none }

/-- Two maps hold the same under every key, once `erase` has been applied. -/
def SameUpTo {K V : Type} [DecidableEq K] (erase : V → V) (m m' : HashMap K V) : Prop :=
  ∀ key, (m'.lookup key).map erase = (m.lookup key).map erase

theorem SameUpTo.refl {K V : Type} [DecidableEq K] (erase : V → V) (m : HashMap K V) :
    SameUpTo erase m m := fun _ => rfl

theorem SameUpTo.insert {K V : Type} [DecidableEq K] {erase : V → V} {m : HashMap K V} {key : K}
    {v w : V} (hl : m.lookup key = some v) (he : erase w = erase v) :
    SameUpTo erase m (m.insert key w) := by
  intro other
  by_cases hk : other = key
  · subst hk
    simp [hl, he]
  · rw [Finmap.lookup_insert_of_ne _ hk]

namespace Stores

/-- The stores agree but for the times of the last update and of completion. -/
structure SameApartFromTimes (s s' : Stores ContractId) : Prop where
  makerSwaps : SameUpTo SwapData.eraseCompletedAt s.makerSwaps s'.makerSwaps
  takerSwaps : SameUpTo SwapData.eraseCompletedAt s.takerSwaps s'.takerSwaps
  inboundPayments : SameUpTo PaymentInfo.eraseUpdatedAt s.inboundPayments s'.inboundPayments
  outboundPayments : SameUpTo PaymentInfo.eraseUpdatedAt s.outboundPayments s'.outboundPayments

theorem SameApartFromTimes.refl (s : Stores ContractId) : SameApartFromTimes s s :=
  ⟨.refl _ _, .refl _ _, .refl _ _, .refl _ _⟩

variable {ε : Type} {s : Stores ContractId} {paymentHash : PaymentHash}

theorem makerSwap_succeeds_again (now now' : Nat) {swap : SwapData ContractId}
    (hl : s.makerSwaps.lookup paymentHash = some (swap.withStatus .succeeded now)) :
    ∃ s', (updateMakerSwapStatus paymentHash .succeeded now' : Fallible (Exit ε) _ Unit) s =
      .ok () s' ∧ SameApartFromTimes s s' :=
  ⟨_, updateMakerSwapStatus_of_lookup now' hl (by decide),
    .insert hl rfl, .refl _ _, .refl _ _, .refl _ _⟩

theorem takerSwap_succeeds_again (now now' : Nat) {swap : SwapData ContractId}
    (hl : s.takerSwaps.lookup paymentHash = some (swap.withStatus .succeeded now)) :
    ∃ s', (updateTakerSwapStatus paymentHash .succeeded now' : Fallible (Exit ε) _ Unit) s =
      .ok () s' ∧ SameApartFromTimes s s' :=
  ⟨_, updateTakerSwapStatus_of_lookup now' hl (by decide),
    .refl _ _, .insert hl rfl, .refl _ _, .refl _ _⟩

theorem outboundPayment_settles_again {paymentId : PaymentId} {info : PaymentInfo}
    {preimage : Option PaymentPreimage} (now now' : Nat)
    (hl : s.outboundPayments.lookup paymentId =
      some { info with status := .succeeded, preimage := preimage, updatedAt := now }) :
    ∃ info' s', (updateOutboundPayment paymentId .succeeded preimage now' :
      Fallible (Exit ε) _ _) s = .ok info' s' ∧ SameApartFromTimes s s' :=
  ⟨_, _, updateOutboundPayment_of_lookup .succeeded preimage now' hl,
    .refl _ _, .refl _ _, .refl _ _, .insert hl rfl⟩

/-- A payment claimed before is upserted to the same entry, but for the time. -/
theorem inboundPayment_upserts_again {preimage : Option PaymentPreimage}
    {secret : Option PaymentSecret} {info : PaymentInfo} (amtMsat : Option Nat)
    (payeePubkey : PublicKey) (now now' : Nat)
    (hl : s.inboundPayments.lookup paymentHash = some { info with
      status := .succeeded, preimage := preimage, secret := secret, updatedAt := now }) :
    SameApartFromTimes s
      (s.upsertInboundPayment paymentHash .succeeded preimage secret amtMsat payeePubkey now') := by
  rw [upsertInboundPayment, hl]
  exact ⟨.refl _ _, .refl _ _, .insert hl rfl, .refl _ _⟩

/-- What an upsert leaves under the hash. -/
theorem lookup_upsertInboundPayment (s : Stores ContractId) (paymentHash : PaymentHash)
    (preimage : Option PaymentPreimage)
    (secret : Option PaymentSecret) (amtMsat : Option Nat) (payeePubkey : PublicKey) (now : Nat) :
    ∃ info : PaymentInfo, (s.upsertInboundPayment paymentHash .succeeded preimage secret amtMsat
      payeePubkey now).inboundPayments.lookup paymentHash = some { info with
        status := .succeeded, preimage := preimage, secret := secret, updatedAt := now } := by
  rcases hl : s.inboundPayments.lookup paymentHash with _ | info
  · refine ⟨⟨preimage, secret, .succeeded, amtMsat, now, now, payeePubkey⟩, ?_⟩
    simp [upsertInboundPayment, hl, saveInboundPayments]
  · refine ⟨info, ?_⟩
    simp [upsertInboundPayment, hl, saveInboundPayments]

@[simp] theorem isMakerSwap_upsertInboundPayment (status : HTLCStatus)
    (preimage : Option PaymentPreimage) (secret : Option PaymentSecret) (amtMsat : Option Nat)
    (payeePubkey : PublicKey) (now : Nat) (s : Stores ContractId) (hash : PaymentHash) :
    (s.upsertInboundPayment paymentHash status preimage secret amtMsat payeePubkey
      now).isMakerSwap hash = s.isMakerSwap hash := by
  unfold upsertInboundPayment
  split <;> rfl

@[simp] theorem isMakerSwap_saveOutboundPayments (m : HashMap PaymentId PaymentInfo)
    (s : Stores ContractId) (hash : PaymentHash) :
    (s.saveOutboundPayments m).isMakerSwap hash = s.isMakerSwap hash := rfl

end Stores

namespace PaymentEvent

open Stores

variable {ev : PaymentEvent} {s s₁ : Stores ContractId}

/-- A maker swap that has succeeded succeeds again, whatever the event does for
a payment that is no maker swap. -/
theorem makerSwap_again {paymentHash : PaymentHash} {now : Nat} (now' : Nat)
    (h : (updateMakerSwapStatus paymentHash .succeeded now :
      Fallible (Exit ReplayEvent) _ Unit) s = .ok () s₁) :
    s₁.isMakerSwap paymentHash = true ∧
      ∃ s₂, (updateMakerSwapStatus paymentHash .succeeded now' :
        Fallible (Exit ReplayEvent) _ Unit) s₁ = .ok () s₂ ∧ SameApartFromTimes s₁ s₂ := by
  obtain ⟨swap, hl, -, rfl⟩ := updateMakerSwapStatus_eq_ok_iff.mp h
  have hl₁ : (s.saveMakerSwaps (s.makerSwaps.insert paymentHash
      (swap.withStatus .succeeded now))).makerSwaps.lookup paymentHash =
        some (swap.withStatus .succeeded now) := Finmap.lookup_insert _
  exact ⟨by rw [isMakerSwap, hl₁]; rfl, makerSwap_succeeds_again now now' hl₁⟩

/-- Recording an outcome again goes through and changes times only. -/
theorem recordOutcome_again {now : Nat} (now' : Nat) (h : ev.recordOutcome now s = .ok () s₁) :
    ∃ s₂, ev.recordOutcome now' s₁ = .ok () s₂ ∧ SameApartFromTimes s₁ s₂ := by
  cases ev with
  | paymentClaimed paymentHash purpose amountMsat receiverNodeId =>
    rw [recordOutcome, bind_of_ok (get_apply s)] at h
    rw [recordOutcome, bind_of_ok (get_apply s₁)]
    by_cases hm : s.isMakerSwap paymentHash
    · rw [if_pos hm] at h
      obtain ⟨hm₁, hs⟩ := makerSwap_again now' h
      rwa [if_pos hm₁]
    rw [if_neg hm] at h
    rcases receiverNodeId with _ | receiver
    · rw [bind_of_error (expect_none _ s)] at h
      cases h
    rw [bind_of_ok (expect_some receiver _ s)] at h
    obtain rfl := (EStateM.Result.ok.inj h).2
    rw [isMakerSwap_upsertInboundPayment, if_neg hm, bind_of_ok (expect_some receiver _ _)]
    obtain ⟨info, hl⟩ := lookup_upsertInboundPayment s paymentHash
      purpose.keys.1 purpose.keys.2 (some amountMsat) receiver now
    exact ⟨_, rfl, inboundPayment_upserts_again _ _ now now' hl⟩
  | paymentSent paymentPreimage paymentHash paymentId =>
    rw [recordOutcome, bind_of_ok (get_apply s)] at h
    rw [recordOutcome, bind_of_ok (get_apply s₁)]
    by_cases hm : s.isMakerSwap paymentHash
    · rw [if_pos hm] at h
      obtain ⟨hm₁, hs⟩ := makerSwap_again now' h
      rwa [if_pos hm₁]
    rw [if_neg hm] at h
    rcases paymentId with _ | paymentId
    · rw [bind_of_error (expect_none _ s)] at h
      cases h
    rw [bind_of_ok (expect_some paymentId _ s)] at h
    obtain ⟨_, hu⟩ := discard_eq_ok_iff.mp h
    obtain ⟨info, hl, rfl, rfl⟩ := updateOutboundPayment_eq_ok_iff.mp hu
    obtain ⟨_, s₂, hu₂, hs⟩ := outboundPayment_settles_again (ε := ReplayEvent)
      (s := s.saveOutboundPayments (s.outboundPayments.insert paymentId _)) now now'
      (Finmap.lookup_insert _)
    rw [isMakerSwap_saveOutboundPayments, if_neg hm, bind_of_ok (expect_some paymentId _ _)]
    exact ⟨s₂, discard_eq_ok_iff.mpr ⟨_, hu₂⟩, hs⟩
  | paymentForwarded prevChannelId nextChannelId outboundRgb inboundRgb paymentHash =>
    rw [recordOutcome, bind_of_ok (get_apply s)] at h
    rw [recordOutcome, bind_of_ok (get_apply s₁)]
    by_cases ht : s.isTakerSwap paymentHash
    · rw [if_pos ht] at h
      obtain ⟨swap, hl, -, rfl⟩ := updateTakerSwapStatus_eq_ok_iff.mp h
      have hl₁ : (s.saveTakerSwaps (s.takerSwaps.insert paymentHash
          (swap.withStatus .succeeded now))).takerSwaps.lookup paymentHash =
            some (swap.withStatus .succeeded now) := Finmap.lookup_insert _
      rw [if_pos (by rw [isTakerSwap, hl₁]; rfl)]
      exact takerSwap_succeeds_again now now' hl₁
    · rw [if_neg ht] at h
      obtain rfl := (EStateM.Result.ok.inj h).2
      rw [if_neg ht]
      exact ⟨s, rfl, .refl s⟩

/-! ### The whole event -/

/-- The node after a second delivery agrees with the node after the first, but
for timestamps. -/
structure SameApartFromTimes (n n' : Node ContractId) : Prop where
  amounts : ∀ channelId, n'.ldkDataDir.amounts channelId = n.ldkDataDir.amounts channelId
  stores : n.stores.SameApartFromTimes n'.stores

theorem movesNothing_of_harmless {now now' : Nat} {n n₁ n₂ : Node ContractId}
    (h : ev.handle now n = .ok () n₁) (h₂ : ev.handle now' n₁ = .ok () n₂)
    (hsame : SameApartFromTimes n₁ n₂) : ev.MovesNothing n.ldkDataDir := by
  obtain ⟨dir₁, s₁, hd, -, rfl⟩ := handle_eq_ok_iff.mp h
  obtain ⟨dir₂, s₂, hd₂, -, rfl⟩ := handle_eq_ok_iff.mp h₂
  obtain ⟨dir, hdir, hamounts⟩ := updateAmounts_again hd
  obtain rfl := (EStateM.Result.ok.inj (hd₂.symm.trans hdir)).2
  exact hamounts.mp hsame.amounts

theorem harmless_of_movesNothing {now : Nat} (now' : Nat) {n n₁ : Node ContractId}
    (h : ev.handle now n = .ok () n₁) (hm : ev.MovesNothing n.ldkDataDir) :
    ∃ n₂, ev.handle now' n₁ = .ok () n₂ ∧ SameApartFromTimes n₁ n₂ := by
  obtain ⟨dir₁, s₁, hd, hs, rfl⟩ := handle_eq_ok_iff.mp h
  obtain ⟨dir₂, hd₂, hamounts⟩ := updateAmounts_again hd
  obtain ⟨s₂, hs₂, hsame⟩ := recordOutcome_again now' hs
  exact ⟨_, handle_eq_ok_iff.mpr ⟨dir₂, s₂, hd₂, hs₂, rfl⟩, hamounts.mpr hm, hsame⟩

/-- A handled event that is handled again leaves the node as it was, timestamps
apart, if and only if it moves nothing. -/
theorem replay_harmless_iff {now : Nat} (now' : Nat) {n n₁ : Node ContractId}
    (h : ev.handle now n = .ok () n₁) :
    (∃ n₂, ev.handle now' n₁ = .ok () n₂ ∧ SameApartFromTimes n₁ n₂) ↔
      ev.MovesNothing n.ldkDataDir :=
  ⟨fun ⟨_, h₂, hsame⟩ => movesNothing_of_harmless h h₂ hsame, harmless_of_movesNothing now' h⟩

/-- A node with one coloured channel and the info of one payment of 10 on it. -/
def payee : Node ℕ where
  stores := Stores.load ∅
  ldkDataDir :=
    { channelInfo := (∅ : HashMap String (RgbInfo ℕ)).insert
        (ChannelId.mk (Vector.replicate 32 1)).hex ⟨1, .nia, 20, 80⟩
      channelInfoPending := ∅
      entries := [⟨(ChannelId.mk (Vector.replicate 32 1)).hex ++
        (PaymentHash.mk (Vector.replicate 32 7)).hex ++ ".inbound", some ⟨10, false, true⟩⟩] }
  channels := []
  interceptCalls := []

/-- The claim of that payment. -/
def claimOfTen : PaymentEvent :=
  .paymentClaimed ⟨Vector.replicate 32 7⟩ (.spontaneousPayment ⟨Vector.replicate 32 3⟩) 3000000
    (some ⟨Vector.replicate 33 2⟩)

theorem claimOfTen_moves :
    claimOfTen.rgbMoves payee.ldkDataDir.entries =
      .ok [⟨(ChannelId.mk (Vector.replicate 32 1)).hex, 0, 10⟩] := by
  decide +kernel

theorem claimOfTen_handled : ∃ n, claimOfTen.handle 100 payee = .ok () n := by
  have hd : ∃ dir, claimOfTen.updateAmounts payee.ldkDataDir = .ok () dir := by
    obtain ⟨dir, h⟩ := exists_applyMoves_iff (ε := ReplayEvent).mpr
      (by decide : ∀ move ∈ [(⟨(ChannelId.mk (Vector.replicate 32 1)).hex, 0, 10⟩ : RgbMove)],
        (payee.ldkDataDir.channelInfo.lookup move.channelId).isSome)
    exact ⟨dir, updateAmounts_eq_ok_iff.mpr ⟨_, claimOfTen_moves, h⟩⟩
  obtain ⟨dir, hd⟩ := hd
  exact ⟨_, handle_eq_ok_iff.mpr ⟨dir, _, hd, rfl, rfl⟩⟩

/-- The rule at a claim that moves 10. -/
theorem replay_of_claimOfTen :
    ∃ n₁, claimOfTen.handle 100 payee = .ok () n₁ ∧
      ((∃ n₂, claimOfTen.handle 101 n₁ = .ok () n₂ ∧ SameApartFromTimes n₁ n₂) ↔
        claimOfTen.MovesNothing payee.ldkDataDir) := by
  obtain ⟨n₁, h⟩ := claimOfTen_handled
  exact ⟨n₁, h, replay_harmless_iff 101 h⟩

/-- Claimed once more, the 10 are moved once more. -/
theorem replay_moves_amounts_again :
    ¬∀ (now now' : Nat) (ev : PaymentEvent) (n n₁ : Node ℕ), ev.handle now n = .ok () n₁ →
      ∃ n₂, ev.handle now' n₁ = .ok () n₂ ∧ SameApartFromTimes n₁ n₂ := by
  intro hall
  obtain ⟨n₁, h⟩ := claimOfTen_handled
  obtain ⟨n₂, h₂, hsame⟩ := hall 100 101 claimOfTen payee n₁ h
  have hm := movesNothing_of_harmless h h₂ hsame _ claimOfTen_moves
    (ChannelId.mk (Vector.replicate 32 1)).hex
  exact absurd hm (by decide)

end PaymentEvent

end RgbLightningNode
