import RgbLightningNode.Routes.Swaps
import RgbLightningNode.Events.NetPosition
import RgbLightningNode.Events.Payments

/-!
# What each handler does to the taker's swaps

One spec lemma for each handler: under a payment hash the stored swap either
stays as it is or takes a later status, and the written copy keeps up.
-/

namespace RgbLightningNode

open Fallible Node

variable {ContractId : Type} {ε : Type}

namespace Stores

/-- The taker swaps in memory are the ones on disk. -/
def TakerSynced (s : Stores ContractId) : Prop :=
  readSwapsInfo s.fsStore takerSwapsFname = s.takerSwaps

/-- A change that leaves the taker swaps unchanged. -/
structure KeepsTaker (s s' : Stores ContractId) : Prop where
  takerSwaps : s'.takerSwaps = s.takerSwaps
  synced : s.TakerSynced → s'.TakerSynced

/-- A change that, under the hash, at most moves the swap past waiting. -/
structure MovesTaker (paymentHash : PaymentHash) (s s' : Stores ContractId) : Prop where
  lookup : s'.takerSwaps.lookup paymentHash = s.takerSwaps.lookup paymentHash ∨
    ∃ swap status now, s.takerSwaps.lookup paymentHash = some swap ∧ status ≠ .waiting ∧
      s'.takerSwaps.lookup paymentHash = some (swap.withStatus status now)
  synced : s.TakerSynced → s'.TakerSynced

/-- A change that marks at most the swap under the hash, past waiting. -/
def MarksTaker (paymentHash : PaymentHash) (s s' : Stores ContractId) : Prop :=
  s.KeepsTaker s' ∨ ∃ swap status now, s.takerSwaps.lookup paymentHash = some swap ∧
    status ≠ .waiting ∧ s' = s.saveTakerSwaps
      (s.takerSwaps.insert paymentHash (swap.withStatus status now))

theorem KeepsTaker.refl (s : Stores ContractId) : s.KeepsTaker s := ⟨rfl, id⟩

theorem KeepsTaker.moves {s s' : Stores ContractId} (h : s.KeepsTaker s')
    (paymentHash : PaymentHash) : MovesTaker paymentHash s s' :=
  ⟨.inl (by rw [h.takerSwaps]), h.synced⟩

theorem saveTakerSwaps_synced (m : HashMap PaymentHash (SwapData ContractId))
    (s : Stores ContractId) : (s.saveTakerSwaps m).TakerSynced := by
  simp [TakerSynced, saveTakerSwaps, readSwapsInfo]

/-- Writing under another name keeps the taker swaps on disk. -/
theorem readSwapsInfo_insert_ne {fs : HashMap String (Persisted ContractId)} {fname : String}
    (p : Persisted ContractId) (hne : takerSwapsFname ≠ fname) :
    readSwapsInfo (fs.insert fname p) takerSwapsFname = readSwapsInfo fs takerSwapsFname := by
  simp only [readSwapsInfo, Finmap.lookup_insert_of_ne _ hne]

theorem keepsTaker_saveMakerSwaps (m : HashMap PaymentHash (SwapData ContractId))
    (s : Stores ContractId) : s.KeepsTaker (s.saveMakerSwaps m) :=
  ⟨rfl, fun h => (readSwapsInfo_insert_ne _ (by decide)).trans h⟩

theorem keepsTaker_saveInboundPayments (m : HashMap PaymentHash PaymentInfo)
    (s : Stores ContractId) : s.KeepsTaker (s.saveInboundPayments m) :=
  ⟨rfl, fun h => (readSwapsInfo_insert_ne _ (by decide)).trans h⟩

theorem keepsTaker_saveOutboundPayments (m : HashMap PaymentId PaymentInfo)
    (s : Stores ContractId) : s.KeepsTaker (s.saveOutboundPayments m) :=
  ⟨rfl, fun h => (readSwapsInfo_insert_ne _ (by decide)).trans h⟩

theorem MarksTaker.lookup_ne {s s' : Stores ContractId} {paymentHash other : PaymentHash}
    (h : MarksTaker other s s') (hne : paymentHash ≠ other) :
    s'.takerSwaps.lookup paymentHash = s.takerSwaps.lookup paymentHash := by
  rcases h with hk | ⟨swap, status, now, -, -, rfl⟩
  · rw [hk.takerSwaps]
  · exact Finmap.lookup_insert_of_ne _ hne

/-- Marking one swap moves every swap at most past waiting. -/
theorem MarksTaker.moves {s s' : Stores ContractId} {other : PaymentHash}
    (h : MarksTaker other s s') (paymentHash : PaymentHash) : MovesTaker paymentHash s s' := by
  by_cases hp : paymentHash = other
  · subst hp
    rcases h with hk | ⟨swap, status, now, hl, hs, rfl⟩
    · exact hk.moves paymentHash
    · exact ⟨.inr ⟨swap, status, now, hl, hs, Finmap.lookup_insert _⟩,
        fun _ => saveTakerSwaps_synced _ _⟩
  · refine ⟨.inl (h.lookup_ne hp), ?_⟩
    rcases h with hk | ⟨swap, status, now, -, -, rfl⟩
    · exact hk.synced
    · exact fun _ => saveTakerSwaps_synced _ _

/-- A maker swap's status is no business of the taker swaps. -/
theorem keepsTaker_updateMakerSwapStatus (paymentHash : PaymentHash) (status : SwapStatus)
    (now : Nat) (s : Stores ContractId) :
    s.KeepsTaker (after (updateMakerSwapStatus paymentHash status now :
      Fallible (Exit ε) _ Unit) s) := by
  rcases hu : (updateMakerSwapStatus paymentHash status now : Fallible (Exit ε) _ Unit) s with
    ⟨⟨⟩, s'⟩ | ⟨e, s'⟩
  · obtain ⟨swap, -, -, rfl⟩ := updateMakerSwapStatus_eq_ok_iff.mp hu
    rw [after_of_ok hu]
    exact keepsTaker_saveMakerSwaps _ _
  · rw [after_of_error hu]
    obtain rfl : s = s' := updateMakerSwapStatus_error hu
    exact .refl s

theorem marksTaker_updateTakerSwapStatus (paymentHash : PaymentHash) (status : SwapStatus)
    (now : Nat) (s : Stores ContractId) :
    MarksTaker paymentHash s (after (updateTakerSwapStatus paymentHash status now :
      Fallible (Exit ε) _ Unit) s) := by
  rcases hu : (updateTakerSwapStatus paymentHash status now : Fallible (Exit ε) _ Unit) s with
    ⟨⟨⟩, s'⟩ | ⟨e, s'⟩
  · obtain ⟨swap, hl, hs, rfl⟩ := updateTakerSwapStatus_eq_ok_iff.mp hu
    rw [after_of_ok hu]
    exact .inr ⟨swap, status, now, hl, hs, rfl⟩
  · rw [after_of_error hu]
    obtain rfl : s = s' := updateTakerSwapStatus_error hu
    exact .inl (.refl s)

theorem keepsTaker_updateOutboundPayment (paymentId : PaymentId) (status : HTLCStatus)
    (preimage : Option PaymentPreimage) (now : Nat) (s : Stores ContractId) :
    s.KeepsTaker (after (discard (updateOutboundPayment paymentId status preimage now) :
      Fallible (Exit ε) _ Unit) s) := by
  rw [after_discard]
  rcases hu : (updateOutboundPayment paymentId status preimage now :
    Fallible (Exit ε) _ PaymentInfo) s with ⟨info, s'⟩ | ⟨e, s'⟩
  · obtain ⟨_, -, -, rfl⟩ := updateOutboundPayment_eq_ok_iff.mp hu
    rw [after_of_ok hu]
    exact keepsTaker_saveOutboundPayments _ _
  · rw [after_of_error hu]
    obtain rfl : s = s' := updateOutboundPayment_error hu
    exact .refl s

theorem keepsTaker_upsertInboundPayment (paymentHash : PaymentHash) (status : HTLCStatus)
    (preimage : Option PaymentPreimage) (secret : Option PaymentSecret) (amtMsat : Option Nat)
    (payeePubkey : PublicKey) (now : Nat) (s : Stores ContractId) :
    s.KeepsTaker (s.upsertInboundPayment paymentHash status preimage secret amtMsat payeePubkey
      now) := by
  unfold upsertInboundPayment
  split <;> exact keepsTaker_saveInboundPayments _ _

end Stores

namespace PaymentEvent

open Stores

/-- A forwarded payment under this hash. -/
def ForwardedUnder (paymentHash : PaymentHash) : PaymentEvent → Prop
  | paymentForwarded _ _ _ _ other => other = paymentHash
  | _ => False

/-- Only a forwarded payment is recorded in the taker's swaps. -/
theorem recordOutcome_keepsTaker {ev : PaymentEvent} (now : Nat) (s : Stores ContractId)
    (hev : ∀ paymentHash, ¬ev.ForwardedUnder paymentHash) :
    s.KeepsTaker (after (ev.recordOutcome now) s) := by
  cases ev with
  | paymentClaimed paymentHash purpose amountMsat receiverNodeId =>
    rw [recordOutcome, after_bind_of_ok (get_apply s)]
    split
    · exact keepsTaker_updateMakerSwapStatus _ _ _ _
    · rcases receiverNodeId with _ | receiver
      · rw [after_bind_of_error (expect_none _ s)]
        exact .refl s
      · rw [after_bind_of_ok (expect_some receiver _ s)]
        exact keepsTaker_upsertInboundPayment _ _ _ _ _ _ _ _
  | paymentSent paymentPreimage paymentHash paymentId =>
    rw [recordOutcome, after_bind_of_ok (get_apply s)]
    split
    · exact keepsTaker_updateMakerSwapStatus _ _ _ _
    · rcases paymentId with _ | paymentId
      · rw [after_bind_of_error (expect_none _ s)]
        exact .refl s
      · rw [after_bind_of_ok (expect_some paymentId _ s)]
        exact keepsTaker_updateOutboundPayment _ _ _ _ _
  | paymentForwarded _ _ _ _ paymentHash => exact absurd rfl (hev paymentHash)

/-- The payment hash of an event. -/
def hash : PaymentEvent → PaymentHash
  | paymentClaimed paymentHash _ _ _ => paymentHash
  | paymentSent _ paymentHash _ => paymentHash
  | paymentForwarded _ _ _ _ paymentHash => paymentHash

theorem recordOutcome_marksTaker (ev : PaymentEvent) (now : Nat) (s : Stores ContractId) :
    MarksTaker ev.hash s (after (ev.recordOutcome now) s) := by
  cases ev with
  | paymentClaimed | paymentSent => exact .inl (recordOutcome_keepsTaker now s fun _ => id)
  | paymentForwarded _ _ _ _ paymentHash =>
    rw [recordOutcome, after_bind_of_ok (get_apply s)]
    split
    · exact marksTaker_updateTakerSwapStatus _ _ _ _
    · exact .inl (.refl s)

/-- A forwarded payment marks the taker swap under its hash. -/
theorem recordForwarded_of_lookup (prev next : Option ChannelId)
    (outbound inbound : Option UInt64) {paymentHash : PaymentHash} {s : Stores ContractId}
    {swap : SwapData ContractId} (now : Nat)
    (hl : s.takerSwaps.lookup paymentHash = some swap) :
    ∃ s', (paymentForwarded prev next outbound inbound paymentHash).recordOutcome now s =
        .ok () s' ∧ s'.takerSwaps.lookup paymentHash = some (swap.withStatus .succeeded now) := by
  refine ⟨s.saveTakerSwaps (s.takerSwaps.insert paymentHash (swap.withStatus .succeeded now)), ?_,
    Finmap.lookup_insert _⟩
  rw [recordOutcome, bind_of_ok (get_apply s), if_pos (by simp [isTakerSwap, hl])]
  exact updateTakerSwapStatus_of_lookup now hl (by decide)

/-- The outcome is recorded once the amounts have been moved. -/
theorem after_handle_stores (ev : PaymentEvent) (now : Nat) (n : Node ContractId) :
    (after (ev.handle now) n).stores = n.stores ∨
      (∃ dir, ev.updateAmounts n.ldkDataDir = .ok () dir) ∧
        (after (ev.handle now) n).stores = after (ev.recordOutcome now) n.stores := by
  rcases hd : ev.updateAmounts n.ldkDataDir with ⟨⟨⟩, dir⟩ | ⟨e, dir⟩
  · refine .inr ⟨⟨dir, rfl⟩, ?_⟩
    rw [handle, after_bind_of_ok (onLdkDataDir_of_ok hd), onStores, after_zoom]
  · rw [handle, after_bind_of_error (onLdkDataDir_of_error hd)]
    exact .inl rfl

end PaymentEvent

namespace HTLCIntercepted

open Stores InterceptCall

variable [DecidableEq ContractId]

/-- The HTLC reaches the whitelist. -/
def Reaches (reply : InterceptReply ContractId) (e : HTLCIntercepted ContractId)
    (n : Node ContractId) (legs : SwapLegs ContractId) : Prop :=
  (e.isSwap = true ∨ reply n.interceptCalls (failInterceptedHtlc e.interceptId) = true) ∧
    e.swapLegs n = .ok legs

variable {reply : InterceptReply ContractId} {now : Nat} {e : HTLCIntercepted ContractId}
  {n : Node ContractId} {swap : SwapData ContractId} {legs : SwapLegs ContractId}

/-- An HTLC that reaches an accepted swap makes it pending or failed. -/
theorem handle_stores_of_reaches (now : Nat) (hr : Reaches reply e n legs)
    (hl : n.stores.takerSwaps.lookup e.paymentHash = some swap) :
    ∃ status, status ≠ .waiting ∧
      (after (handle reply now e) n).stores = marked n e swap status now := by
  by_cases hm : swapMismatch swap.swapInfo e legs = true
  · refine ⟨.failed, by decide, ?_⟩
    rw [handle, after_bind_of_ok (failUnlessSwap_of_answered hr.1),
      settle_of_mismatch (n := { n with interceptCalls := n.interceptCalls ++ e.callsBefore })
        hr.2 hl hm]
    rfl
  · refine ⟨.pending, by decide, ?_⟩
    rw [after_handle_of_forwards ⟨hr.1, hr.2, hl, by simpa using hm⟩]

/-- Without an accepted swap, or when the channels are not found, no swap is
touched. -/
theorem handle_stores_of_not_reaches
    (h : ¬((∃ legs, Reaches reply e n legs) ∧
      (n.stores.takerSwaps.lookup e.paymentHash).isSome)) :
    (after (handle reply now e) n).stores = n.stores := by
  by_cases ha : e.isSwap = true ∨
      reply n.interceptCalls (failInterceptedHtlc e.interceptId) = true
  · rw [handle, after_bind_of_ok (failUnlessSwap_of_answered ha), settle,
      after_bind_of_ok (get_apply _)]
    rcases hf : e.swapLegs { n with interceptCalls := n.interceptCalls ++ e.callsBefore } with
      exit | legs
    · rw [after_bind_of_error (attempt_error exit _)]
    · rw [after_bind_of_ok (attempt_ok legs _)]
      rcases hl : n.stores.takerSwaps.lookup e.paymentHash with _ | swap
      · simp only [failHtlc, after_callIntercept]
      · exact absurd ⟨⟨legs, ha, hf⟩, by simp [hl]⟩ h
  · rw [after_handle_of_not_answered ha]

theorem handle_marksTaker (reply : InterceptReply ContractId) (now : Nat)
    (e : HTLCIntercepted ContractId) (n : Node ContractId) :
    MarksTaker e.paymentHash n.stores (after (handle reply now e) n).stores := by
  by_cases h : (∃ legs, Reaches reply e n legs) ∧
      (n.stores.takerSwaps.lookup e.paymentHash).isSome
  · obtain ⟨⟨legs, hr⟩, hsome⟩ := h
    obtain ⟨swap, hl⟩ := Option.isSome_iff_exists.mp hsome
    obtain ⟨status, hs, hst⟩ := handle_stores_of_reaches now hr hl
    exact .inr ⟨swap, status, now, hl, hs, hst⟩
  · rw [handle_stores_of_not_reaches h]
    exact .inl (.refl _)

end HTLCIntercepted

/-! ### Requests -/

section Requests

open Stores

/-- Listing a swap leaves the store unchanged, or stores the status it is listed under. -/
theorem after_mapSwap (now : Nat) (other : PaymentHash) (swapData : SwapData ContractId)
    (ofTaker : Bool) (s : Stores ContractId) :
    after (mapSwap now other swapData ofTaker) s = s ∨
      ∃ status, listedStatus now swapData = .ok status ∧ status ≠ swapData.status ∧
        after (mapSwap now other swapData ofTaker) s =
          after (updateListed now other status ofTaker) s := by
  rcases hst : listedStatus now swapData with exit | status
  · rw [mapSwap, hst, after_bind_of_error (attempt_error exit s)]
    exact .inl rfl
  · rw [mapSwap, hst, after_bind_of_ok (attempt_ok status s)]
    by_cases hne : status ≠ swapData.status
    · rw [if_pos hne]
      exact .inr ⟨status, rfl, hne, rfl⟩
    · rw [if_neg hne]
      exact .inl rfl

theorem mapSwap_marksTaker (now : Nat) (paymentHash : PaymentHash)
    (swapData : SwapData ContractId) (ofTaker : Bool) (s : Stores ContractId) :
    MarksTaker paymentHash s (after (mapSwap now paymentHash swapData ofTaker) s) := by
  rcases after_mapSwap now paymentHash swapData ofTaker s with h | ⟨status, -, -, h⟩ <;> rw [h]
  · exact .inl (.refl s)
  · unfold updateListed
    split
    · exact marksTaker_updateTakerSwapStatus _ _ _ _
    · exact .inl (keepsTaker_updateMakerSwapStatus _ _ _ _)

/-- Listing a maker swap leaves the taker swaps unchanged. -/
theorem mapSwap_keepsTaker (now : Nat) (paymentHash : PaymentHash)
    (swapData : SwapData ContractId) (s : Stores ContractId) :
    s.KeepsTaker (after (mapSwap now paymentHash swapData false) s) := by
  rcases after_mapSwap now paymentHash swapData false s with h | ⟨status, -, -, h⟩ <;> rw [h]
  · exact .refl s
  · exact keepsTaker_updateMakerSwapStatus _ _ _ _

/-- A waiting swap is listed under a new status only past its expiry. -/
theorem expiry_lt_of_listedStatus_ne {now : Nat} {swapData : SwapData ContractId}
    {status : SwapStatus} (hw : swapData.status = .waiting)
    (h : listedStatus now swapData = .ok status) (hne : status ≠ swapData.status) :
    swapData.swapInfo.expiry < now := by
  by_contra hle
  have : listedStatus now swapData = .ok swapData.status := by
    simp only [listedStatus, hw, reduceCtorEq, true_and, gt_iff_lt, hle, if_false]
  exact hne (Except.ok.inj (h.symm.trans this))

/-- A request that is in time and covered by a balance adds the swap it names. -/
theorem after_taker_of_accepts [DecidableEq ContractId] [ContractIdText ContractId] {now : Nat}
    {swapstring : String} {req : SwapString ContractId} {n : Node ContractId}
    (hp : SwapString.fromStr swapstring = .ok req) (hle : now ≤ req.swapInfo.expiry)
    (hc : checkFromAsset req.swapInfo n = .ok ()) :
    after (taker now swapstring) n = { n with
      stores := n.stores.addTakerSwap req.paymentHash
        (SwapData.createFromSwapInfo req.swapInfo now) } := by
  simp only [taker, hp]
  rw [after_bind_of_ok (t := n) (a := ()) (by simp [hle]), after_bind_of_ok (get_apply n), hc,
    after_bind_of_ok (attempt_ok () n)]
  rfl

theorem after_taker_of_refused [DecidableEq ContractId] [ContractIdText ContractId] {now : Nat}
    {swapstring : String} {req : SwapString ContractId} {n : Node ContractId}
    (hp : SwapString.fromStr swapstring = .ok req)
    (h : ¬(now ≤ req.swapInfo.expiry ∧ checkFromAsset req.swapInfo n = .ok ())) :
    after (taker now swapstring) n = n := by
  simp only [taker, hp]
  by_cases hle : now ≤ req.swapInfo.expiry
  · rw [after_bind_of_ok (t := n) (a := ()) (by simp [hle]), after_bind_of_ok (get_apply n)]
    rcases hc : checkFromAsset req.swapInfo n with exit | ⟨⟩
    · rw [after_bind_of_error (attempt_error exit n)]
    · exact absurd ⟨hle, hc⟩ h
  · rw [after_bind_of_error (t := n) (e := .err .expiredSwapOffer) (by simp [hle])]

/-- A taker request leaves the node unchanged, or adds the swap it names. -/
theorem after_taker [DecidableEq ContractId] [ContractIdText ContractId] (now : Nat)
    (swapstring : String) (n : Node ContractId) :
    after (taker now swapstring) n = n ∨
      ∃ req : SwapString ContractId, SwapString.fromStr swapstring = .ok req ∧
        after (taker now swapstring) n = { n with
          stores := n.stores.addTakerSwap req.paymentHash
            (SwapData.createFromSwapInfo req.swapInfo now) } := by
  rcases hp : (SwapString.fromStr swapstring : Except String (SwapString ContractId)) with msg | req
  · exact .inl (by simp only [taker, hp]; rfl)
  by_cases h : now ≤ req.swapInfo.expiry ∧ checkFromAsset req.swapInfo n = .ok ()
  · exact .inr ⟨req, rfl, after_taker_of_accepts hp h.1 h.2⟩
  · exact .inl (after_taker_of_refused hp h)

theorem movesTaker_addTakerSwap {other paymentHash : PaymentHash} (swap : SwapData ContractId)
    (s : Stores ContractId) (hne : paymentHash ≠ other) :
    MovesTaker paymentHash s (s.addTakerSwap other swap) :=
  ⟨.inl (Finmap.lookup_insert_of_ne _ hne), fun _ => saveTakerSwaps_synced _ _⟩

end Requests

end RgbLightningNode
