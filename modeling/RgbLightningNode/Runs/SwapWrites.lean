import RgbLightningNode.Routes.MakerExecute
import RgbLightningNode.Routes.MakerInit
import RgbLightningNode.Runs.TakerEffects

/-!
# Writes to the stored swaps

A write to the swaps adds a new one, which waits, or gives one that is there a
status. The stores accept every status after every other, so whether a swap moves
forward depends on the status it has when it is written.
-/

namespace RgbLightningNode

open Fallible Node

variable {ContractId : Type} {ε : Type}

/-- A write to one swap of the maker or of the taker. Waiting stands for a swap
that is added. -/
structure SwapWrite where
  ofTaker : Bool
  paymentHash : PaymentHash
  status : SwapStatus
  deriving DecidableEq

namespace SwapStatus

/-- The steps a swap is to make. -/
def movesTo : SwapStatus → SwapStatus → Bool
  | .waiting, .pending | .waiting, .expired | .waiting, .failed => true
  | .pending, .succeeded | .pending, .failed => true
  | _, _ => false

def isTerminal : SwapStatus → Bool
  | .succeeded | .failed | .expired => true
  | .waiting | .pending => false

end SwapStatus

namespace SwapData

/-- A stored swap stays as it is, but for the time at which it was begun, or it
makes one step. It gets a completion time only with a terminal status. -/
def Forward : Option (SwapData ContractId) → Option (SwapData ContractId) → Prop
  | none, _ => True
  | some _, none => False
  | some old, some new =>
    new.status = old.status ∧ new.completedAt = old.completedAt ∨
      old.status.movesTo new.status = true ∧
        (new.status.isTerminal = false → new.completedAt = old.completedAt)

/-- The swap may take this status. A terminal status may also be written again within the
same second. -/
def CanTake (swap : SwapData ContractId) (status : SwapStatus) (now : Nat) : Prop :=
  match status with
  | .waiting => swap.status = .waiting ∧ swap.completedAt = none
  | .pending => swap.status = .waiting ∨ swap.status = .pending
  | .succeeded => swap.status = .pending ∨ swap.status = .succeeded ∧ swap.completedAt = some now
  | .failed => swap.status = .waiting ∨ swap.status = .pending ∨
      swap.status = .failed ∧ swap.completedAt = some now
  | .expired => swap.status = .waiting ∨ swap.status = .expired ∧ swap.completedAt = some now

theorem forward_refl (swap : Option (SwapData ContractId)) : Forward swap swap := by
  cases swap with
  | none => trivial
  | some swap => exact .inl ⟨rfl, rfl⟩

/-- A terminal status is never left. -/
theorem Forward.of_terminal {old : SwapData ContractId} {new : Option (SwapData ContractId)}
    (h : Forward (some old) new) (ht : old.status.isTerminal = true) :
    new.map SwapData.status = some old.status := by
  cases new with
  | none => exact h.elim
  | some new =>
    obtain ⟨hstatus, -⟩ | ⟨hmoves, -⟩ := h
    · exact congrArg some hstatus
    · cases hold : old.status <;>
        simp [hold, SwapStatus.movesTo, SwapStatus.isTerminal] at hmoves ht

theorem forward_create_iff {swap : SwapData ContractId} {info : SwapInfo ContractId}
    {requestedAt now : Nat} :
    Forward (some swap) (some (createFromSwapInfo info requestedAt)) ↔
      swap.CanTake .waiting now := by
  obtain ⟨_, status, _, _, completedAt⟩ := swap
  cases status <;> cases completedAt <;>
    simp [Forward, CanTake, createFromSwapInfo, SwapStatus.movesTo]

theorem forward_withStatus_iff {swap : SwapData ContractId} {status : SwapStatus} {now : Nat}
    (hs : status ≠ .waiting) :
    Forward (some swap) (some (swap.withStatus status now)) ↔ swap.CanTake status now := by
  obtain ⟨_, before, _, _, completedAt⟩ := swap
  cases status with
  | waiting => exact absurd rfl hs
  | pending | succeeded | expired | failed =>
    cases before <;>
      simp [Forward, CanTake, withStatus, SwapStatus.movesTo, SwapStatus.isTerminal,
        eq_comm (a := some now)]

end SwapData

namespace Stores

/-- The stored swap of the maker or the taker under a hash. -/
def swap? (s : Stores ContractId) (ofTaker : Bool) (paymentHash : PaymentHash) :
    Option (SwapData ContractId) :=
  (if ofTaker then s.takerSwaps else s.makerSwaps).lookup paymentHash

def KeepsSwaps (s s' : Stores ContractId) : Prop :=
  ∀ ofTaker paymentHash, s'.swap? ofTaker paymentHash = s.swap? ofTaker paymentHash

/-- A swap is added, or the one that is there takes the status. -/
def Stored (status : SwapStatus) (now : Nat) (old new : Option (SwapData ContractId)) : Prop :=
  if status = .waiting then ∃ info requestedAt,
    new = some (SwapData.createFromSwapInfo info requestedAt)
  else new = old.map fun swap => swap.withStatus status now

/-- The swaps change by this write, and by nothing else. -/
structure Writes (w : SwapWrite) (now : Nat) (s s' : Stores ContractId) : Prop where
  here : Stored w.status now (s.swap? w.ofTaker w.paymentHash) (s'.swap? w.ofTaker w.paymentHash)
  other : ∀ ofTaker paymentHash, ¬(ofTaker = w.ofTaker ∧ paymentHash = w.paymentHash) →
    s'.swap? ofTaker paymentHash = s.swap? ofTaker paymentHash

/-- The swaps change by a write, if there is one. -/
def ChangesBy (w : Option SwapWrite) (now : Nat) (s s' : Stores ContractId) : Prop :=
  match w with
  | none => s.KeepsSwaps s'
  | some w => Writes w now s s'

variable {s s' : Stores ContractId} {paymentHash : PaymentHash} {status : SwapStatus} {now : Nat}

/-- Every stored swap moves forward if and only if the one that is written may take the
status. -/
theorem forward_iff_of_changesBy {w : Option SwapWrite} (h : ChangesBy w now s s') :
    (∀ ofTaker paymentHash,
        SwapData.Forward (s.swap? ofTaker paymentHash) (s'.swap? ofTaker paymentHash)) ↔
      ∀ write, w = some write → ∀ swap, s.swap? write.ofTaker write.paymentHash = some swap →
        swap.CanTake write.status now := by
  cases w with
  | none =>
    refine iff_of_true (fun b k => ?_) fun _ hw => by cases hw
    rw [h b k]
    exact SwapData.forward_refl _
  | some w =>
    simp only [Option.some.injEq, forall_eq']
    have hhere : SwapData.Forward (s.swap? w.ofTaker w.paymentHash)
        (s'.swap? w.ofTaker w.paymentHash) ↔
          ∀ swap, s.swap? w.ofTaker w.paymentHash = some swap → swap.CanTake w.status now := by
      have hstored := h.here
      cases hold : s.swap? w.ofTaker w.paymentHash with
      | none => simp [SwapData.Forward]
      | some swap =>
        rw [hold, Stored] at hstored
        simp only [Option.some.injEq, forall_eq']
        split at hstored
        · rename_i hwaiting
          obtain ⟨info, requestedAt, hnew⟩ := hstored
          rw [hnew, hwaiting]
          exact SwapData.forward_create_iff
        · rename_i hne
          rw [hstored]
          exact SwapData.forward_withStatus_iff hne
    rw [← hhere]
    constructor
    · exact fun hall => hall _ _
    · intro hw b k
      by_cases hbk : b = w.ofTaker ∧ k = w.paymentHash
      · obtain ⟨rfl, rfl⟩ := hbk
        exact hw
      · rw [h.other b k hbk]
        exact SwapData.forward_refl _

/-! ### The mutators -/

theorem KeepsSwaps.refl (s : Stores ContractId) : s.KeepsSwaps s := fun _ _ => rfl

theorem keepsSwaps_of_eq (hm : s'.makerSwaps = s.makerSwaps) (ht : s'.takerSwaps = s.takerSwaps) :
    s.KeepsSwaps s' := by
  intro b k
  cases b with
  | false => exact congrArg _ hm
  | true => exact congrArg _ ht

/-- A swap of the maker is stored; the taker's stay as they are. -/
theorem writes_saveMakerSwaps {swap : SwapData ContractId}
    (h : Stored status now (s.makerSwaps.lookup paymentHash) (some swap)) :
    Writes ⟨false, paymentHash, status⟩ now s
      (s.saveMakerSwaps (s.makerSwaps.insert paymentHash swap)) where
  here := by
    have hnew : (s.makerSwaps.insert paymentHash swap).lookup paymentHash = some swap :=
      Finmap.lookup_insert _
    rw [← hnew] at h
    exact h
  other := by
    intro b k hbk
    cases b with
    | false => exact Finmap.lookup_insert_of_ne _ fun hk => hbk ⟨rfl, hk⟩
    | true => rfl

theorem writes_saveTakerSwaps {swap : SwapData ContractId}
    (h : Stored status now (s.takerSwaps.lookup paymentHash) (some swap)) :
    Writes ⟨true, paymentHash, status⟩ now s
      (s.saveTakerSwaps (s.takerSwaps.insert paymentHash swap)) where
  here := by
    have hnew : (s.takerSwaps.insert paymentHash swap).lookup paymentHash = some swap :=
      Finmap.lookup_insert _
    rw [← hnew] at h
    exact h
  other := by
    intro b k hbk
    cases b with
    | false => rfl
    | true => exact Finmap.lookup_insert_of_ne _ fun hk => hbk ⟨rfl, hk⟩

theorem writes_addMakerSwap (s : Stores ContractId) (info : SwapInfo ContractId)
    (requestedAt : Nat) : Writes ⟨false, paymentHash, .waiting⟩ now s
      (s.addMakerSwap paymentHash (SwapData.createFromSwapInfo info requestedAt)) :=
  writes_saveMakerSwaps ⟨info, requestedAt, rfl⟩

theorem writes_addTakerSwap (s : Stores ContractId) (info : SwapInfo ContractId)
    (requestedAt : Nat) : Writes ⟨true, paymentHash, .waiting⟩ now s
      (s.addTakerSwap paymentHash (SwapData.createFromSwapInfo info requestedAt)) :=
  writes_saveTakerSwaps ⟨info, requestedAt, rfl⟩

theorem stored_withStatus {swap : SwapData ContractId} (hs : status ≠ .waiting) :
    Stored status now (some swap) (some (swap.withStatus status now)) := by
  rw [Stored, if_neg hs]
  rfl

/-- Where there is no swap, leaving the swaps unchanged is all that giving it a status does. -/
theorem writes_of_keepsSwaps {ofTaker : Bool} (hs : status ≠ .waiting)
    (hl : s.swap? ofTaker paymentHash = none) (h : s.KeepsSwaps s') :
    Writes ⟨ofTaker, paymentHash, status⟩ now s s' where
  here := by
    rw [Stored, if_neg hs, h ofTaker paymentHash, hl]
    rfl
  other := fun b k _ => h b k

/-- A status update that finds no swap panics, and changes nothing. -/
theorem writes_updateMakerSwapStatus (hs : status ≠ .waiting) (s : Stores ContractId) :
    Writes ⟨false, paymentHash, status⟩ now s
      (after (updateMakerSwapStatus paymentHash status now : Fallible (Exit ε) _ Unit) s) := by
  cases hu : (updateMakerSwapStatus paymentHash status now : Fallible (Exit ε) _ Unit) s with
  | ok _ s' =>
    obtain ⟨swap, hl, -, rfl⟩ := updateMakerSwapStatus_eq_ok_iff.mp hu
    rw [after_of_ok hu]
    exact writes_saveMakerSwaps (hl ▸ stored_withStatus hs)
  | error e s' =>
    obtain rfl : s = s' := updateMakerSwapStatus_error hu
    rw [after_of_error hu]
    cases hl : s.makerSwaps.lookup paymentHash with
    | none => exact writes_of_keepsSwaps hs hl (.refl s)
    | some swap => cases hu.symm.trans (updateMakerSwapStatus_of_lookup now hl hs)

theorem writes_updateTakerSwapStatus (hs : status ≠ .waiting) (s : Stores ContractId) :
    Writes ⟨true, paymentHash, status⟩ now s
      (after (updateTakerSwapStatus paymentHash status now : Fallible (Exit ε) _ Unit) s) := by
  cases hu : (updateTakerSwapStatus paymentHash status now : Fallible (Exit ε) _ Unit) s with
  | ok _ s' =>
    obtain ⟨swap, hl, -, rfl⟩ := updateTakerSwapStatus_eq_ok_iff.mp hu
    rw [after_of_ok hu]
    exact writes_saveTakerSwaps (hl ▸ stored_withStatus hs)
  | error e s' =>
    obtain rfl : s = s' := updateTakerSwapStatus_error hu
    rw [after_of_error hu]
    cases hl : s.takerSwaps.lookup paymentHash with
    | none => exact writes_of_keepsSwaps hs hl (.refl s)
    | some swap => cases hu.symm.trans (updateTakerSwapStatus_of_lookup now hl hs)

theorem keepsSwaps_upsertInboundPayment (preimage : Option PaymentPreimage)
    (secret : Option PaymentSecret) (amtMsat : Option Nat) (payeePubkey : PublicKey)
    (status : HTLCStatus) (s : Stores ContractId) :
    s.KeepsSwaps (s.upsertInboundPayment paymentHash status preimage secret amtMsat payeePubkey
      now) := by
  rw [upsertInboundPayment]
  split <;> exact keepsSwaps_of_eq rfl rfl

theorem keepsSwaps_updateOutboundPayment (paymentId : PaymentId) (status : HTLCStatus)
    (preimage : Option PaymentPreimage) (s : Stores ContractId) :
    s.KeepsSwaps (after (discard (updateOutboundPayment paymentId status preimage now) :
      Fallible (Exit ε) _ Unit) s) := by
  rw [after_discard]
  refine after_of_unchanged (.refl s) (fun _ s' hu => ?_) fun _ _ hu =>
    updateOutboundPayment_error hu
  obtain ⟨_, -, -, rfl⟩ := updateOutboundPayment_eq_ok_iff.mp hu
  exact keepsSwaps_of_eq rfl rfl

theorem keepsSwaps_updateOutboundPaymentStatus (paymentId : PaymentId) (status : HTLCStatus)
    (s : Stores ContractId) :
    s.KeepsSwaps (after (updateOutboundPaymentStatus paymentId status now :
      Fallible (Exit ε) _ Unit) s) := by
  refine after_of_unchanged (.refl s) (fun _ s' hu => ?_) fun _ _ hu =>
    updateOutboundPaymentStatus_error hu
  obtain ⟨_, -, rfl⟩ := updateOutboundPaymentStatus_eq_ok_iff.mp hu
  exact keepsSwaps_of_eq rfl rfl

end Stores

/-! ### The handlers -/

section Handlers

open Stores

/-- The write of an event about a payment, where there is a swap under its hash. -/
def PaymentEvent.swapWrite : PaymentEvent → SwapWrite
  | .paymentClaimed paymentHash _ _ _ => ⟨false, paymentHash, .succeeded⟩
  | .paymentSent _ paymentHash _ => ⟨false, paymentHash, .succeeded⟩
  | .paymentForwarded _ _ _ _ paymentHash => ⟨true, paymentHash, .succeeded⟩

theorem lookup_of_not_isMakerSwap {s : Stores ContractId} {paymentHash : PaymentHash}
    (h : ¬s.isMakerSwap paymentHash = true) : s.swap? false paymentHash = none := by
  simpa [isMakerSwap, swap?] using h

/-- The swap takes the status if the maker has one, and the stored swaps stay
as they are where the payment is none of a swap. -/
theorem writes_makerSwap_or {s : Stores ContractId} {paymentHash : PaymentHash}
    {status : SwapStatus} {now : Nat} {x : Fallible (Exit ε) (Stores ContractId) Unit}
    (hs : status ≠ .waiting) (hx : s.KeepsSwaps (after x s)) :
    Writes ⟨false, paymentHash, status⟩ now s
      (after (if s.isMakerSwap paymentHash then updateMakerSwapStatus paymentHash status now
        else x) s) := by
  by_cases hmaker : s.isMakerSwap paymentHash = true
  · rw [if_pos hmaker]
    exact writes_updateMakerSwapStatus hs s
  · rw [if_neg hmaker]
    exact writes_of_keepsSwaps hs (lookup_of_not_isMakerSwap hmaker) hx

theorem PaymentEvent.writes_recordOutcome (ev : PaymentEvent) (now : Nat) (s : Stores ContractId) :
    Writes ev.swapWrite now s (after (ev.recordOutcome now) s) := by
  have hs : SwapStatus.succeeded ≠ .waiting := by decide
  cases ev with
  | paymentClaimed paymentHash purpose amountMsat receiverNodeId =>
    rw [recordOutcome, after_bind_of_ok (get_apply s)]
    refine writes_makerSwap_or hs ?_
    cases receiverNodeId with
    | none =>
      rw [after_bind_of_error (expect_none _ s)]
      exact .refl s
    | some receiver =>
      rw [after_bind_of_ok (expect_some receiver _ s)]
      exact keepsSwaps_upsertInboundPayment _ _ _ _ _ _
  | paymentSent paymentPreimage paymentHash paymentId =>
    rw [recordOutcome, after_bind_of_ok (get_apply s)]
    refine writes_makerSwap_or hs ?_
    cases paymentId with
    | none =>
      rw [after_bind_of_error (expect_none _ s)]
      exact .refl s
    | some paymentId =>
      rw [after_bind_of_ok (expect_some paymentId _ s)]
      exact keepsSwaps_updateOutboundPayment _ _ _ _
  | paymentForwarded _ _ _ _ paymentHash =>
    rw [recordOutcome, after_bind_of_ok (get_apply s)]
    by_cases htaker : s.isTakerSwap paymentHash = true
    · rw [if_pos htaker]
      exact writes_updateTakerSwapStatus hs s
    · rw [if_neg htaker]
      refine writes_of_keepsSwaps hs ?_ (.refl s)
      simpa [isTakerSwap, swap?] using htaker

/-- The outcome is recorded once the amounts in these files have been moved. -/
def PaymentEvent.writeOn (ev : PaymentEvent) (dir : LdkDataDir ContractId) : Option SwapWrite :=
  match ev.updateAmounts dir with
  | .ok .. => some ev.swapWrite
  | .error .. => none

theorem changesBy_payment (ev : PaymentEvent) (now : Nat) (n : Node ContractId) :
    ChangesBy (ev.writeOn n.ldkDataDir) now n.stores (after (ev.handle now) n).stores := by
  rw [PaymentEvent.writeOn]
  cases hd : ev.updateAmounts n.ldkDataDir with
  | ok _ dir =>
    rw [PaymentEvent.handle, after_bind_of_ok (onLdkDataDir_of_ok hd), onStores, after_zoom]
    exact ev.writes_recordOutcome now n.stores
  | error e dir =>
    rw [PaymentEvent.handle, after_bind_of_error (onLdkDataDir_of_error hd)]
    exact .refl _

/-- The write of a failed payment, if it has a hash. -/
def failedWrite (paymentHash : Option PaymentHash) : Option SwapWrite :=
  paymentHash.map fun hash => ⟨false, hash, .failed⟩

theorem changesBy_paymentFailed (now : Nat) (paymentHash : Option PaymentHash)
    (paymentId : PaymentId) (s : Stores ContractId) :
    ChangesBy (failedWrite paymentHash) now s
      (after (PaymentEvent.paymentFailed now paymentHash paymentId) s) := by
  rw [PaymentEvent.paymentFailed, after_bind_of_ok (get_apply s)]
  cases paymentHash with
  | none => exact keepsSwaps_updateOutboundPaymentStatus _ _ _
  | some hash =>
    exact writes_makerSwap_or (by decide) (keepsSwaps_updateOutboundPaymentStatus _ _ _)

/-- The write of a request that goes through a copied swap. -/
def listedWrite (now : Nat) (paymentHash : PaymentHash) (ofTaker : Bool)
    (swapData : SwapData ContractId) : Option SwapWrite :=
  match listedStatus now swapData with
  | .ok status => if status = swapData.status then none else some ⟨ofTaker, paymentHash, status⟩
  | .error _ => none

theorem listedStatus_ne_waiting {now : Nat} {swapData : SwapData ContractId} {status : SwapStatus}
    (h : listedStatus now swapData = .ok status) (hne : status ≠ swapData.status) :
    status ≠ .waiting := by
  rintro rfl
  rw [listedStatus] at h
  split at h
  · cases h
  · split at h
    · rename_i hpending
      split at h
      · cases h
      · have := Except.ok.inj h
        split at this
        · cases this
        · exact hne this.symm
    · exact hne (Except.ok.inj h).symm

theorem changesBy_mapSwap (now : Nat) (paymentHash : PaymentHash) (swapData : SwapData ContractId)
    (ofTaker : Bool) (s : Stores ContractId) :
    ChangesBy (listedWrite now paymentHash ofTaker swapData) now s
      (after (mapSwap now paymentHash swapData ofTaker) s) := by
  rw [mapSwap, listedWrite]
  cases hst : listedStatus now swapData with
  | error exit =>
    rw [after_bind_of_error (attempt_error exit s)]
    exact .refl s
  | ok status =>
    rw [after_bind_of_ok (attempt_ok status s)]
    by_cases hne : status = swapData.status
    · simp only [hne, ne_eq, not_true_eq_false, if_false, if_true]
      exact .refl s
    · simp only [hne, ne_eq, not_false_eq_true, if_false, if_true]
      have hs := listedStatus_ne_waiting hst hne
      cases ofTaker with
      | false => exact writes_updateMakerSwapStatus hs s
      | true => exact writes_updateTakerSwapStatus hs s

theorem changesBy_compareHtlc [DecidableEq ContractId] (reply : InterceptReply ContractId)
    (now : Nat) (e : HTLCIntercepted ContractId) (n : Node ContractId) :
    ChangesBy none now n.stores (after (e.compareHtlc reply) n).stores := by
  have hfail : ∀ held n, (after (e.failHtlc reply held) n).stores = n.stores := fun held n => by
    rw [HTLCIntercepted.failHtlc, after_callIntercept]
  have : (after (e.compareHtlc reply) n).stores = n.stores := by
    rw [HTLCIntercepted.compareHtlc]
    by_cases ha : e.isSwap = true ∨
        reply n.interceptCalls (.failInterceptedHtlc e.interceptId) = true
    · rw [after_bind_of_ok (HTLCIntercepted.failUnlessSwap_of_answered ha),
        after_bind_of_ok (get_apply _)]
      cases hf : e.swapLegs { n with interceptCalls := n.interceptCalls ++ e.callsBefore } with
      | error exit => rw [after_bind_of_error (attempt_error exit _)]
      | ok legs =>
        rw [after_bind_of_ok (attempt_ok legs _)]
        cases n.stores.takerSwaps.lookup e.paymentHash with
        | none =>
          exact (congrArg Node.stores (after_bind_attempt _ (fun _ => .ok none) _)).trans
            (hfail _ _)
        | some swap => rfl
    · obtain ⟨hs, hr⟩ := not_or.mp ha
      have hstop : e.failUnlessSwap reply n = .error
          (.panic none "called `Result::unwrap()` on an `Err` value")
          { n with
            interceptCalls := n.interceptCalls ++ [.failInterceptedHtlc e.interceptId] } := by
        simp [HTLCIntercepted.failUnlessSwap, hs, HTLCIntercepted.failHtlc, callIntercept_apply, hr]
      rw [after_bind_of_error hstop]
  rw [this]
  exact .refl _

/-- The status a swap takes when its HTLC has been compared with it. -/
def comparedStatus (fail : Bool) : SwapStatus := if fail then .failed else .pending

/-- A program on the stores, followed by one that keeps them. -/
theorem stores_after_onStores_bind {α : Type} {x : Fallible ε (Stores ContractId) Unit}
    {f : Unit → Fallible ε (Node ContractId) α} (hf : ∀ n, (after (f ()) n).stores = n.stores)
    (n : Node ContractId) : (after (onStores x >>= f) n).stores = after x n.stores := by
  cases hx : x n.stores with
  | ok _ s => rw [after_bind_of_ok (onStores_of_ok hx), hf, after_of_ok hx]
  | error e s =>
    rw [after_bind_of_error (show onStores x n = .error e _ from zoom_of_error hx),
      after_of_error hx]

theorem changesBy_decideHtlc (reply : InterceptReply ContractId) (now : Nat)
    (e : HTLCIntercepted ContractId) (legs : SwapLegs ContractId) (fail : Bool)
    (n : Node ContractId) :
    ChangesBy (some ⟨true, e.paymentHash, comparedStatus fail⟩) now n.stores
      (after (e.decideHtlc reply now legs fail) n).stores := by
  have hcall : ∀ held message call n, (after (callIntercept reply held message call :
      Fallible (Exit ReplayEvent) (Node ContractId) Unit) n).stores = n.stores := by
    intro held message call n
    rw [after_callIntercept]
  rw [HTLCIntercepted.decideHtlc, comparedStatus]
  cases fail with
  | true =>
    rw [if_pos rfl, if_pos rfl, stores_after_onStores_bind (hcall _ _ _)]
    exact writes_updateTakerSwapStatus (by decide) n.stores
  | false =>
    rw [if_neg (by simp), if_neg (by simp), stores_after_onStores_bind (hcall _ _ _)]
    exact writes_updateTakerSwapStatus (by decide) n.stores

/-! ### The requests -/

/-- The write of a handed-over payment that is refused. -/
def refusedWrite (ln : Lightning ContractId) (paymentHash : PaymentHash)
    (payment : SpontaneousPayment ContractId) : Option SwapWrite :=
  match ln.sendSpontaneousPayment payment with
  | .ok () => none
  | .error _ => some ⟨false, paymentHash, .failed⟩

theorem changesBy_sendPayment (ln : Lightning ContractId) (paymentHash : PaymentHash) (now : Nat)
    (payment : SpontaneousPayment ContractId) (n : Node ContractId) :
    ChangesBy (refusedWrite ln paymentHash payment) now n.stores
      (after (sendPayment ln paymentHash now payment) n).stores := by
  rw [sendPayment, after_bind_of_ok (modify_apply _ n), refusedWrite]
  cases ln.sendSpontaneousPayment payment with
  | ok _ => exact .refl _
  | error e =>
    dsimp only
    rw [stores_after_onStores_bind fun _ => rfl]
    exact writes_updateMakerSwapStatus (by decide) n.stores

variable [DecidableEq ContractId] [ContractIdText ContractId]

def MakerInitRequest.offerWrite
    (createInboundPayment : Nat → Nat → Option (PaymentHash × PaymentSecret)) (now : Nat)
    (req : MakerInitRequest) (n : Node ContractId) : Option SwapWrite :=
  match req.offer createInboundPayment now n with
  | .ok offer => some ⟨false, offer.paymentHash, .waiting⟩
  | .error _ => none

theorem changesBy_makerInit
    (createInboundPayment : Nat → Nat → Option (PaymentHash × PaymentSecret)) (now : Nat)
    (req : MakerInitRequest) (n : Node ContractId) :
    ChangesBy (req.offerWrite createInboundPayment now n) now n.stores
      (after (makerInit createInboundPayment now req) n).stores := by
  rw [after_makerInit, MakerInitRequest.offerWrite]
  cases req.offer createInboundPayment now n with
  | error exit => exact .refl _
  | ok offer => exact writes_addMakerSwap n.stores offer.swapInfo now

/-- The write of a request to accept a swap. -/
def takerWrite (now : Nat) (swapstring : String) (n : Node ContractId) : Option SwapWrite :=
  match (SwapString.fromStr swapstring : Except String (SwapString ContractId)) with
  | .error _ => none
  | .ok req =>
    if now ≤ req.swapInfo.expiry then
      match checkFromAsset req.swapInfo n with
      | .ok () => some ⟨true, req.paymentHash, .waiting⟩
      | .error _ => none
    else none

theorem changesBy_taker (now : Nat) (swapstring : String) (n : Node ContractId) :
    ChangesBy (takerWrite now swapstring n) now n.stores
      (after (taker now swapstring) n).stores := by
  rw [takerWrite]
  cases hp : (SwapString.fromStr swapstring : Except String (SwapString ContractId)) with
  | error e =>
    simp only [taker, hp]
    exact .refl _
  | ok req =>
    by_cases hle : now ≤ req.swapInfo.expiry
    swap
    · rw [after_taker_of_refused hp fun h => hle h.1]
      simp only [if_neg hle]
      exact .refl _
    cases hc : checkFromAsset req.swapInfo n with
    | error exit =>
      rw [after_taker_of_refused hp fun h => by cases hc.symm.trans h.2]
      simp only [if_pos hle, hc]
      exact .refl _
    | ok _ =>
      rw [after_taker_of_accepts hp hle hc]
      simp only [if_pos hle, hc]
      exact writes_addTakerSwap n.stores req.swapInfo now

/-- The write of a request to execute a swap, before it hands a payment over. -/
def MakerExecuteRequest.startWrite (ln : Lightning ContractId) (now : Nat)
    (req : MakerExecuteRequest) (n : Node ContractId) : Option SwapWrite :=
  match req.parse ln with
  | .error _ => none
  | .ok parsed =>
    if now > parsed.swapstring.swapInfo.expiry then
      some ⟨false, parsed.swapstring.paymentHash, .expired⟩
    else
      match preparePayment ln parsed n.ldkDataDir with
      | .ok _ => some ⟨false, parsed.swapstring.paymentHash, .pending⟩
      | .error _ => none

theorem changesBy_startMakerExecute (ln : Lightning ContractId) (now : Nat)
    (req : MakerExecuteRequest) (n : Node ContractId) :
    ChangesBy (req.startWrite ln now n) now n.stores
      (after (startMakerExecute ln now req) n).stores := by
  rw [startMakerExecute, MakerExecuteRequest.startWrite]
  cases req.parse ln with
  | error exit =>
    rw [after_bind_of_error (attempt_error exit n)]
    exact .refl _
  | ok parsed =>
    rw [after_bind_of_ok (attempt_ok parsed n)]
    dsimp only
    by_cases hlate : now > parsed.swapstring.swapInfo.expiry
    · rw [if_pos hlate, if_pos hlate, expireOffer, bind_assoc,
        stores_after_onStores_bind fun _ => rfl]
      exact writes_updateMakerSwapStatus (by decide) n.stores
    rw [if_neg hlate, if_neg hlate, after_bind_of_ok (get_apply n)]
    cases preparePayment ln parsed n.ldkDataDir with
    | error exit =>
      rw [after_bind_of_error (attempt_error exit n)]
      exact .refl _
    | ok payment =>
      rw [after_bind_of_ok (attempt_ok payment n), startPayment, bind_assoc,
        after_bind_of_ok (modify_apply _ n), stores_after_onStores_bind fun _ => rfl]
      exact writes_updateMakerSwapStatus (by decide) n.stores

end Handlers

end RgbLightningNode
