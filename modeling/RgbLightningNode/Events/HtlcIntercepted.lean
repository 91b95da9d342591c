import RgbLightningNode.Node

/-!
# Intercepted HTLCs

A taker's node intercepts the HTLC of a swap, compares it with the swap it has
accepted under the payment hash, and forwards it or fails it.
-/

namespace RgbLightningNode

open Fallible Node InterceptCall

structure HTLCIntercepted (ContractId : Type) where
  isSwap : Bool
  paymentHash : PaymentHash
  interceptId : InterceptId
  inboundAmountMsat : Nat
  expectedOutboundAmountMsat : Nat
  inboundRgbAmount : Option Nat
  expectedOutboundRgbPayment : Option (ContractId × Nat)
  requestedNextHopScid : Nat
  prevShortChannelId : Nat

/-- What the handler reads about the channels of the two legs. -/
structure SwapLegs (ContractId : Type) where
  inboundContract : Option ContractId
  outboundContract : Option ContractId
  nextNodeId : PublicKey
  deriving DecidableEq

namespace HTLCIntercepted

variable {ContractId : Type}

/-- Look up the channels of the two legs and their pending RGB info. -/
def swapLegs (e : HTLCIntercepted ContractId) (n : Node ContractId) :
    Except (Exit ReplayEvent) (SwapLegs ContractId) := do
  let inboundChannel ← orPanic (n.findChannel e.prevShortChannelId)
    "Should always be a valid channel"
  let outboundChannel ← orPanic (n.findChannel e.requestedNextHopScid)
    "Should always be a valid channel"
  let inboundRgbInfo ← n.ldkDataDir.getRgbChannelInfoOptional inboundChannel.channelId true
  let outboundRgbInfo ← n.ldkDataDir.getRgbChannelInfoOptional outboundChannel.channelId true
  return ⟨inboundRgbInfo.map RgbInfo.contractId, outboundRgbInfo.map RgbInfo.contractId,
    outboundChannel.counterparty⟩

def failHtlc (reply : InterceptReply ContractId) (held : Option Mutex)
    (e : HTLCIntercepted ContractId) : Fallible (Exit ReplayEvent) (Node ContractId) Unit :=
  callIntercept reply held "called `Result::unwrap()` on an `Err` value"
    (failInterceptedHtlc e.interceptId)

/-- The call that forwards the HTLC. -/
def forwardCall (e : HTLCIntercepted ContractId) (legs : SwapLegs ContractId) :
    InterceptCall ContractId :=
  forwardInterceptedHtlc e.interceptId e.requestedNextHopScid legs.nextNodeId
    e.expectedOutboundAmountMsat e.expectedOutboundRgbPayment

/-- An HTLC that is not a swap is failed, and the handler continues. -/
def failUnlessSwap (reply : InterceptReply ContractId) (e : HTLCIntercepted ContractId) :
    Fallible (Exit ReplayEvent) (Node ContractId) Unit :=
  if e.isSwap then pure () else failHtlc reply none e

/-- The calls made before the HTLC is compared with anything. -/
def callsBefore (e : HTLCIntercepted ContractId) : List (InterceptCall ContractId) :=
  if e.isSwap then [] else [failInterceptedHtlc e.interceptId]

theorem callsBefore_not_forward (e : HTLCIntercepted ContractId) :
    ∀ call ∈ e.callsBefore, call.isForward = false := by
  unfold callsBefore
  split <;> simp [isForward]

theorem failUnlessSwap_of_answered {reply : InterceptReply ContractId}
    {e : HTLCIntercepted ContractId} {n : Node ContractId}
    (h : e.isSwap = true ∨ reply n.interceptCalls (failInterceptedHtlc e.interceptId) = true) :
    failUnlessSwap reply e n =
      .ok () { n with interceptCalls := n.interceptCalls ++ e.callsBefore } := by
  by_cases hs : e.isSwap = true
  · simp [failUnlessSwap, callsBefore, hs]
  · have hr := h.resolve_left hs
    simp [failUnlessSwap, callsBefore, hs, failHtlc, callIntercept_apply, hr]

def checkedSub (a b : Nat) : Option Nat := if b ≤ a then some (a - b) else none

variable [DecidableEq ContractId]

/-- Whether the HTLC differs from the accepted swap in a field that the branch
for its shape compares. -/
def swapMismatch (info : SwapInfo ContractId) (e : HTLCIntercepted ContractId)
    (legs : SwapLegs ContractId) : Bool :=
  if info.isFromBtc then
    let netMsatDiff := checkedSub e.expectedOutboundAmountMsat e.inboundAmountMsat
    -- the RGB payment that goes out is not looked at
    e.inboundRgbAmount != some info.qtyTo || legs.inboundContract != info.toAsset ||
      netMsatDiff != some info.qtyFrom
  else if info.isToBtc then
    -- saturating_sub: an outbound amount above the inbound one counts as no difference
    let netMsatDiff := e.inboundAmountMsat - e.expectedOutboundAmountMsat
    e.expectedOutboundRgbPayment.map Prod.snd != some info.qtyFrom ||
      legs.outboundContract != info.fromAsset || netMsatDiff != info.qtyTo
  else
    let netMsatDiff := checkedSub e.inboundAmountMsat e.expectedOutboundAmountMsat
    netMsatDiff != some 0 ||
      e.expectedOutboundRgbPayment.map Prod.snd != some info.qtyFrom ||
      legs.outboundContract != info.fromAsset ||
      e.inboundRgbAmount != some info.qtyTo || legs.inboundContract != info.toAsset

/-- Compare the HTLC with the accepted swap, and forward or fail it. -/
def settle (reply : InterceptReply ContractId) (now : Nat) (e : HTLCIntercepted ContractId) :
    Fallible (Exit ReplayEvent) (Node ContractId) Unit := do
  let n ← get
  let legs ← attempt (e.swapLegs n)
  match n.stores.takerSwaps.lookup e.paymentHash with
  | none => failHtlc reply (some .takerSwaps) e
  | some whitelistSwap =>
    -- neither the status nor the expiry of the swap is read
    if swapMismatch whitelistSwap.swapInfo e legs then do
      onStores (Stores.updateTakerSwapStatus e.paymentHash .failed now)
      failHtlc reply none e
    else do
      onStores (Stores.updateTakerSwapStatus e.paymentHash .pending now)
      callIntercept reply none "Forward should be valid" (e.forwardCall legs)

def handle (reply : InterceptReply ContractId) (now : Nat) (e : HTLCIntercepted ContractId) :
    Fallible (Exit ReplayEvent) (Node ContractId) Unit := do
  failUnlessSwap reply e
  settle reply now e

/-! ### The handler in two parts

The lock on the swaps is given back after the comparison, so a request may
write to them before the outcome is recorded. -/

/-- The handler up to the comparison, and what it has found out. -/
def compareHtlc (reply : InterceptReply ContractId) (e : HTLCIntercepted ContractId) :
    Fallible (Exit ReplayEvent) (Node ContractId) (Option (SwapLegs ContractId × Bool)) := do
  failUnlessSwap reply e
  let n ← get
  let legs ← attempt (e.swapLegs n)
  match n.stores.takerSwaps.lookup e.paymentHash with
  | none => do
    failHtlc reply (some .takerSwaps) e
    return none
  | some whitelistSwap => return some (legs, swapMismatch whitelistSwap.swapInfo e legs)

/-- Record the outcome of the comparison, and forward or fail the HTLC. -/
def decideHtlc (reply : InterceptReply ContractId) (now : Nat) (e : HTLCIntercepted ContractId)
    (legs : SwapLegs ContractId) (fail : Bool) :
    Fallible (Exit ReplayEvent) (Node ContractId) Unit :=
  if fail then do
    onStores (Stores.updateTakerSwapStatus e.paymentHash .failed now)
    failHtlc reply none e
  else do
    onStores (Stores.updateTakerSwapStatus e.paymentHash .pending now)
    callIntercept reply none "Forward should be valid" (e.forwardCall legs)

theorem handle_eq (reply : InterceptReply ContractId) (now : Nat)
    (e : HTLCIntercepted ContractId) :
    handle reply now e = compareHtlc reply e >>= fun compared => match compared with
      | none => pure ()
      | some (legs, fail) => decideHtlc reply now e legs fail := by
  rw [handle, compareHtlc, bind_assoc]
  refine bind_congr fun _ => ?_
  rw [settle, bind_assoc]
  refine bind_congr fun n => ?_
  rw [bind_assoc]
  refine bind_congr fun legs => ?_
  cases n.stores.takerSwaps.lookup e.paymentHash with
  | none => simp only [bind_assoc, pure_bind, bind_pure_unit]
  | some whitelistSwap =>
    simp only [pure_bind, decideHtlc]

/-! ### What handling an HTLC does -/

/-- The HTLC reaches a forward, under an accepted swap. -/
structure Forwards (reply : InterceptReply ContractId) (e : HTLCIntercepted ContractId)
    (n : Node ContractId) (swap : SwapData ContractId) (legs : SwapLegs ContractId) : Prop where
  answered : e.isSwap = true ∨ reply n.interceptCalls (failInterceptedHtlc e.interceptId) = true
  found : e.swapLegs n = .ok legs
  listed : n.stores.takerSwaps.lookup e.paymentHash = some swap
  agrees : swapMismatch swap.swapInfo e legs = false

/-- The stores after the accepted swap has taken a status. -/
def marked (n : Node ContractId) (e : HTLCIntercepted ContractId) (swap : SwapData ContractId)
    (status : SwapStatus) (now : Nat) : Stores ContractId :=
  n.stores.saveTakerSwaps
    (n.stores.takerSwaps.insert e.paymentHash (swap.withStatus status now))

/-- What handling an HTLC that is not forwarded can leave behind: some failed
calls, and the accepted swap failed or as it was. -/
structure Rejected (now : Nat) (e : HTLCIntercepted ContractId) (n n' : Node ContractId) :
    Prop where
  calls : ∃ fails, n'.interceptCalls = n.interceptCalls ++ fails ∧
    ∀ call ∈ fails, call.isForward = false
  stores : n'.stores = n.stores ∨ ∃ swap,
    n.stores.takerSwaps.lookup e.paymentHash = some swap ∧
      n'.stores = marked n e swap .failed now
  ldkDataDir : n'.ldkDataDir = n.ldkDataDir
  channels : n'.channels = n.channels

variable {reply : InterceptReply ContractId} {now : Nat} {e : HTLCIntercepted ContractId}
  {n : Node ContractId} {swap : SwapData ContractId} {legs : SwapLegs ContractId}

theorem after_handle_of_not_answered
    (h : ¬(e.isSwap = true ∨
      reply n.interceptCalls (failInterceptedHtlc e.interceptId) = true)) :
    after (handle reply now e) n =
      { n with interceptCalls := n.interceptCalls ++ [failInterceptedHtlc e.interceptId] } := by
  obtain ⟨hs, hr⟩ := not_or.mp h
  have hstop : failUnlessSwap reply e n = .error
      (.panic none "called `Result::unwrap()` on an `Err` value")
      { n with interceptCalls := n.interceptCalls ++ [failInterceptedHtlc e.interceptId] } := by
    simp [failUnlessSwap, hs, failHtlc, callIntercept_apply, hr]
  exact after_bind_of_error hstop

theorem settle_of_forwards (hlegs : e.swapLegs n = .ok legs)
    (hl : n.stores.takerSwaps.lookup e.paymentHash = some swap)
    (hm : swapMismatch swap.swapInfo e legs = false) :
    after (settle reply now e) n =
      { n with
        stores := marked n e swap .pending now
        interceptCalls := n.interceptCalls ++ [e.forwardCall legs] } := by
  have hu := onStores_of_ok (n := n)
    (Stores.updateTakerSwapStatus_of_lookup (ε := ReplayEvent) now hl
      (show SwapStatus.pending ≠ .waiting by decide))
  rw [settle, after_bind_of_ok (get_apply n)]
  rw [after_bind_of_ok (a := legs) (t := n) (by rw [hlegs]; rfl)]
  simp only [hl, hm, Bool.false_eq_true, if_false]
  rw [after_bind_of_ok hu, after_callIntercept]
  rfl

theorem settle_of_mismatch (hlegs : e.swapLegs n = .ok legs)
    (hl : n.stores.takerSwaps.lookup e.paymentHash = some swap)
    (hm : swapMismatch swap.swapInfo e legs = true) :
    after (settle reply now e) n =
      { n with
        stores := marked n e swap .failed now
        interceptCalls := n.interceptCalls ++ [failInterceptedHtlc e.interceptId] } := by
  have hu := onStores_of_ok (n := n)
    (Stores.updateTakerSwapStatus_of_lookup (ε := ReplayEvent) now hl
      (show SwapStatus.failed ≠ .waiting by decide))
  rw [settle, after_bind_of_ok (get_apply n)]
  rw [after_bind_of_ok (a := legs) (t := n) (by rw [hlegs]; rfl)]
  simp only [hl, hm, if_true]
  rw [after_bind_of_ok hu, failHtlc, after_callIntercept]
  rfl

theorem after_handle_of_forwards (h : Forwards reply e n swap legs) :
    after (handle reply now e) n =
      { n with
        stores := marked n e swap .pending now
        interceptCalls := n.interceptCalls ++ (e.callsBefore ++ [e.forwardCall legs]) } := by
  rw [handle, after_bind_of_ok (failUnlessSwap_of_answered h.answered),
    settle_of_forwards (n := { n with interceptCalls := n.interceptCalls ++ e.callsBefore })
      h.found h.listed h.agrees, List.append_assoc]
  rfl

/-- An HTLC that passes no whitelist comparison is not forwarded. -/
theorem settle_rejects (h : ∀ swap legs, e.swapLegs n = .ok legs →
      n.stores.takerSwaps.lookup e.paymentHash = some swap →
      swapMismatch swap.swapInfo e legs = true) :
    Rejected now e n (after (settle reply now e) n) := by
  rcases hlegs : e.swapLegs n with exit | legs
  · rw [settle, after_bind_of_ok (get_apply n), hlegs,
      after_bind_of_error (attempt_error exit n)]
    exact ⟨⟨[], by simp⟩, .inl rfl, rfl, rfl⟩
  rcases hl : n.stores.takerSwaps.lookup e.paymentHash with _ | swap
  · rw [settle, after_bind_of_ok (get_apply n), hlegs, after_bind_of_ok (attempt_ok legs n)]
    simp only [hl, failHtlc, after_callIntercept]
    exact ⟨⟨[_], rfl, by simp [isForward]⟩, .inl rfl, rfl, rfl⟩
  · rw [settle_of_mismatch hlegs hl (h swap legs hlegs hl)]
    exact ⟨⟨[_], rfl, by simp [isForward]⟩, .inr ⟨swap, hl, rfl⟩, rfl, rfl⟩

theorem after_handle_of_not_forwards (h : ∀ swap legs, ¬Forwards reply e n swap legs) :
    Rejected now e n (after (handle reply now e) n) := by
  by_cases ha : e.isSwap = true ∨
      reply n.interceptCalls (failInterceptedHtlc e.interceptId) = true
  -- the HTLC reaches the whitelist: the calls before it are no forwards either
  · have hr : Rejected now e { n with interceptCalls := n.interceptCalls ++ e.callsBefore }
        (after (settle reply now e) _) := settle_rejects fun swap legs hf hl => by
      by_contra hm
      exact h swap legs ⟨ha, hf, hl, by simpa using hm⟩
    rw [handle, after_bind_of_ok (failUnlessSwap_of_answered ha)]
    obtain ⟨⟨fails, hcalls, hfails⟩, hstores, hdir, hchannels⟩ := hr
    refine ⟨⟨e.callsBefore ++ fails, by rw [hcalls, List.append_assoc], ?_⟩, hstores, hdir,
      hchannels⟩
    intro call hc
    rcases List.mem_append.mp hc with hb | hf
    · exact callsBefore_not_forward e call hb
    · exact hfails call hf
  · rw [after_handle_of_not_answered ha]
    exact ⟨⟨[_], rfl, by simp [isForward]⟩, .inl rfl, rfl, rfl⟩

end HTLCIntercepted

end RgbLightningNode
