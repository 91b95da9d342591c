import RgbLightningNode.Events.HtlcIntercepted

/-!
# Resolving intercepted HTLCs

The channel manager holds an intercepted HTLC until it is failed or forwarded,
takes the first call for its id, and answers every later one with an error,
which the handler unwraps.
-/

namespace RgbLightningNode

open Fallible Node InterceptCall

namespace InterceptCall

variable {ContractId : Type}

/-- The intercepted HTLC a call is about. -/
def interceptId : InterceptCall ContractId → InterceptId
  | failInterceptedHtlc id => id
  | forwardInterceptedHtlc id .. => id

end InterceptCall

variable {ContractId : Type}

/-- No call has been made for the HTLC yet. -/
def Held (calls : List (InterceptCall ContractId)) (id : InterceptId) : Prop :=
  ∀ call ∈ calls, call.interceptId ≠ id

instance (calls : List (InterceptCall ContractId)) (id : InterceptId) :
    Decidable (Held calls id) :=
  inferInstanceAs (Decidable (∀ call ∈ calls, call.interceptId ≠ id))

/-- A channel manager that takes the first call for an HTLC and no other. -/
def AcceptsFirst (reply : InterceptReply ContractId) : Prop :=
  ∀ calls call, reply calls call = true ↔ Held calls call.interceptId

/-- The channel manager that refuses a call for nothing else. -/
def acceptFirst : InterceptReply ContractId :=
  fun calls call => decide (Held calls call.interceptId)

theorem acceptFirst_acceptsFirst : AcceptsFirst (acceptFirst : InterceptReply ContractId) := by
  intro calls call
  exact decide_eq_true_iff

theorem not_held_append (calls : List (InterceptCall ContractId))
    (call : InterceptCall ContractId) : ¬Held (calls ++ [call]) call.interceptId := by
  intro h
  exact h call (by simp) rfl

/-- The channel of a leg is ours, and a coloured one has its pending info file. -/
def LegKnown (n : Node ContractId) (scid : Nat) : Prop :=
  ∃ channel, n.findChannel scid = some channel ∧
    (n.ldkDataDir.isChannelRgb channel.channelId = true →
      (n.ldkDataDir.channelInfoPending.lookup channel.channelId.hex).isSome = true)

namespace LdkDataDir

theorem getRgbChannelInfoOptional_pending_isOk_iff {dir : LdkDataDir ContractId}
    {channelId : ChannelId} :
    (∃ info, dir.getRgbChannelInfoOptional (ε := ReplayEvent) channelId true = .ok info) ↔
      (dir.isChannelRgb channelId = true →
        (dir.channelInfoPending.lookup channelId.hex).isSome = true) := by
  rw [getRgbChannelInfoOptional]
  by_cases hrgb : dir.isChannelRgb channelId = true
  · cases hp : dir.channelInfoPending.lookup channelId.hex with
    | none => simp [hrgb, hp]
    | some info => simp [hrgb, hp]
  · simp [hrgb]

end LdkDataDir

namespace HTLCIntercepted

/-- The handler can read the channels of both legs. -/
theorem swapLegs_isOk_iff {e : HTLCIntercepted ContractId} {n : Node ContractId} :
    (∃ legs, e.swapLegs n = .ok legs) ↔
      LegKnown n e.prevShortChannelId ∧ LegKnown n e.requestedNextHopScid := by
  constructor
  · rintro ⟨legs, h⟩
    obtain ⟨inbound, hin, h⟩ := except_bind_eq_ok_iff.mp h
    obtain ⟨outbound, hout, h⟩ := except_bind_eq_ok_iff.mp h
    obtain ⟨inboundInfo, hinInfo, h⟩ := except_bind_eq_ok_iff.mp h
    obtain ⟨outboundInfo, houtInfo, -⟩ := except_bind_eq_ok_iff.mp h
    have found : ∀ {x : Option ChannelDetails} {channel message},
        orPanic (ε := ReplayEvent) x message = .ok channel → x = some channel := by
      intro x channel message hx
      cases x with
      | none => cases hx
      | some c => cases hx; rfl
    exact ⟨⟨inbound, found hin,
        LdkDataDir.getRgbChannelInfoOptional_pending_isOk_iff.mp ⟨_, hinInfo⟩⟩,
      ⟨outbound, found hout,
        LdkDataDir.getRgbChannelInfoOptional_pending_isOk_iff.mp ⟨_, houtInfo⟩⟩⟩
  · rintro ⟨⟨inbound, hin, hinRgb⟩, ⟨outbound, hout, houtRgb⟩⟩
    obtain ⟨inboundInfo, hinInfo⟩ :=
      LdkDataDir.getRgbChannelInfoOptional_pending_isOk_iff.mpr hinRgb
    obtain ⟨outboundInfo, houtInfo⟩ :=
      LdkDataDir.getRgbChannelInfoOptional_pending_isOk_iff.mpr houtRgb
    refine ⟨_, except_bind_eq_ok_iff.mpr ⟨inbound, by rw [hin]; rfl,
      except_bind_eq_ok_iff.mpr ⟨outbound, by rw [hout]; rfl,
        except_bind_eq_ok_iff.mpr ⟨inboundInfo, hinInfo,
          except_bind_eq_ok_iff.mpr ⟨outboundInfo, houtInfo, rfl⟩⟩⟩⟩⟩

variable [DecidableEq ContractId]

/-- The handler returns, having made one call for its HTLC and no other call. -/
def ResolvesOnce (reply : InterceptReply ContractId) (now : Nat) (e : HTLCIntercepted ContractId)
    (n : Node ContractId) : Prop :=
  (outcome (handle reply now e) n).1 = .ok () ∧
    ∃ call, call.interceptId = e.interceptId ∧
      (after (handle reply now e) n).interceptCalls = n.interceptCalls ++ [call]

variable {reply : InterceptReply ContractId} {now : Nat} {e : HTLCIntercepted ContractId}
  {n : Node ContractId} {legs : SwapLegs ContractId}

/-- Once the channels of the legs are read, the comparison ends in one call. -/
theorem settle_eq_callIntercept (reply : InterceptReply ContractId) (now : Nat)
    (hlegs : e.swapLegs n = .ok legs) :
    ∃ held message call stores, call.interceptId = e.interceptId ∧
      settle reply now e n =
        callIntercept reply held message call { n with stores := stores } := by
  cases hl : n.stores.takerSwaps.lookup e.paymentHash with
  | none =>
    refine ⟨some .takerSwaps, "called `Result::unwrap()` on an `Err` value",
      failInterceptedHtlc e.interceptId, n.stores, rfl, ?_⟩
    rw [settle, bind_of_ok (get_apply n), hlegs, bind_of_ok (attempt_ok legs n)]
    simp only [hl, failHtlc]
  | some swap =>
    have hu : ∀ status : SwapStatus, status ≠ .waiting →
        onStores (Stores.updateTakerSwapStatus e.paymentHash status now) n =
          .ok () { n with stores := marked n e swap status now } := fun status hs =>
      onStores_of_ok (Stores.updateTakerSwapStatus_of_lookup (ε := ReplayEvent) now hl hs)
    by_cases hm : swapMismatch swap.swapInfo e legs = true
    · refine ⟨none, "called `Result::unwrap()` on an `Err` value",
        failInterceptedHtlc e.interceptId, marked n e swap .failed now, rfl, ?_⟩
      rw [settle, bind_of_ok (get_apply n), hlegs, bind_of_ok (attempt_ok legs n)]
      simp only [hl, hm, if_true]
      rw [bind_of_ok (hu .failed (by decide)), failHtlc]
    · refine ⟨none, "Forward should be valid", e.forwardCall legs, marked n e swap .pending now,
        rfl, ?_⟩
      rw [settle, bind_of_ok (get_apply n), hlegs, bind_of_ok (attempt_ok legs n)]
      simp only [hl, hm, Bool.false_eq_true, if_false]
      rw [bind_of_ok (hu .pending (by decide))]

/-- Comparing a readable HTLC returns when no call was made for it before. -/
theorem outcome_settle_eq_ok_iff (hr : AcceptsFirst reply) :
    (outcome (settle reply now e) n).1 = .ok () ↔
      Held n.interceptCalls e.interceptId ∧ ∃ legs, e.swapLegs n = .ok legs := by
  cases hlegs : e.swapLegs n with
  | error exit =>
    have hstop : settle reply now e n = .error exit n := by
      rw [settle, bind_of_ok (get_apply n), hlegs, bind_of_error (attempt_error exit n)]
    simp [outcome, hstop]
  | ok legs =>
    obtain ⟨held, message, call, stores, hid, hcall⟩ :=
      settle_eq_callIntercept reply now hlegs
    rw [outcome, hcall, callIntercept_apply]
    have hiff := hr n.interceptCalls call
    rw [hid] at hiff
    by_cases hheld : Held n.interceptCalls e.interceptId
    · simp [hiff.mpr hheld, hheld]
    · simp [mt hiff.mp hheld, hheld]

/-- An HTLC that is no swap is failed, and then failed or forwarded again. -/
theorem handle_not_ok_of_not_swap (hr : AcceptsFirst reply) (hs : e.isSwap = false) :
    (outcome (handle reply now e) n).1 ≠ .ok () := by
  intro h
  obtain ⟨n', h⟩ := outcome_fst_eq_ok_iff.mp h
  obtain ⟨m, hfail, h⟩ := unit_bind_eq_ok_iff.mp h
  -- the first call is on record, so the channel manager takes no second one
  have hm : m.interceptCalls = n.interceptCalls ++ [failInterceptedHtlc e.interceptId] := by
    have : after (failUnlessSwap reply e) n = m := after_of_ok hfail
    rw [← this, failUnlessSwap, hs]
    simp only [Bool.false_eq_true, if_false, failHtlc, after_callIntercept]
  have hheld := ((outcome_settle_eq_ok_iff hr).mp (outcome_fst_eq_ok_iff.mpr ⟨n', h⟩)).1
  rw [hm] at hheld
  exact not_held_append _ (failInterceptedHtlc e.interceptId) hheld

theorem handle_of_swap (hs : e.isSwap = true) : handle reply now e = settle reply now e := by
  rw [handle, failUnlessSwap, hs]
  rfl

/-- The handler resolves the HTLC when it is a swap that nothing has resolved yet,
and the channels of both legs are known. -/
theorem resolvesOnce_iff (hr : AcceptsFirst reply) :
    ResolvesOnce reply now e n ↔
      e.isSwap = true ∧ Held n.interceptCalls e.interceptId ∧
        LegKnown n e.prevShortChannelId ∧ LegKnown n e.requestedNextHopScid := by
  rw [ResolvesOnce, ← swapLegs_isOk_iff]
  constructor
  · rintro ⟨hok, -⟩
    cases hs : e.isSwap with
    | false => exact absurd hok (handle_not_ok_of_not_swap hr hs)
    | true =>
      rw [handle_of_swap hs] at hok
      exact ⟨rfl, (outcome_settle_eq_ok_iff hr).mp hok⟩
  · rintro ⟨hs, hheld, legs, hlegs⟩
    rw [handle_of_swap hs]
    refine ⟨(outcome_settle_eq_ok_iff hr).mpr ⟨hheld, legs, hlegs⟩, ?_⟩
    obtain ⟨held, message, call, stores, hid, hcall⟩ :=
      settle_eq_callIntercept reply now hlegs
    refine ⟨call, hid, ?_⟩
    have hafter : after (settle reply now e) n =
        { n with stores := stores, interceptCalls := n.interceptCalls ++ [call] } := by
      rw [after, hcall]
      exact after_callIntercept reply held message call { n with stores := stores }
    rw [hafter]

/-- A node with a channel for each leg, and nothing resolved so far. -/
def twoLegs : Node Nat where
  stores := Stores.load ∅
  ldkDataDir := ⟨∅, ∅, []⟩
  channels := [⟨⟨Vector.replicate 32 1⟩, some 1, ⟨Vector.replicate 33 2⟩⟩,
    ⟨⟨Vector.replicate 32 2⟩, some 2, ⟨Vector.replicate 33 3⟩⟩]
  interceptCalls := []

/-- An HTLC over the two legs that is no swap. -/
def plainHtlc : HTLCIntercepted Nat where
  isSwap := false
  paymentHash := ⟨Vector.replicate 32 7⟩
  interceptId := ⟨Vector.replicate 32 9⟩
  inboundAmountMsat := 3000
  expectedOutboundAmountMsat := 3000
  inboundRgbAmount := none
  expectedOutboundRgbPayment := none
  requestedNextHopScid := 2
  prevShortChannelId := 1

theorem resolvesOnce_of_swap :
    @AcceptsFirst Nat acceptFirst ∧
      ResolvesOnce acceptFirst 5 { plainHtlc with isSwap := true } twoLegs :=
  ⟨acceptFirst_acceptsFirst, (resolvesOnce_iff acceptFirst_acceptsFirst).mpr
    ⟨rfl, by decide, ⟨_, rfl, by decide⟩, ⟨_, rfl, by decide⟩⟩⟩

/-- The HTLC is failed, and then failed again, which is a panic. -/
theorem resolves_twice :
    Held twoLegs.interceptCalls plainHtlc.interceptId ∧
      (after (handle acceptFirst 5 plainHtlc) twoLegs).interceptCalls =
        [failInterceptedHtlc plainHtlc.interceptId, failInterceptedHtlc plainHtlc.interceptId] ∧
      ¬ResolvesOnce acceptFirst 5 plainHtlc twoLegs := by
  refine ⟨by decide, by decide +kernel, ?_⟩
  rintro ⟨hok, -⟩
  exact handle_not_ok_of_not_swap acceptFirst_acceptsFirst rfl hok

end HTLCIntercepted

end RgbLightningNode
