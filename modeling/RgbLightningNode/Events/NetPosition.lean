import RgbLightningNode.Events.HtlcIntercepted

/-!
# The net position of a forwarded swap

What a taker gives and receives when it forwards a swap HTLC, against the swap
it accepted. Each shape of swap compares its own subset of the HTLC's fields,
so the exact net position also rests on the fields that its shape leaves out.
-/

namespace RgbLightningNode

open Fallible Node InterceptCall

namespace HTLCIntercepted

variable {ContractId : Type}

/-- Forwarding this amount and this payment moves exactly what was accepted. -/
structure ExactNetPosition (info : SwapInfo ContractId) (legs : SwapLegs ContractId)
    (e : HTLCIntercepted ContractId) (amtToForwardMsat : Nat)
    (rgbPayment : Option (ContractId × Nat)) : Prop where
  given : rgbPayment = info.fromAsset.map fun asset => (asset, info.qtyFrom)
  received : ∀ asset, info.toAsset = some asset →
    legs.inboundContract = some asset ∧ e.inboundRgbAmount = some info.qtyTo
  givesBtc : info.fromAsset = none → amtToForwardMsat = e.inboundAmountMsat + info.qtyFrom
  takesBtc : info.toAsset = none → e.inboundAmountMsat = amtToForwardMsat + info.qtyTo
  assetForAsset : info.fromAsset ≠ none → info.toAsset ≠ none →
    amtToForwardMsat = e.inboundAmountMsat

/-- A forward that is made is made with the exact net position. -/
def ForwardsExactly (e : HTLCIntercepted ContractId) (n : Node ContractId)
    (call : InterceptCall ContractId) : Prop :=
  ∀ interceptId nextHopScid nextNodeId amtToForwardMsat rgbPayment,
    call = forwardInterceptedHtlc interceptId nextHopScid nextNodeId amtToForwardMsat rgbPayment →
      ∃ swap legs, n.stores.takerSwaps.lookup e.paymentHash = some swap ∧
        e.swapLegs n = .ok legs ∧
        ExactNetPosition swap.swapInfo legs e amtToForwardMsat rgbPayment

/-- The fields that the three shapes compare, as propositions. -/
structure Compared (info : SwapInfo ContractId) (e : HTLCIntercepted ContractId)
    (legs : SwapLegs ContractId) : Prop where
  givesBtc : info.fromAsset = none →
    e.inboundRgbAmount = some info.qtyTo ∧ legs.inboundContract = info.toAsset ∧
      e.expectedOutboundAmountMsat = e.inboundAmountMsat + info.qtyFrom
  takesBtc : info.fromAsset ≠ none → info.toAsset = none →
    e.expectedOutboundRgbPayment.map Prod.snd = some info.qtyFrom ∧
      legs.outboundContract = info.fromAsset ∧
      e.inboundAmountMsat - e.expectedOutboundAmountMsat = info.qtyTo
  assetForAsset : info.fromAsset ≠ none → info.toAsset ≠ none →
    e.inboundAmountMsat = e.expectedOutboundAmountMsat ∧
      e.expectedOutboundRgbPayment.map Prod.snd = some info.qtyFrom ∧
      legs.outboundContract = info.fromAsset ∧
      e.inboundRgbAmount = some info.qtyTo ∧ legs.inboundContract = info.toAsset

/-- The fields no shape compares agree with the accepted swap: the contract the
RGB payment names, and the sign of a difference that saturates at zero. -/
structure UncheckedAgree (info : SwapInfo ContractId) (e : HTLCIntercepted ContractId) :
    Prop where
  contract : e.expectedOutboundRgbPayment.map Prod.fst = info.fromAsset
  sign : info.toAsset = none → e.expectedOutboundAmountMsat ≤ e.inboundAmountMsat
  btcForBtc : info.fromAsset = none → info.toAsset = none → info.qtyTo = 0

theorem checkedSub_eq_some_iff {a b c : Nat} : checkedSub a b = some c ↔ a = b + c := by
  unfold checkedSub
  split <;> simp <;> omega

theorem swapMismatch_eq_false_iff [DecidableEq ContractId] {info : SwapInfo ContractId}
    {e : HTLCIntercepted ContractId} {legs : SwapLegs ContractId} :
    swapMismatch info e legs = false ↔ Compared info e legs := by
  rcases hf : info.fromAsset with _ | fromAsset
  · have hb : info.isFromBtc = true := by simp [SwapInfo.isFromBtc, hf]
    simp only [swapMismatch, hb, if_true, Bool.or_eq_false_iff, bne_eq_false_iff_eq,
      checkedSub_eq_some_iff, and_assoc]
    exact ⟨fun h => ⟨fun _ => h, fun hne => absurd hf hne, fun hne => absurd hf hne⟩,
      fun h => h.givesBtc hf⟩
  have hb : info.isFromBtc = false := by simp [SwapInfo.isFromBtc, hf]
  have hne : info.fromAsset ≠ none := by simp [hf]
  rcases ht : info.toAsset with _ | toAsset
  · have hb' : info.isToBtc = true := by simp [SwapInfo.isToBtc, ht]
    simp only [swapMismatch, hb, hb', Bool.false_eq_true, if_false, if_true,
      Bool.or_eq_false_iff, bne_eq_false_iff_eq, and_assoc]
    exact ⟨fun h => ⟨fun hn => absurd hn hne, fun _ _ => h, fun _ hnt => absurd ht hnt⟩,
      fun h => h.takesBtc hne ht⟩
  · have hb' : info.isToBtc = false := by simp [SwapInfo.isToBtc, ht]
    have hnt : info.toAsset ≠ none := by simp [ht]
    simp only [swapMismatch, hb, hb', Bool.false_eq_true, if_false,
      Bool.or_eq_false_iff, bne_eq_false_iff_eq, checkedSub_eq_some_iff, Nat.add_zero, and_assoc]
    exact ⟨fun h => ⟨fun hn => absurd hn hne, fun _ hn => absurd hn hnt, fun _ _ => h⟩,
      fun h => h.assetForAsset hne hnt⟩

/-- A payment is what the swap gives when its contract is, and its amount is as
soon as the swap gives an asset. -/
theorem given_of_contract {payment : Option (ContractId × Nat)} {asset : Option ContractId}
    {qty : Nat} (hc : payment.map Prod.fst = asset)
    (hq : asset ≠ none → payment.map Prod.snd = some qty) :
    payment = asset.map fun a => (a, qty) := by
  subst hc
  rcases payment with _ | ⟨contract, amount⟩
  · rfl
  · have : amount = qty := by simpa using hq
    simp [this]

/-- Of an HTLC that passes the comparisons, the fields that were not compared
decide whether the position is exact. -/
theorem exactNetPosition_iff {info : SwapInfo ContractId} {e : HTLCIntercepted ContractId}
    {legs : SwapLegs ContractId} (hc : Compared info e legs) :
    ExactNetPosition info legs e e.expectedOutboundAmountMsat e.expectedOutboundRgbPayment ↔
      UncheckedAgree info e := by
  constructor
  · intro h
    refine ⟨?_, fun ht => ?_, fun hf ht => ?_⟩
    · rw [h.given, Option.map_map]
      cases info.fromAsset <;> rfl
    · have := h.takesBtc ht
      omega
    · have := h.takesBtc ht
      have := h.givesBtc hf
      omega
  · intro h
    refine ⟨?_, fun asset ht => ?_, fun hf => (hc.givesBtc hf).2.2, fun ht => ?_,
      fun hf ht => (hc.assetForAsset hf ht).1.symm⟩
    · exact given_of_contract h.contract fun hf => by
        by_cases ht : info.toAsset = none
        · exact (hc.takesBtc hf ht).1
        · exact (hc.assetForAsset hf ht).2.1
    · have hnt : info.toAsset ≠ none := by simp [ht]
      by_cases hf : info.fromAsset = none
      · obtain ⟨hq, hi, -⟩ := hc.givesBtc hf
        exact ⟨hi.trans ht, hq⟩
      · obtain ⟨-, -, -, hq, hi⟩ := hc.assetForAsset hf hnt
        exact ⟨hi.trans ht, hq⟩
    · have hs := h.sign ht
      by_cases hf : info.fromAsset = none
      · have := h.btcForBtc hf ht
        have := (hc.givesBtc hf).2.2
        omega
      · have := (hc.takesBtc hf ht).2.2
        omega

/-! ### The calls one HTLC leads to -/

variable [DecidableEq ContractId]

/-- The calls on the channel manager that handling the HTLC makes. -/
def callsMade (reply : InterceptReply ContractId) (now : Nat) (e : HTLCIntercepted ContractId)
    (n : Node ContractId) : List (InterceptCall ContractId) :=
  (after (handle reply now e) n).interceptCalls.drop n.interceptCalls.length

variable {reply : InterceptReply ContractId} {now : Nat} {e : HTLCIntercepted ContractId}
  {n : Node ContractId} {swap : SwapData ContractId} {legs : SwapLegs ContractId}

theorem callsMade_of_forwards (h : Forwards reply e n swap legs) :
    callsMade reply now e n = e.callsBefore ++ [e.forwardCall legs] := by
  rw [callsMade, after_handle_of_forwards h]
  exact List.drop_left

theorem callsMade_of_not_forwards (h : ∀ swap legs, ¬Forwards reply e n swap legs) :
    ∀ call ∈ callsMade reply now e n, call.isForward = false := by
  have hrejected : Rejected now e n (after (handle reply now e) n) := after_handle_of_not_forwards h
  obtain ⟨fails, hcalls, hfails⟩ := hrejected.calls
  rw [callsMade, hcalls, List.drop_left]
  exact hfails

/-- Handling an HTLC forwards at the exact net position of the accepted swap if
and only if the fields left out agree whenever the compared ones do. -/
theorem forwardsExactly_iff (reply : InterceptReply ContractId) (now : Nat)
    (e : HTLCIntercepted ContractId) (n : Node ContractId) :
    (∀ call ∈ callsMade reply now e n, ForwardsExactly e n call) ↔
      ∀ swap legs, n.stores.takerSwaps.lookup e.paymentHash = some swap →
        e.swapLegs n = .ok legs →
        (e.isSwap = true ∨
          reply n.interceptCalls (failInterceptedHtlc e.interceptId) = true) →
        Compared swap.swapInfo e legs → UncheckedAgree swap.swapInfo e := by
  constructor
  -- an HTLC that passes is forwarded, so its position is the exact one
  · intro h swap legs hl hf ha hc
    have hw : Forwards reply e n swap legs := ⟨ha, hf, hl, swapMismatch_eq_false_iff.mpr hc⟩
    have hmem : e.forwardCall legs ∈ callsMade reply now e n := by
      rw [callsMade_of_forwards hw]
      simp
    obtain ⟨swap', legs', hl', hf', hx⟩ := h _ hmem _ _ _ _ _ rfl
    obtain rfl : swap = swap' := Option.some.inj (hl.symm.trans hl')
    obtain rfl : legs = legs' := Except.ok.inj (hf.symm.trans hf')
    exact (exactNetPosition_iff hc).mp hx
  -- only an HTLC that passes leads to a forward, and then the fields left out decide
  · intro h call hmem interceptId scid node amt rgb hcall
    by_cases hw : ∃ swap legs, Forwards reply e n swap legs
    · obtain ⟨swap, legs, hw⟩ := hw
      have hc := swapMismatch_eq_false_iff.mp hw.agrees
      rw [callsMade_of_forwards hw, List.mem_append, List.mem_singleton, hcall] at hmem
      rcases hmem with hb | hforward
      · simpa [isForward] using callsBefore_not_forward e _ hb
      · obtain ⟨-, -, -, rfl, rfl⟩ := InterceptCall.forwardInterceptedHtlc.inj hforward
        exact ⟨swap, legs, hw.listed, hw.found,
          (exactNetPosition_iff hc).mpr (h swap legs hw.listed hw.found hw.answered hc)⟩
    · have hw' : ∀ swap legs, ¬Forwards reply e n swap legs := fun swap legs hs =>
        hw ⟨swap, legs, hs⟩
      have hnot : call.isForward = false := callsMade_of_not_forwards hw' call hmem
      simp [hcall, isForward] at hnot

/-! ### A payment the taker never agreed to -/

/-- A taker accepted to give 1000 msat for 5 of contract 1; its channel with
scid 2 carries contract 2. -/
def drainedTaker : Node ℕ where
  stores := Stores.addTakerSwap ⟨Vector.replicate 32 7⟩
    (SwapData.createFromSwapInfo ⟨1000, 5, none, some 1, 200⟩ 100) (Stores.load ∅)
  ldkDataDir :=
    { channelInfo := (∅ : HashMap String (RgbInfo ℕ)).insert
        (ChannelId.mk (Vector.replicate 32 1)).hex ⟨1, .nia, 0, 50⟩ |>.insert
        (ChannelId.mk (Vector.replicate 32 2)).hex ⟨2, .nia, 900, 0⟩
      channelInfoPending := (∅ : HashMap String (RgbInfo ℕ)).insert
        (ChannelId.mk (Vector.replicate 32 1)).hex ⟨1, .nia, 0, 50⟩ |>.insert
        (ChannelId.mk (Vector.replicate 32 2)).hex ⟨2, .nia, 900, 0⟩
      entries := [] }
  channels := [⟨⟨Vector.replicate 32 1⟩, some 1, ⟨Vector.replicate 33 2⟩⟩,
    ⟨⟨Vector.replicate 32 2⟩, some 2, ⟨Vector.replicate 33 2⟩⟩]
  interceptCalls := []

/-- The HTLC of that swap, with 900 of contract 2 to forward on top. -/
def drainingHtlc : HTLCIntercepted ℕ :=
  ⟨true, ⟨Vector.replicate 32 7⟩, ⟨Vector.replicate 32 9⟩, 3000000, 3001000, some 5,
    some (2, 900), 2, 1⟩

/-- A swap that gives BTC is forwarded with whatever RGB payment comes with it. -/
theorem forwards_payment_not_given :
    ¬∀ (reply : InterceptReply ℕ) (now : Nat) (e : HTLCIntercepted ℕ) (n : Node ℕ),
      ∀ call ∈ callsMade reply now e n, ForwardsExactly e n call := by
  intro h
  have hw : Forwards (fun _ _ => true) drainingHtlc drainedTaker
      (SwapData.createFromSwapInfo ⟨1000, 5, none, some 1, 200⟩ 100)
      ⟨some 1, some 2, ⟨Vector.replicate 33 2⟩⟩ :=
    ⟨.inl rfl, by decide, by decide, by decide⟩
  have hmem : drainingHtlc.forwardCall ⟨some 1, some 2, ⟨Vector.replicate 33 2⟩⟩ ∈
      callsMade (fun _ _ => true) 150 drainingHtlc drainedTaker := by
    rw [callsMade_of_forwards hw]
    exact List.mem_append_right _ (List.mem_singleton_self _)
  obtain ⟨swap, legs, hl, -, hx⟩ := h _ _ _ _ _ hmem _ _ _ _ _ rfl
  obtain rfl := Option.some.inj (hw.listed.symm.trans hl)
  exact absurd hx.given (by decide)

end HTLCIntercepted

end RgbLightningNode
