import Mathlib.Algebra.Ring.Nat
import RgbLightningNode.Routes.RecordedTerms

/-!
# The amounts of a circular route

A swap is paid along a circular route: one leg brings what the taker gets, the
other one brings back what it gives. BTC travels on top of the least amount an
HTLC may have; the fees are those of both legs.
-/

namespace RgbLightningNode

open Fallible

section Route

variable {ContractId : Type}

/-- The fees of the hops of a leg for forwarding. The last hop forwards nothing: its value
is the amount. -/
def legFees (leg : List (RouteHop ContractId)) : Nat := (leg.dropLast.map RouteHop.feeMsat).sum

/-- The fees that are summed, from the last one on. -/
theorem sum_fees_eq (hops : List (RouteHop ContractId)) :
    ((hops.reverse.drop 1).map RouteHop.feeMsat).sum = legFees hops := by
  rw [List.drop_one, List.tail_reverse, List.map_reverse, List.sum_reverse, legFees]

theorem totalFee_eq_ok_iff {ln : Lightning ContractId} {hops : List (RouteHop ContractId)}
    {fee : Nat} :
    totalFee ln hops = .ok fee ↔ MachineInt.Holds 64 ln.overflowChecks (legFees hops) fee := by
  rw [totalFee, MachineInt.sum_eq_ok_iff, sum_fees_eq]

@[simp] theorem map_feeMsat_carrying (asset : Option ContractId) (qty : Nat)
    (hops : List (RouteHop ContractId)) :
    (carrying asset qty hops).map RouteHop.feeMsat = hops.map RouteHop.feeMsat := by
  cases asset <;> simp [carrying]

theorem legFees_append {there back : List (RouteHop ContractId)} (h : back ≠ []) :
    legFees (there ++ back) = (there.map RouteHop.feeMsat).sum + legFees back := by
  rw [legFees, List.dropLast_append_of_ne_nil h, List.map_append, List.sum_append, legFees]

theorem legFees_congr {leg leg' : List (RouteHop ContractId)}
    (h : leg.map RouteHop.feeMsat = leg'.map RouteHop.feeMsat) : legFees leg = legFees leg' := by
  rw [legFees, List.map_dropLast, h, ← List.map_dropLast, legFees]

/-- The two legs put together. -/
def circularRoute (ln : Lightning ContractId) (info : SwapInfo ContractId)
    (there back : List (RouteHop ContractId)) :
    Except (Exit APIError) (List (RouteHop ContractId)) := do
  let second ← setSwapFlag ln back
  let first ← clearLastFee there
  return carrying info.toAsset info.qtyTo first ++ carrying info.fromAsset info.qtyFrom second

/-- The router is asked for both legs and answers with a path for each. -/
structure FindsLegs (ln : Lightning ContractId) (info : SwapInfo ContractId) (takerPk : PublicKey)
    (hints : List RouteHintHop) (there back : List (RouteHop ContractId)) : Prop where
  first : ∃ query others, firstLegQuery ln info takerPk = .ok query ∧
    ln.getRoute query = some (there :: others)
  second : ∃ query others, secondLegQuery ln info takerPk hints = .ok query ∧
    ln.getRoute query = some (back :: others)

/-- Between neighbours nothing is paid for forwarding. -/
theorem FindsLegs.fees_eq_zero {ln : Lightning ContractId} {info : SwapInfo ContractId}
    {takerPk : PublicKey} {hints : List RouteHintHop} {there back : List (RouteHop ContractId)}
    {hop : RouteQuery ContractId → RouteHop ContractId}
    (h : FindsLegs ln info takerPk hints there back)
    (hdirect : ∀ query, ln.getRoute query = some [[hop query]]) :
    legFees there + legFees back = 0 := by
  obtain ⟨⟨first, _, -, hthere⟩, ⟨second, _, -, hback⟩⟩ := h
  obtain ⟨rfl, -⟩ := List.cons.inj (Option.some.inj ((hdirect first).symm.trans hthere))
  obtain ⟨rfl, -⟩ := List.cons.inj (Option.some.inj ((hdirect second).symm.trans hback))
  rfl

/-- The route of a request that finds both legs. -/
theorem buildRoute_of_legs [DecidableEq ContractId] {ln : Lightning ContractId}
    {info : SwapInfo ContractId} {takerPk : PublicKey} {dir : LdkDataDir ContractId}
    {hints : List RouteHintHop} {there back : List (RouteHop ContractId)}
    (hhints : receiveHints info dir ln.listUsableChannels = .ok hints)
    (hlegs : FindsLegs ln info takerPk hints there back) :
    buildRoute ln info takerPk dir = circularRoute ln info there back >>= checkFee ln := by
  obtain ⟨⟨first, theres, hfirst, hthere⟩, ⟨second, backs, hsecond, hback⟩⟩ := hlegs
  rw [buildRoute, hhints, except_ok_bind, hfirst, except_ok_bind, hsecond, except_ok_bind]
  simp only [hthere, hback, circularRoute, bind_assoc, pure_bind]
  rfl

/-- Two legs with a hop each can be put together. -/
theorem circularRoute_isOk_iff {ln : Lightning ContractId} {info : SwapInfo ContractId}
    {there back : List (RouteHop ContractId)} :
    (∃ hops, circularRoute ln info there back = .ok hops) ↔ there ≠ [] ∧ back ≠ [] := by
  cases back with
  | nil => simp [circularRoute, setSwapFlag, bind, Except.bind]
  | cons hop back =>
    obtain rfl | ⟨hops, last, rfl⟩ := List.eq_nil_or_concat there
    · simp [circularRoute, setSwapFlag, clearLastFee, bind, Except.bind]
    · simp [circularRoute, setSwapFlag, clearLastFee, bind, Except.bind, pure, Except.pure]

/-- The fees of the whole route are those of both legs. -/
theorem legFees_circularRoute {ln : Lightning ContractId} {info : SwapInfo ContractId}
    {there back hops : List (RouteHop ContractId)}
    (h : circularRoute ln info there back = .ok hops) :
    legFees hops = legFees there + legFees back := by
  obtain ⟨hthere, hback⟩ := circularRoute_isOk_iff.mp ⟨hops, h⟩
  obtain ⟨hop, back, rfl⟩ := List.exists_cons_of_ne_nil hback
  obtain ⟨first, last, rfl⟩ := (List.eq_nil_or_concat there).resolve_left hthere
  have hhops : hops = carrying info.toAsset info.qtyTo (first ++ [{ last with feeMsat := 0 }]) ++
      carrying info.fromAsset info.qtyFrom
        ({ hop with shortChannelId := hop.shortChannelId ||| ln.isSwapScid } :: back) := by
    simp [circularRoute, setSwapFlag, clearLastFee, bind, Except.bind, pure, Except.pure] at h
    simp [h]
  have hne : carrying info.fromAsset info.qtyFrom
      ({ hop with shortChannelId := hop.shortChannelId ||| ln.isSwapScid } :: back) ≠ [] :=
    List.cons_ne_nil _ _
  have hcleared : ((first ++ [{ last with feeMsat := 0 }]).map RouteHop.feeMsat).sum =
      legFees (first ++ [last]) := by
    simp [legFees]
  have hsecond : legFees (carrying info.fromAsset info.qtyFrom
      ({ hop with shortChannelId := hop.shortChannelId ||| ln.isSwapScid } :: back)) =
      legFees (hop :: back) :=
    legFees_congr (map_feeMsat_carrying _ _ _)
  rw [hhops, legFees_append hne, map_feeMsat_carrying, hcleared, hsecond, List.concat_eq_append]

/-- The fee sum of a route built from two legs. -/
theorem totalFee_circularRoute_iff {ln : Lightning ContractId} {info : SwapInfo ContractId}
    {there back hops : List (RouteHop ContractId)} {fee : Nat}
    (h : circularRoute ln info there back = .ok hops) :
    totalFee ln hops = .ok fee ↔
      MachineInt.Holds 64 ln.overflowChecks (legFees there + legFees back) fee := by
  rw [totalFee_eq_ok_iff, legFees_circularRoute h]

/-! ### What is asked of the router -/

/-- The BTC a swap brings to the taker, in msat. -/
def btcTo (info : SwapInfo ContractId) : Nat := if info.isToBtc then info.qtyTo else 0

/-- The BTC a swap brings to the maker, in msat. -/
def btcFrom (info : SwapInfo ContractId) : Nat := if info.isFromBtc then info.qtyFrom else 0

/-- The query is made, for this amount. -/
def AsksFor (query : Except (Exit APIError) (RouteQuery ContractId)) (msat : Nat) : Prop :=
  ∃ q, query = .ok q ∧ q.finalValueMsat = msat

variable {ln : Lightning ContractId} {info : SwapInfo ContractId} {takerPk : PublicKey}
  {hints : List RouteHintHop}

theorem asksFor_iff {amount : Except (Exit APIError) Nat} {query : Nat → RouteQuery ContractId}
    (hquery : ∀ msat, (query msat).finalValueMsat = msat) {msat : Nat} :
    AsksFor (amount >>= fun msat => pure (query msat)) msat ↔ amount = .ok msat := by
  cases amount with
  | error e => simp [AsksFor, bind, Except.bind]
  | ok m => simp [AsksFor, bind, Except.bind, pure, Except.pure, hquery]

/-- The amount of a leg that brings BTC, or that does not, is what is held for
the integer. -/
theorem legMsat_eq_ok_iff (ln : Lightning ContractId) (bringsBtc : Bool) (qty : Nat) {msat : Nat} :
    (if bringsBtc then addHtlcMin ln qty else .ok htlcMinMsat) = .ok msat ↔
      MachineInt.Holds 64 ln.overflowChecks ((if bringsBtc then qty else 0) + htlcMinMsat)
        msat := by
  cases bringsBtc with
  | true =>
    rw [if_pos rfl, if_pos rfl]
    exact MachineInt.add_eq_ok_iff
  | false =>
    have hmin : htlcMinMsat < 2 ^ 64 := by decide
    rw [if_neg Bool.false_ne_true, if_neg Bool.false_ne_true, Nat.zero_add,
      MachineInt.holds_iff_of_lt hmin, Except.ok.injEq, eq_comm]

theorem asksFor_firstLeg_iff {msat : Nat} :
    AsksFor (firstLegQuery ln info takerPk) msat ↔
      MachineInt.Holds 64 ln.overflowChecks (btcTo info + htlcMinMsat) msat := by
  rw [firstLegQuery, asksFor_iff (fun _ => rfl), firstLegMsat, btcTo, legMsat_eq_ok_iff]

/-- Only a swap whose assets differ pays the BTC it asks for. -/
theorem asksFor_secondLeg_iff (h : info.fromAsset ≠ info.toAsset) {msat : Nat} :
    AsksFor (secondLegQuery ln info takerPk hints) msat ↔
      MachineInt.Holds 64 ln.overflowChecks (btcFrom info + htlcMinMsat) msat := by
  have hfrom : (info.isToBtc || info.isAssetAsset) = !info.isFromBtc := by
    cases hf : info.fromAsset <;> cases ht : info.toAsset <;>
      simp_all [SwapInfo.isToBtc, SwapInfo.isAssetAsset, SwapInfo.isFromAsset, SwapInfo.isToAsset,
        SwapInfo.isFromBtc]
  rw [secondLegQuery, asksFor_iff (fun _ => rfl), secondLegMsat, hfrom, btcFrom,
    ← legMsat_eq_ok_iff]
  cases info.isFromBtc <;> simp

/-- The amounts and the fee sum of a swap are those of the integers. -/
structure TrueAmounts (ln : Lightning ContractId) (info : SwapInfo ContractId)
    (takerPk : PublicKey) (hints : List RouteHintHop) : Prop where
  firstLeg : AsksFor (firstLegQuery ln info takerPk) (btcTo info + htlcMinMsat)
  secondLeg : AsksFor (secondLegQuery ln info takerPk hints) (btcFrom info + htlcMinMsat)
  /-- The legs differ by the BTC that changes hands. -/
  difference : ∀ first second, firstLegQuery ln info takerPk = .ok first →
    secondLegQuery ln info takerPk hints = .ok second →
    (first.finalValueMsat : ℤ) - second.finalValueMsat = (btcTo info : ℤ) - btcFrom info
  fees : ∀ there back hops, FindsLegs ln info takerPk hints there back →
    circularRoute ln info there back = .ok hops →
    totalFee ln hops = .ok (legFees there + legFees back)

/-- The quantity paid in BTC leaves room for the least amount of an HTLC, and
the fees of the two legs found fit a `u64` together. -/
structure AmountsFit (ln : Lightning ContractId) (info : SwapInfo ContractId)
    (takerPk : PublicKey) (hints : List RouteHintHop) : Prop where
  qtyTo : info.toAsset = none → info.qtyTo < 2 ^ 64 - htlcMinMsat
  qtyFrom : info.fromAsset = none → info.qtyFrom < 2 ^ 64 - htlcMinMsat
  fees : ∀ there back, FindsLegs ln info takerPk hints there back → there ≠ [] → back ≠ [] →
    legFees there + legFees back < 2 ^ 64

theorem btcTo_fits_iff (info : SwapInfo ContractId) :
    btcTo info + htlcMinMsat < 2 ^ 64 ↔
      (info.toAsset = none → info.qtyTo < 2 ^ 64 - htlcMinMsat) := by
  rw [btcTo]
  cases h : info.toAsset
  · simp [SwapInfo.isToBtc, h, htlcMinMsat]
    omega
  · simp [SwapInfo.isToBtc, h, htlcMinMsat]

theorem btcFrom_fits_iff (info : SwapInfo ContractId) :
    btcFrom info + htlcMinMsat < 2 ^ 64 ↔
      (info.fromAsset = none → info.qtyFrom < 2 ^ 64 - htlcMinMsat) := by
  rw [btcFrom]
  cases h : info.fromAsset
  · simp [SwapInfo.isFromBtc, h, htlcMinMsat]
    omega
  · simp [SwapInfo.isFromBtc, h, htlcMinMsat]

end Route

section Execute

variable {ContractId : Type} [DecidableEq ContractId] [ContractIdText ContractId]

/-- For a swap string that parses, whatever the route: nothing wraps exactly
when there is room for the amounts. -/
theorem trueAmounts_iff {text : String} {s : SwapString ContractId}
    (h : SwapString.fromStr text = .ok s) (ln : Lightning ContractId) (takerPk : PublicKey)
    (hints : List RouteHintHop) :
    TrueAmounts ln s.swapInfo takerPk hints ↔ AmountsFit ln s.swapInfo takerPk hints := by
  have hne : s.swapInfo.fromAsset ≠ s.swapInfo.toAsset :=
    (SwapString.fromStr_wellFormed h).assets_ne
  constructor
  · intro ht
    refine ⟨(btcTo_fits_iff s.swapInfo).mp
        (MachineInt.holds_self_iff.mp (asksFor_firstLeg_iff.mp ht.firstLeg)),
      (btcFrom_fits_iff s.swapInfo).mp
        (MachineInt.holds_self_iff.mp ((asksFor_secondLeg_iff hne).mp ht.secondLeg)), ?_⟩
    intro there back hlegs htne hbne
    obtain ⟨hops, hhops⟩ := circularRoute_isOk_iff.mpr ⟨htne, hbne⟩
    have hfees := ht.fees there back hops hlegs hhops
    exact MachineInt.holds_self_iff.mp ((totalFee_circularRoute_iff hhops).mp hfees)
  · intro hf
    have hfirst : AsksFor (firstLegQuery ln s.swapInfo takerPk)
        (btcTo s.swapInfo + htlcMinMsat) :=
      asksFor_firstLeg_iff.mpr (MachineInt.holds_of_lt ((btcTo_fits_iff _).mpr hf.qtyTo))
    have hsecond : AsksFor (secondLegQuery ln s.swapInfo takerPk hints)
        (btcFrom s.swapInfo + htlcMinMsat) :=
      (asksFor_secondLeg_iff hne).mpr
        (MachineInt.holds_of_lt ((btcFrom_fits_iff _).mpr hf.qtyFrom))
    refine ⟨hfirst, hsecond, ?_, ?_⟩
    · intro first second hq₁ hq₂
      obtain ⟨first', hq₁', hmsat₁⟩ := hfirst
      obtain ⟨second', hq₂', hmsat₂⟩ := hsecond
      obtain rfl := Except.ok.inj (hq₁.symm.trans hq₁')
      obtain rfl := Except.ok.inj (hq₂.symm.trans hq₂')
      rw [hmsat₁, hmsat₂]
      push_cast
      omega
    · intro there back hops hlegs hhops
      obtain ⟨htne, hbne⟩ := circularRoute_isOk_iff.mp ⟨hops, hhops⟩
      exact (totalFee_circularRoute_iff hhops).mpr
        (MachineInt.holds_of_lt (hf.fees there back hlegs htne hbne))

/-- The terms of an offer of 1000 msat for 5 of contract 1. -/
def smallSwap : SwapInfo ℕ := ⟨5, 1000, some 1, none, 200⟩

theorem fromStr_smallSwap :
    SwapString.fromStr
      "5/1/1000/btc/200/0707070707070707070707070707070707070707070707070707070707070707" =
        .ok (⟨smallSwap, ⟨Vector.replicate 32 7⟩⟩ : SwapString ℕ) := by
  decide +kernel

theorem smallSwap_fits :
    AmountsFit MakerExecuteRequest.directLightning smallSwap ⟨Vector.replicate 33 3⟩ [] := by
  constructor
  · decide
  · intro h
    cases h
  · intro there back hlegs _ _
    rw [hlegs.fees_eq_zero fun _ => rfl]
    decide

theorem trueAmounts_of_smallSwap :
    TrueAmounts MakerExecuteRequest.directLightning smallSwap ⟨Vector.replicate 33 3⟩ [] :=
  (trueAmounts_iff fromStr_smallSwap _ _ _).mpr smallSwap_fits

/-- An offer of 2^64 - 3000000 msat for 5 of contract 1. -/
def hugeOffer : MakerExecuteRequest where
  swapstring := "5/1/18446744073706551616/btc/200/" ++ hexStr (List.replicate 32 7)
  paymentSecret := hexStr (List.replicate 32 9)
  takerPubkey := "taker"

def hugeSwap : SwapInfo ℕ := ⟨5, 2 ^ 64 - 3000000, some 1, none, 200⟩

/-- The maker prepares the payment, for which it has asked for a route of 0 msat
to the taker. -/
theorem hugeOffer_wraps :
    MakerExecuteRequest.Prepares MakerExecuteRequest.directLightning 150 hugeOffer
        MakerExecuteRequest.offeringMaker
        ⟨⟨hugeSwap, ⟨Vector.replicate 32 7⟩⟩, ⟨Vector.replicate 32 9⟩, ⟨Vector.replicate 33 3⟩⟩
        ⟨[⟨⟨Vector.replicate 33 3⟩, 1, 0, none⟩,
          ⟨⟨Vector.replicate 33 2⟩, 2 ^ 63 + 1, 0, some (1, 5)⟩],
          ⟨Vector.replicate 32 8⟩, ⟨Vector.replicate 32 7⟩⟩ ∧
      AsksFor (firstLegQuery MakerExecuteRequest.directLightning hugeSwap
        ⟨Vector.replicate 33 3⟩) 0 ∧
      ¬TrueAmounts MakerExecuteRequest.directLightning hugeSwap ⟨Vector.replicate 33 3⟩ [] := by
  refine ⟨⟨by decide +kernel, by decide, by decide +kernel⟩, ?_, fun h => ?_⟩
  · exact asksFor_firstLeg_iff.mpr ⟨by decide, fun h => Bool.noConfusion h⟩
  · exact absurd (MachineInt.holds_self_iff.mp (asksFor_firstLeg_iff.mp h.firstLeg)) (by decide)

end Execute

end RgbLightningNode
