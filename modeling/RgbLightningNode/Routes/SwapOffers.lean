import RgbLightningNode.Routes.MakerInit
import RgbLightningNode.Routes.MakerExecuteStops

/-!
# Offers that can be taken

The maker checks the terms of a request, and the taker checks them again in the swap
string.
-/

namespace RgbLightningNode

open Fallible Node

/-- Any early stop but the refusal of a swap string. -/
def Exit.acceptsSwapString : Exit APIError → Prop
  | .err e => e.isInvalidSwapString = false
  | .panic .. => True

section Taker

variable {ContractId : Type} [DecidableEq ContractId]

theorem failsOnly_getMaxLocalRgbAmount {ε : Type} {E : Exit ε → Prop} (contractId : ContractId)
    (dir : LdkDataDir ContractId) (channels : List ChannelDetails) (maxBalance : UInt64) :
    FailsOnly E (getMaxLocalRgbAmount contractId dir channels maxBalance) := by
  induction channels generalizing maxBalance with
  | nil => exact .ok maxBalance
  | cons chanInfo channels ih =>
    rw [getMaxLocalRgbAmount, LdkDataDir.getRgbChannelInfoOptional_false, except_ok_bind]
    cases dir.channelInfo.lookup chanInfo.channelId.hex with
    | none => exact ih maxBalance
    | some rgbInfo =>
      simp only
      split
      · exact ih rgbInfo.localRgbAmount
      · exact ih maxBalance

theorem failsOnly_checkFromAsset {E : Exit APIError → Prop} (h : E (.err .insufficientAssets))
    (info : SwapInfo ContractId) (n : Node ContractId) : FailsOnly E (checkFromAsset info n) := by
  rw [checkFromAsset]
  cases info.fromAsset with
  | none => exact .ok ()
  | some fromAsset =>
    refine FailsOnly.bind_iff.mpr ⟨failsOnly_getMaxLocalRgbAmount _ _ _ _, fun maxBalance _ => ?_⟩
    split
    · exact FailsOnly.error_iff.mpr h
    · exact .ok ()

variable [ContractIdText ContractId]

/-- A taker does not refuse a swap string that parses. -/
theorem stopsOnly_taker {text : String} {s : SwapString ContractId}
    (h : SwapString.fromStr text = .ok s) (now : Nat) (n : Node ContractId) :
    StopsOnly Exit.acceptsSwapString (taker now text) n := by
  rw [taker, h]
  refine StopsOnly.bind_iff.mpr ⟨.ensure fun _ => rfl, fun _ n _ => ?_⟩
  rw [StopsOnly.bind_of_ok_iff (get_apply n), StopsOnly.attempt_bind_iff]
  exact ⟨failsOnly_checkFromAsset (E := Exit.acceptsSwapString) rfl s.swapInfo n,
    fun _ _ => by rintro e t ⟨⟩⟩

/-- Nor does the maker that gets it back. -/
theorem stopsOnly_makerExecute {req : MakerExecuteRequest} {s : SwapString ContractId}
    (h : SwapString.fromStr req.swapstring = .ok s) (ln : Lightning ContractId) (now : Nat)
    (n : Node ContractId) : StopsOnly Exit.acceptsSwapString (makerExecute ln now req) n := by
  have herr : ∀ e : APIError, e.isInvalidSwapString = false → Exit.acceptsSwapString (.err e) :=
    fun _ he => he
  have hparse : FailsOnly Exit.acceptsSwapString (req.parse ln) := by
    refine (failsOnly_parse_iff herr).mpr fun message hmessage => ?_
    rw [h] at hmessage
    cases hmessage
  refine (stopsOnly_makerExecute_iff herr).mpr ⟨hparse, fun parsed hparsed => ?_⟩
  split
  · exact .inr trivial
  · refine ⟨?_, fun _ _ => .inr trivial⟩
    exact (failsOnly_preparePayment_iff herr (.inr fun _ => trivial)
      (assets_ne_of_parse hparsed)).mpr fun _ => ⟨.inr trivial, .inr trivial⟩

/-! ### The maker's offer -/

/-- The quantities and the expiry of a request fit their 64 bits. -/
structure MakerInitRequest.Fits (now : Nat) (req : MakerInitRequest) : Prop where
  qtyFrom : req.qtyFrom < 2 ^ 64
  qtyTo : req.qtyTo < 2 ^ 64
  expiry : now + req.timeoutSec < 2 ^ 64

/-- The offer can be taken: its swap string parses and stands for the swap the
maker has recorded, and neither side refuses it. -/
structure Takeable (response : MakerInitResponse) (n : Node ContractId) : Prop where
  recorded : ∃ (s : SwapString ContractId) (data : SwapData ContractId),
    SwapString.fromStr response.swapstring = .ok s ∧
    response.paymentHash = s.paymentHash.hex ∧
    n.stores.makerSwaps.lookup s.paymentHash = some data ∧ data.swapInfo = s.swapInfo
  taker : ∀ (now : Nat) (taker : Node ContractId),
    StopsOnly Exit.acceptsSwapString (RgbLightningNode.taker now response.swapstring) taker
  maker : ∀ (ln : Lightning ContractId) (now : Nat) (req : MakerExecuteRequest)
    (maker : Node ContractId), req.swapstring = response.swapstring →
    StopsOnly Exit.acceptsSwapString (makerExecute ln now req) maker

/-- The terms a request is accepted with are those it names. -/
theorem swapInfo_of_ok {req : MakerInitRequest} {now : Nat} {info : SwapInfo ContractId}
    (h : req.swapInfo now = .ok info) :
    info.qtyFrom = req.qtyFrom ∧ info.qtyTo = req.qtyTo ∧ info.expiry = now + req.timeoutSec ∧
      info.fromAsset ≠ info.toAsset := by
  rw [MakerInitRequest.swapInfo] at h
  obtain ⟨fromAsset, -, h⟩ := except_bind_eq_ok_iff.mp h
  obtain ⟨toAsset, -, h⟩ := except_bind_eq_ok_iff.mp h
  split at h
  · cases h
  · split at h
    · cases h
    · rename_i hne
      obtain rfl := Except.ok.inj h
      exact ⟨rfl, rfl, rfl, hne⟩

theorem swapInfo_of_offer {createInboundPayment : Nat → Nat → Option (PaymentHash × PaymentSecret)}
    {now : Nat} {req : MakerInitRequest} {n : Node ContractId} {offer : SwapOffer ContractId}
    (h : req.offer createInboundPayment now n = .ok offer) :
    req.swapInfo now = .ok offer.swapInfo := by
  rw [MakerInitRequest.offer] at h
  obtain ⟨info, hinfo, h⟩ := except_bind_eq_ok_iff.mp h
  obtain ⟨⟨⟩, -, h⟩ := except_bind_eq_ok_iff.mp h
  obtain ⟨⟨paymentHash, paymentSecret⟩, -, h⟩ := except_bind_eq_ok_iff.mp h
  obtain rfl := Except.ok.inj h
  exact hinfo

/-- What an accepted request answers and leaves behind. -/
theorem makerInit_eq_ok_iff
    {createInboundPayment : Nat → Nat → Option (PaymentHash × PaymentSecret)} {now : Nat}
    {req : MakerInitRequest} {n n' : Node ContractId} {response : MakerInitResponse} :
    makerInit createInboundPayment now req n = .ok response n' ↔
      ∃ offer, req.offer createInboundPayment now n = .ok offer ∧
        response = ⟨offer.paymentHash.hex, hexStr offer.paymentSecret.bytes.toList,
          (SwapString.fromSwapInfo offer.swapInfo offer.paymentHash).display⟩ ∧
        n' = { n with
          stores := n.stores.addMakerSwap offer.paymentHash
            (SwapData.createFromSwapInfo offer.swapInfo now) } := by
  rw [makerInit, bind_of_ok (get_apply n)]
  cases hoffer : req.offer createInboundPayment now n with
  | error exit =>
    rw [bind_of_error (attempt_error exit n)]
    simp
  | ok offer =>
    rw [bind_of_ok (attempt_ok offer n)]
    constructor
    · rintro ⟨⟩
      exact ⟨offer, rfl, rfl, rfl⟩
    · rintro ⟨offer, ⟨⟩, rfl, rfl⟩
      rfl

/-- A recorded offer can be taken exactly when its text passes the checks. -/
theorem takeable_iff_validate [LawfulContractIdText ContractId] (offer : SwapOffer ContractId)
    (now : Nat) (paymentSecret : String) (n : Node ContractId)
    (hf : offer.swapInfo.qtyFrom < 2 ^ 64) (ht : offer.swapInfo.qtyTo < 2 ^ 64)
    (he : offer.swapInfo.expiry < 2 ^ 64) :
    Takeable ⟨offer.paymentHash.hex, paymentSecret,
        (SwapString.fromSwapInfo offer.swapInfo offer.paymentHash).display⟩
      { n with
        stores := n.stores.addMakerSwap offer.paymentHash
          (SwapData.createFromSwapInfo offer.swapInfo now) } ↔
      (SwapString.fromSwapInfo offer.swapInfo offer.paymentHash).validate =
        .ok (SwapString.fromSwapInfo offer.swapInfo offer.paymentHash) := by
  have htext := SwapString.fromStr_display
    (s := SwapString.fromSwapInfo offer.swapInfo offer.paymentHash) hf ht he
  constructor
  · intro h
    obtain ⟨s, -, hs, -⟩ := h.recorded
    obtain ⟨rfl, hrest⟩ := SwapString.validate_eq_ok_iff.mp (htext.symm.trans hs)
    exact SwapString.validate_eq_ok_iff.mpr ⟨rfl, hrest⟩
  · intro h
    have hs := htext.trans h
    refine ⟨⟨_, _, hs, rfl, Finmap.lookup_insert _, rfl⟩, stopsOnly_taker hs, ?_⟩
    intro ln now req maker hreq
    exact stopsOnly_makerExecute ((congrArg SwapString.fromStr hreq).trans hs) ln now maker

/-- A refused request records nothing, and an accepted one can be taken exactly
when its quantities and its expiry are positive. -/
theorem makerInit_takeable_iff [LawfulContractIdText ContractId] {now : Nat}
    {req : MakerInitRequest} (hfits : req.Fits now)
    (createInboundPayment : Nat → Nat → Option (PaymentHash × PaymentSecret))
    (n : Node ContractId) :
    (∀ exit n', makerInit createInboundPayment now req n = .error exit n' → n' = n) ∧
      ∀ response n', makerInit createInboundPayment now req n = .ok response n' →
        (Takeable response n' ↔ 0 < req.qtyFrom ∧ 0 < req.qtyTo ∧ 0 < now + req.timeoutSec) := by
  constructor
  · intro exit n' h
    have hafter := after_makerInit createInboundPayment now req n
    rw [after_of_error h] at hafter
    cases hoffer : req.offer createInboundPayment now n with
    | error _ =>
      rw [hoffer] at hafter
      exact hafter
    | ok offer =>
      have hok := makerInit_eq_ok_iff.mpr ⟨offer, hoffer, rfl, rfl⟩
      rw [h] at hok
      cases hok
  · intro response n' h
    obtain ⟨offer, hoffer, rfl, rfl⟩ := makerInit_eq_ok_iff.mp h
    obtain ⟨hf, ht, he, hne⟩ := swapInfo_of_ok (swapInfo_of_offer hoffer)
    rw [takeable_iff_validate offer now _ n (by rw [hf]; exact hfits.qtyFrom)
      (by rw [ht]; exact hfits.qtyTo) (by rw [he]; exact hfits.expiry),
      SwapString.validate_eq_ok_iff, SwapString.fromSwapInfo, hf, ht, he]
    exact ⟨fun ⟨_, hqf, hqt, hexp, _⟩ => ⟨hqf, hqt, hexp⟩,
      fun ⟨hqf, hqt, hexp⟩ => ⟨rfl, hqf, hqt, hexp, hne⟩⟩

end Taker

/-! ### Offers of one asset for BTC -/

/-- An offer of BTC for one unit of contract 7. -/
def btcOffer (qtyTo : Nat) : MakerInitRequest where
  qtyFrom := 1
  qtyTo := qtyTo
  fromAsset := some "7"
  toAsset := none
  timeoutSec := 100

/-- A maker without channels. -/
def btcMaker : Node SwapString.NumberedContract where
  stores := Stores.load ∅
  ldkDataDir := ⟨∅, ∅, []⟩
  channels := []
  interceptCalls := []

def createInboundPayment (_ _ : Nat) : Option (PaymentHash × PaymentSecret) :=
  some (⟨Vector.replicate 32 7⟩, ⟨Vector.replicate 32 9⟩)

def btcSwapOffer (qtyTo : Nat) : SwapOffer SwapString.NumberedContract :=
  ⟨⟨1, qtyTo, some 7, none, 200⟩, ⟨Vector.replicate 32 7⟩, ⟨Vector.replicate 32 9⟩⟩

theorem btcOffer_offer (qtyTo : Nat) :
    (btcOffer qtyTo).offer createInboundPayment 100 btcMaker = .ok (btcSwapOffer qtyTo) := by
  have hasset : (parseAsset (some "7") :
      Except (Exit APIError) (Option SwapString.NumberedContract)) = .ok (some 7) := by
    decide +kernel
  rw [MakerInitRequest.offer, MakerInitRequest.swapInfo, btcOffer, hasset]
  rfl

theorem btcOffer_takeable :
    ∃ (response : MakerInitResponse) (n' : Node SwapString.NumberedContract),
      makerInit createInboundPayment 100 (btcOffer 100000) btcMaker = .ok response n' ∧
      Takeable response n' := by
  have hfits : (btcOffer 100000).Fits 100 := by
    constructor <;> decide
  refine ⟨_, _, makerInit_eq_ok_iff.mpr ⟨_, btcOffer_offer 100000, rfl, rfl⟩, ?_⟩
  refine ((makerInit_takeable_iff hfits createInboundPayment btcMaker).2 _ _ ?_).mpr (by decide)
  exact makerInit_eq_ok_iff.mpr ⟨_, btcOffer_offer 100000, rfl, rfl⟩

/-- An offer of nothing is recorded and handed out, but cannot be taken. -/
theorem btcOffer_zero_not_takeable :
    ∃ (response : MakerInitResponse) (n' : Node SwapString.NumberedContract),
      makerInit createInboundPayment 100 (btcOffer 0) btcMaker = .ok response n' ∧
      (n'.stores.makerSwaps.lookup ⟨Vector.replicate 32 7⟩).isSome ∧ ¬Takeable response n' := by
  refine ⟨_, _, makerInit_eq_ok_iff.mpr ⟨_, btcOffer_offer 0, rfl, rfl⟩, by decide, ?_⟩
  rw [takeable_iff_validate (btcSwapOffer 0) 100 _ btcMaker (by decide) (by decide)
    (by decide), SwapString.validate_eq_ok_iff]
  rintro ⟨-, -, hpos, -⟩
  exact absurd hpos (by decide)

end RgbLightningNode
