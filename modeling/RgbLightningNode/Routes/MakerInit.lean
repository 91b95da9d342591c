import RgbLightningNode.Routes.Swaps

/-!
# Offering a swap as its maker

The maker checks the terms, asks for a payment hash, records the swap under it
and answers with the swap string for the taker.
-/

namespace RgbLightningNode

open Fallible

structure MakerInitRequest where
  qtyFrom : Nat
  qtyTo : Nat
  fromAsset : Option String
  toAsset : Option String
  timeoutSec : Nat

structure MakerInitResponse where
  paymentHash : String
  paymentSecret : String
  swapstring : String

section Terms

variable {ContractId : Type} [ContractIdText ContractId]

/-- An asset a request names; none is BTC. -/
def parseAsset : Option String → Except (Exit APIError) (Option ContractId)
  | none => .ok none
  | some asset =>
    match ContractIdText.ofText asset with
    | some contractId => .ok (some contractId)
    | none => .error (.err (.invalidAssetID asset))

variable [DecidableEq ContractId]

/-- The terms a request stands for. -/
def MakerInitRequest.swapInfo (now : Nat) (req : MakerInitRequest) :
    Except (Exit APIError) (SwapInfo ContractId) := do
  let fromAsset ← parseAsset req.fromAsset
  let toAsset ← parseAsset req.toAsset
  if fromAsset.isNone ∧ toAsset.isNone then
    .error (.err (.invalidSwap "cannot swap BTC for BTC"))
  else if fromAsset = toAsset then .error (.err (.invalidSwap "cannot swap the same asset"))
  else return ⟨req.qtyFrom, req.qtyTo, fromAsset, toAsset, now + req.timeoutSec⟩

omit [ContractIdText ContractId] in
/-- A maker that sells an asset has to have enough of it on one channel. -/
def checkToAsset (info : SwapInfo ContractId) (n : Node ContractId) :
    Except (Exit APIError) Unit :=
  match info.toAsset with
  | none => .ok ()
  | some toAsset => do
    let maxBalance ← getMaxLocalRgbAmount toAsset n.ldkDataDir n.channels 0
    if info.qtyTo > maxBalance.toNat then .error (.err .insufficientAssets) else .ok ()

/-- A swap that is to be offered: its terms, and the hash and the secret the
channel manager has made for it. -/
structure SwapOffer (ContractId : Type) where
  swapInfo : SwapInfo ContractId
  paymentHash : PaymentHash
  paymentSecret : PaymentSecret

/-- `createInboundPayment` is the channel manager's, for an amount and a lifetime. -/
def MakerInitRequest.offer (createInboundPayment : Nat → Nat → Option (PaymentHash × PaymentSecret))
    (now : Nat) (req : MakerInitRequest) (n : Node ContractId) :
    Except (Exit APIError) (SwapOffer ContractId) := do
  let info ← req.swapInfo now
  checkToAsset info n
  let (paymentHash, paymentSecret) ← orPanic (createInboundPayment dustLimitMsat req.timeoutSec)
    "called `Result::unwrap()` on an `Err` value: ()"
  return ⟨info, paymentHash, paymentSecret⟩

def makerInit (createInboundPayment : Nat → Nat → Option (PaymentHash × PaymentSecret)) (now : Nat)
    (req : MakerInitRequest) : Fallible (Exit APIError) (Node ContractId) MakerInitResponse := do
  let n ← get
  let offer ← attempt (req.offer createInboundPayment now n)
  set { n with
    stores := n.stores.addMakerSwap offer.paymentHash
      (SwapData.createFromSwapInfo offer.swapInfo now) }
  return ⟨offer.paymentHash.hex, hexStr offer.paymentSecret.bytes.toList,
    (SwapString.fromSwapInfo offer.swapInfo offer.paymentHash).display⟩

/-- A request leaves the node unchanged, or adds the swap it offers. -/
theorem after_makerInit (createInboundPayment : Nat → Nat → Option (PaymentHash × PaymentSecret))
    (now : Nat) (req : MakerInitRequest) (n : Node ContractId) :
    after (makerInit createInboundPayment now req) n =
      match req.offer createInboundPayment now n with
      | .ok offer => { n with
          stores := n.stores.addMakerSwap offer.paymentHash
            (SwapData.createFromSwapInfo offer.swapInfo now) }
      | .error _ => n := by
  rw [makerInit, after_bind_of_ok (get_apply n)]
  cases hoffer : req.offer createInboundPayment now n with
  | error exit => rw [after_bind_of_error (attempt_error exit n)]
  | ok offer =>
    rw [after_bind_of_ok (attempt_ok offer n), after_bind_of_ok (set_apply n _)]
    rfl

end Terms

end RgbLightningNode
