import RgbLightningNode.Lib.Mealy
import RgbLightningNode.Runs.SwapWrites
import RgbLightningNode.Runs.TakerSwap

/-!
# Swaps over time

A node serves one request at a time and handles one event at a time, and the two run
side by side: a listing writes what it has decided on copies of the swaps, a maker
waits for the channel manager's answer, and an intercepted HTLC is compared with a
swap before its status is written. Every swap moves forward exactly as long as every
swap that is written may take the new status.
-/

namespace RgbLightningNode

open Fallible Node

/-- How far the request that is being served has come. -/
inductive RequestPhase (ContractId : Type) where
  | idle
  /-- A list or get request goes through the swaps it has copied. -/
  | listing (copies : Listing ContractId)
  /-- A payment is about to be handed to the channel manager. -/
  | paying (paymentHash : PaymentHash) (payment : SpontaneousPayment ContractId)

structure SwapNode (ContractId : Type) where
  node : Node ContractId
  now : Nat
  request : RequestPhase ContractId
  /-- The HTLC that has been compared, and what came out. -/
  htlc : Option (HTLCIntercepted ContractId × SwapLegs ContractId × Bool)

inductive SwapInput (ContractId : Type) where
  | makerInit (createInboundPayment : Nat → Nat → Option (PaymentHash × PaymentSecret))
      (req : MakerInitRequest)
  | taker (swapstring : String)
  | makerExecute (ln : Lightning ContractId) (req : MakerExecuteRequest)
  | handOver (ln : Lightning ContractId)
  /-- A list or get request copies the swaps of one side. -/
  | copySwaps (ofTaker : Bool)
  /-- It goes through one of the swaps it has copied. -/
  | mapSwap (paymentHash : PaymentHash) (ofTaker : Bool)
  | answerListing
  | htlcIntercepted (reply : InterceptReply ContractId) (e : HTLCIntercepted ContractId)
  | decideHtlc (reply : InterceptReply ContractId)
  | payment (ev : PaymentEvent)
  | paymentFailed (paymentHash : Option PaymentHash) (paymentId : PaymentId)
  | elapse (seconds : Nat)
  /-- The channels and their RGB files change by other means. -/
  | environment (channels : List ChannelDetails) (ldkDataDir : LdkDataDir ContractId)

namespace Listing

variable {ContractId : Type}

/-- Copy the swaps of one side. -/
def copy (stores : Stores ContractId) (ofTaker : Bool) (copies : Listing ContractId) :
    Listing ContractId :=
  if ofTaker then { copies with taker := stores.takerSwaps }
  else { copies with maker := stores.makerSwaps }

def swap? (copies : Listing ContractId) (paymentHash : PaymentHash) (ofTaker : Bool) :
    Option (SwapData ContractId) :=
  (if ofTaker then copies.taker else copies.maker).lookup paymentHash

end Listing

namespace SwapNode

variable {ContractId : Type} [DecidableEq ContractId] [ContractIdText ContractId]

/-- The payment a started request is to hand over, if it has got that far. -/
def startedPhase (ln : Lightning ContractId) (now : Nat) (req : MakerExecuteRequest)
    (n : Node ContractId) : RequestPhase ContractId :=
  match (outcome (startMakerExecute ln now req) n).1 with
  | .ok (some (paymentHash, payment)) => .paying paymentHash payment
  | _ => .idle

/-- The HTLC the event handler is to decide on, if it has got that far. -/
def comparedHtlc (reply : InterceptReply ContractId) (e : HTLCIntercepted ContractId)
    (n : Node ContractId) : Option (HTLCIntercepted ContractId × SwapLegs ContractId × Bool) :=
  match (outcome (e.compareHtlc reply) n).1 with
  | .ok (some compared) => some (e, compared)
  | _ => none

/-- One step. A request waits for the one before it, and an event for the one
before it. -/
def step (s : SwapNode ContractId) : SwapInput ContractId → SwapNode ContractId
  | .makerInit createInboundPayment req =>
    match s.request with
    | .idle => { s with node := after (makerInit createInboundPayment s.now req) s.node }
    | _ => s
  | .taker swapstring =>
    match s.request with
    | .idle => { s with node := after (RgbLightningNode.taker s.now swapstring) s.node }
    | _ => s
  | .makerExecute ln req =>
    match s.request with
    | .idle => { s with
        node := after (startMakerExecute ln s.now req) s.node
        request := startedPhase ln s.now req s.node }
    | _ => s
  | .handOver ln =>
    match s.request with
    | .paying paymentHash payment => { s with
        node := after (sendPayment ln paymentHash s.now payment) s.node
        request := .idle }
    | _ => s
  | .copySwaps ofTaker =>
    match s.request with
    | .idle => { s with request := .listing (Listing.copy s.node.stores ofTaker ⟨∅, ∅⟩) }
    | .listing copies => { s with request := .listing (copies.copy s.node.stores ofTaker) }
    | .paying .. => s
  | .mapSwap paymentHash ofTaker =>
    match s.request with
    | .listing copies =>
      match copies.swap? paymentHash ofTaker with
      | some swapData => { s with
          node := after (onStores (RgbLightningNode.mapSwap s.now paymentHash swapData ofTaker))
            s.node }
      | none => s
    | _ => s
  | .answerListing =>
    match s.request with
    | .listing _ => { s with request := .idle }
    | _ => s
  | .htlcIntercepted reply e =>
    match s.htlc with
    | none => { s with
        node := after (e.compareHtlc reply) s.node, htlc := comparedHtlc reply e s.node }
    | some _ => s
  | .decideHtlc reply =>
    match s.htlc with
    | some (e, legs, fail) =>
      { s with node := after (e.decideHtlc reply s.now legs fail) s.node, htlc := none }
    | none => s
  | .payment ev =>
    match s.htlc with
    | none => { s with node := after (ev.handle s.now) s.node }
    | some _ => s
  | .paymentFailed paymentHash paymentId =>
    match s.htlc with
    | none => { s with
        node := after (onStores (PaymentEvent.paymentFailed s.now paymentHash paymentId)) s.node }
    | some _ => s
  | .elapse seconds => { s with now := s.now + seconds }
  | .environment channels ldkDataDir =>
    { s with node := { s.node with channels := channels, ldkDataDir := ldkDataDir } }

/-- The write a step makes to the stored swaps, if it gets that far. -/
def writeOf (s : SwapNode ContractId) : SwapInput ContractId → Option SwapWrite
  | .makerInit createInboundPayment req =>
    match s.request with
    | .idle => req.offerWrite createInboundPayment s.now s.node
    | _ => none
  | .taker swapstring =>
    match s.request with
    | .idle => takerWrite s.now swapstring s.node
    | _ => none
  | .makerExecute ln req =>
    match s.request with
    | .idle => req.startWrite ln s.now s.node
    | _ => none
  | .handOver ln =>
    match s.request with
    | .paying paymentHash payment => refusedWrite ln paymentHash payment
    | _ => none
  | .mapSwap paymentHash ofTaker =>
    match s.request with
    | .listing copies =>
      (copies.swap? paymentHash ofTaker).bind (listedWrite s.now paymentHash ofTaker)
    | _ => none
  | .decideHtlc _ =>
    s.htlc.map fun (e, _, fail) => ⟨true, e.paymentHash, comparedStatus fail⟩
  | .payment ev =>
    match s.htlc with
    | none => ev.writeOn s.node.ldkDataDir
    | some _ => none
  | .paymentFailed paymentHash _ =>
    match s.htlc with
    | none => failedWrite paymentHash
    | some _ => none
  | .htlcIntercepted .. | .copySwaps _ | .answerListing | .elapse _ | .environment .. => none

variable {s : SwapNode ContractId} {x : SwapInput ContractId}

/-- The stored swaps change by the write of the step only. -/
theorem changesBy_step (s : SwapNode ContractId) (x : SwapInput ContractId) :
    Stores.ChangesBy (s.writeOf x) s.now s.node.stores (s.step x).node.stores := by
  cases x with
  | makerInit createInboundPayment req =>
    rw [writeOf, step]
    cases s.request with
    | idle => exact changesBy_makerInit createInboundPayment s.now req s.node
    | listing | paying => exact .refl _
  | taker swapstring =>
    rw [writeOf, step]
    cases s.request with
    | idle => exact changesBy_taker s.now swapstring s.node
    | listing | paying => exact .refl _
  | makerExecute ln req =>
    rw [writeOf, step]
    cases s.request with
    | idle => exact changesBy_startMakerExecute ln s.now req s.node
    | listing | paying => exact .refl _
  | handOver ln =>
    rw [writeOf, step]
    cases s.request with
    | paying paymentHash payment => exact changesBy_sendPayment ln paymentHash s.now payment s.node
    | idle | listing => exact .refl _
  | copySwaps ofTaker =>
    rw [writeOf, step]
    cases s.request <;> exact .refl _
  | mapSwap paymentHash ofTaker =>
    rw [writeOf, step]
    cases s.request with
    | listing copies =>
      dsimp only
      cases copies.swap? paymentHash ofTaker with
      | none => exact .refl _
      | some swapData =>
        dsimp only [Option.bind_some]
        rw [onStores, after_zoom]
        exact changesBy_mapSwap s.now paymentHash swapData ofTaker s.node.stores
    | idle | paying => exact .refl _
  | answerListing =>
    rw [writeOf, step]
    cases s.request <;> exact .refl _
  | htlcIntercepted reply e =>
    rw [writeOf, step]
    cases s.htlc with
    | none => exact changesBy_compareHtlc reply s.now e s.node
    | some _ => exact .refl _
  | decideHtlc reply =>
    rw [writeOf, step]
    cases s.htlc with
    | none => exact .refl _
    | some htlc => exact changesBy_decideHtlc reply s.now htlc.1 htlc.2.1 htlc.2.2 s.node
  | payment ev =>
    rw [writeOf, step]
    cases s.htlc with
    | none => exact changesBy_payment ev s.now s.node
    | some _ => exact .refl _
  | paymentFailed paymentHash paymentId =>
    rw [writeOf, step]
    cases s.htlc with
    | none =>
      dsimp only
      rw [onStores, after_zoom]
      exact changesBy_paymentFailed s.now paymentHash paymentId s.node.stores
    | some _ => exact .refl _
  | elapse seconds => exact .refl _
  | environment channels ldkDataDir => exact .refl _

/-! ### Runs -/

/-- The step of the node without its answer. -/
def quietly (s : SwapNode ContractId) (x : SwapInput ContractId) : Unit × SwapNode ContractId :=
  ((), s.step x)

/-- Every stored swap of the maker and of the taker moves forward. -/
def MovesForward (s : SwapNode ContractId) (x : SwapInput ContractId) : Prop :=
  ∀ ofTaker paymentHash, SwapData.Forward (s.node.stores.swap? ofTaker paymentHash)
    ((s.step x).node.stores.swap? ofTaker paymentHash)

/-- A stored swap that the step writes may take the status. -/
def WritesInPlace (s : SwapNode ContractId) (x : SwapInput ContractId) : Prop :=
  ∀ write, s.writeOf x = some write → ∀ swap,
    s.node.stores.swap? write.ofTaker write.paymentHash = some swap →
      swap.CanTake write.status s.now

theorem movesForward_iff : MovesForward s x ↔ WritesInPlace s x :=
  Stores.forward_iff_of_changesBy (changesBy_step s x)

/-- In every run, all swaps move forward if and only if every swap that is written may
take the status. -/
theorem movesForward_run_iff (s : SwapNode ContractId) (xs : List (SwapInput ContractId)) :
    Mealy.Along quietly MovesForward s xs ↔ Mealy.Along quietly WritesInPlace s xs :=
  Mealy.along_iff_of_invariant (I := fun _ => True) (fun _ _ _ => movesForward_iff)
    (fun _ _ _ _ => trivial) trivial

/-- A taker's node that has accepted nothing yet, at time 100. -/
def freshNode : SwapNode ℕ := ⟨TakerNode.freshTaker.node, 100, .idle, none⟩

/-- The taker accepts the offer, and its HTLC is forwarded and settled. -/
def settledOffer : List (SwapInput ℕ) :=
  [.taker TakerNode.offer.display,
    .htlcIntercepted (fun _ _ => true) ⟨true, ⟨Vector.replicate 32 7⟩, ⟨Vector.replicate 32 9⟩,
      3000000, 3001000, some 5, none, 2, 1⟩,
    .decideHtlc fun _ _ => true,
    .payment (.paymentForwarded (some ⟨Vector.replicate 32 1⟩) (some ⟨Vector.replicate 32 2⟩)
      none none ⟨Vector.replicate 32 7⟩)]

/-- The taker accepts the same string once more: the swap that has succeeded
waits again. -/
theorem leaves_succeeded :
    ¬∀ (s : SwapNode ℕ) (xs : List (SwapInput ℕ)), Mealy.Along quietly MovesForward s xs := by
  intro h
  obtain ⟨-, hlast⟩ := (Mealy.along_append _ _ _ _).mp
    (h freshNode (settledOffer ++ [.taker TakerNode.offer.display]))
  have hforward := hlast.1 true TakerNode.offer.paymentHash
  have hbefore : ((Mealy.final quietly freshNode settledOffer).node.stores.swap? true
      TakerNode.offer.paymentHash).map SwapData.status = some .succeeded := by
    decide +kernel
  have hafter : (((Mealy.final quietly freshNode settledOffer).step
      (.taker TakerNode.offer.display)).node.stores.swap? true
        TakerNode.offer.paymentHash).map SwapData.status = some .waiting := by
    decide +kernel
  obtain ⟨swap, hswap, hstatus⟩ := Option.map_eq_some_iff.mp hbefore
  rw [hswap] at hforward
  have hstays := hforward.of_terminal (by rw [hstatus]; rfl)
  rw [hafter, hstatus] at hstays
  cases hstays

end SwapNode

end RgbLightningNode
