import RgbLightningNode.Routes.RecordedTerms
import RgbLightningNode.Runs.SwapStatus

/-!
# A maker swap and its payment

The payment of a swap goes out under an id that is the swap's payment hash. The
channel manager knows whether one is in flight; the stored swap is written by
requests and listings that never ask it. The two agree as long as only the events
write the swap while the payment is in flight or after it was sent.
-/

namespace RgbLightningNode

open Fallible

/-- A swap string that parses. -/
structure OfferText (ContractId : Type) [DecidableEq ContractId] [ContractIdText ContractId] where
  text : String
  swap : SwapString ContractId
  parses : SwapString.fromStr text = .ok swap

structure MakerPayment (ContractId : Type) where
  swaps : SwapNode ContractId
  /-- A payment is in flight under the swap's payment hash, until the event about
  its end has been handled. -/
  inFlight : Bool
  /-- The event that it was sent has been handled. -/
  sent : Bool

inductive MakerPaymentInput (ContractId : Type) where
  | makerExecute (ln : Lightning ContractId) (paymentSecret takerPubkey : String)
  | handOver (ln : Lightning ContractId)
  | copySwaps (ofTaker : Bool)
  | mapSwap (paymentHash : PaymentHash) (ofTaker : Bool)
  | answerListing
  | paymentSent (paymentPreimage : PaymentPreimage)
  | paymentFailed
  | elapse (seconds : Nat)

namespace MakerPayment

variable {ContractId : Type} [DecidableEq ContractId] [ContractIdText ContractId]

omit [DecidableEq ContractId] [ContractIdText ContractId] in
/-- The channel manager refuses a second payment under an id that is in flight. -/
def lightning (s : MakerPayment ContractId) (ln : Lightning ContractId) : Lightning ContractId :=
  if s.inFlight then { ln with sendSpontaneousPayment := fun _ => .error "DuplicatePayment" }
  else ln

omit [DecidableEq ContractId] [ContractIdText ContractId] in
/-- The channel manager takes the payment that is handed to it. -/
def accepts (s : MakerPayment ContractId) (ln : Lightning ContractId) : Bool :=
  match s.swaps.request with
  | .paying _ payment => ((s.lightning ln).sendSpontaneousPayment payment).isOk
  | _ => false

/-- One step for the swap of this offer. An event comes for a payment in flight
only, and ends it. -/
def step (offer : OfferText ContractId) (s : MakerPayment ContractId) :
    MakerPaymentInput ContractId → MakerPayment ContractId
  | .makerExecute ln paymentSecret takerPubkey =>
    { s with swaps := s.swaps.step (.makerExecute ln ⟨offer.text, paymentSecret, takerPubkey⟩) }
  | .handOver ln =>
    { s with
      swaps := s.swaps.step (.handOver (s.lightning ln))
      inFlight := s.inFlight || s.accepts ln }
  | .copySwaps ofTaker => { s with swaps := s.swaps.step (.copySwaps ofTaker) }
  | .mapSwap paymentHash ofTaker => { s with swaps := s.swaps.step (.mapSwap paymentHash ofTaker) }
  | .answerListing => { s with swaps := s.swaps.step .answerListing }
  | .paymentSent paymentPreimage =>
    let ev : PaymentEvent := .paymentSent paymentPreimage offer.swap.paymentHash
      (some ⟨offer.swap.paymentHash.bytes⟩)
    if s.inFlight then
      if (ev.writeOn s.swaps.node.ldkDataDir).isSome then
        ⟨s.swaps.step (.payment ev), false, true⟩
      -- the amounts could not be moved: the event is not handled
      else { s with swaps := s.swaps.step (.payment ev) }
    else s
  | .paymentFailed =>
    if s.inFlight then
      { s with
        swaps := s.swaps.step (.paymentFailed (some offer.swap.paymentHash)
          ⟨offer.swap.paymentHash.bytes⟩)
        inFlight := false }
    else s
  | .elapse seconds => { s with swaps := s.swaps.step (.elapse seconds) }

omit [DecidableEq ContractId] [ContractIdText ContractId] in
/-- The status the swap is stored with. -/
def status? (paymentHash : PaymentHash) (s : MakerPayment ContractId) : Option SwapStatus :=
  (s.swaps.node.stores.swap? false paymentHash).map SwapData.status

/-- The stored status agrees with the payment. -/
structure Agrees (paymentHash : PaymentHash) (s : MakerPayment ContractId) : Prop where
  pending : s.inFlight = true → s.status? paymentHash = some .pending
  succeeded : s.sent = true → s.status? paymentHash = some .succeeded

/-- No payment is in flight, and none was sent. -/
def Unpaid (s : MakerPayment ContractId) : Prop := s.inFlight = false ∧ s.sent = false

/-- A request to execute the swap begins a payment only when none was sent, and lets the
offer expire only when none is in flight either. A payment is handed over, and the swap
listed under another status, only when it is unpaid; a payment that is taken is one for a
swap that is still pending. -/
def WritesUnpaid (offer : OfferText ContractId) (s : MakerPayment ContractId) :
    MakerPaymentInput ContractId → Prop
  | .makerExecute ln paymentSecret takerPubkey => ∀ write,
      s.swaps.writeOf (.makerExecute ln ⟨offer.text, paymentSecret, takerPubkey⟩) = some write →
        s.sent = false ∧ (write.status = .expired → s.inFlight = false)
  | .handOver ln => (∃ paymentHash payment, s.swaps.request = .paying paymentHash payment) →
      s.Unpaid ∧ (s.accepts ln = true → s.status? offer.swap.paymentHash = some .pending)
  | .mapSwap paymentHash ofTaker => ∀ write,
      s.swaps.writeOf (.mapSwap paymentHash ofTaker) = some write →
        write.ofTaker = false → write.paymentHash = offer.swap.paymentHash → s.Unpaid
  | _ => True

/-- No HTLC is being handled, and a payment that is about to be handed over is
one for this offer. -/
structure Serves (offer : OfferText ContractId) (s : MakerPayment ContractId) : Prop where
  noHtlc : s.swaps.htlc = none
  paying : ∀ paymentHash payment, s.swaps.request = .paying paymentHash payment →
    paymentHash = offer.swap.paymentHash

variable {offer : OfferText ContractId} {s : MakerPayment ContractId}

/-! ### What one step does to the swap -/

omit [DecidableEq ContractId] [ContractIdText ContractId] in
theorem status?_of_keeps (s s' : MakerPayment ContractId) (paymentHash : PaymentHash)
    (h : s.swaps.node.stores.KeepsSwaps s'.swaps.node.stores) :
    s'.status? paymentHash = s.status? paymentHash :=
  congrArg (Option.map SwapData.status) (h false paymentHash)

omit [DecidableEq ContractId] [ContractIdText ContractId] in
theorem status?_of_writes (s s' : MakerPayment ContractId) {paymentHash : PaymentHash}
    {status : SwapStatus} {now : Nat} (hne : status ≠ .waiting)
    (h : Stores.Writes ⟨false, paymentHash, status⟩ now s.swaps.node.stores
      s'.swaps.node.stores) :
    s'.status? paymentHash = (s.status? paymentHash).map fun _ => status := by
  have hstored := h.here
  rw [Stores.Stored, if_neg hne] at hstored
  rw [status?, hstored, status?, Option.map_map, Option.map_map]
  exact congrArg (Option.map · _) (funext fun swap => SwapData.withStatus_status _ _ _)

omit [DecidableEq ContractId] [ContractIdText ContractId] in
/-- A write to another swap. -/
theorem status?_of_other (s s' : MakerPayment ContractId) {paymentHash : PaymentHash}
    {write : SwapWrite} {now : Nat}
    (hne : ¬(write.ofTaker = false ∧ write.paymentHash = paymentHash))
    (h : Stores.Writes write now s.swaps.node.stores s'.swaps.node.stores) :
    s'.status? paymentHash = s.status? paymentHash :=
  congrArg (Option.map SwapData.status)
    (h.other false paymentHash fun hb => hne ⟨hb.1.symm, hb.2.symm⟩)

theorem swapstring_of_parse {ln : Lightning ContractId} {paymentSecret takerPubkey : String}
    {parsed : MakerExecuteRequest.Parsed ContractId}
    (h : MakerExecuteRequest.parse ln ⟨offer.text, paymentSecret, takerPubkey⟩ = .ok parsed) :
    parsed.swapstring = offer.swap := by
  rw [MakerExecuteRequest.parse] at h
  simp only [offer.parses] at h
  split at h
  · cases h
  · split at h
    · cases h
    · rw [← Except.ok.inj h]

/-- A request for this offer makes the offer's swap pending or expired. -/
theorem startWrite_of_offer {ln : Lightning ContractId} {now : Nat}
    {paymentSecret takerPubkey : String} {n : Node ContractId} {write : SwapWrite}
    (h : MakerExecuteRequest.startWrite ln now ⟨offer.text, paymentSecret, takerPubkey⟩ n =
      some write) :
    write.ofTaker = false ∧ write.paymentHash = offer.swap.paymentHash ∧
      (write.status = .pending ∨ write.status = .expired) := by
  rw [MakerExecuteRequest.startWrite] at h
  cases hparse : MakerExecuteRequest.parse ln ⟨offer.text, paymentSecret, takerPubkey⟩ with
  | error exit =>
    rw [hparse] at h
    cases h
  | ok parsed =>
    have hswap := swapstring_of_parse hparse
    rw [hparse] at h
    dsimp only at h
    split at h
    · obtain rfl := Option.some.inj h
      exact ⟨rfl, congrArg SwapString.paymentHash hswap, .inr rfl⟩
    · split at h
      · obtain rfl := Option.some.inj h
        exact ⟨rfl, congrArg SwapString.paymentHash hswap, .inl rfl⟩
      · cases h

omit [DecidableEq ContractId] [ContractIdText ContractId] in
/-- A swap is listed under another status when its time is over. -/
theorem status_of_listedWrite {now : Nat} {paymentHash : PaymentHash} {ofTaker : Bool}
    {swapData : SwapData ContractId} {write : SwapWrite}
    (h : listedWrite now paymentHash ofTaker swapData = some write) :
    write.status = .expired ∨ write.status = .failed := by
  rw [listedWrite] at h
  split at h
  · rename_i status hstatus
    split at h
    · cases h
    · rename_i hne
      obtain rfl := Option.some.inj h
      rw [listedStatus] at hstatus
      split at hstatus
      · exact .inl (Except.ok.inj hstatus).symm
      · split at hstatus
        · split at hstatus
          · cases hstatus
          · have hlisted := (Except.ok.inj hstatus).symm
            split at hlisted
            · exact .inr hlisted
            · exact absurd hlisted hne
        · exact absurd (Except.ok.inj hstatus).symm hne
  · cases h

omit [DecidableEq ContractId] [ContractIdText ContractId] in
/-- The agreement depends on the status of the swap and on the payments only. -/
theorem Agrees.of_eq {paymentHash : PaymentHash} {s s' : MakerPayment ContractId}
    (h : Agrees paymentHash s) (hstatus : s'.status? paymentHash = s.status? paymentHash)
    (hinFlight : s'.inFlight = s.inFlight) (hsent : s'.sent = s.sent) : Agrees paymentHash s' :=
  ⟨fun hf => hstatus.trans (h.pending (hinFlight ▸ hf)),
    fun hf => hstatus.trans (h.succeeded (hsent ▸ hf))⟩

omit [DecidableEq ContractId] [ContractIdText ContractId] in
theorem Agrees.of_keeps {paymentHash : PaymentHash} {s s' : MakerPayment ContractId}
    (h : Agrees paymentHash s) (hkeeps : s.swaps.node.stores.KeepsSwaps s'.swaps.node.stores)
    (hinFlight : s'.inFlight = s.inFlight) (hsent : s'.sent = s.sent) : Agrees paymentHash s' :=
  h.of_eq (status?_of_keeps s s' paymentHash hkeeps) hinFlight hsent

omit [DecidableEq ContractId] [ContractIdText ContractId] in
/-- A payment in flight was not sent yet. -/
theorem Agrees.sent_eq_false {paymentHash : PaymentHash} (h : Agrees paymentHash s)
    (hinFlight : s.inFlight = true) : s.sent = false := by
  by_contra hsent
  have := (h.pending hinFlight).symm.trans (h.succeeded (by simpa using hsent))
  cases this

omit [DecidableEq ContractId] [ContractIdText ContractId] in
/-- A swap that takes another status without an event about its payment. -/
theorem agrees_iff_unpaid {paymentHash : PaymentHash} {s s' : MakerPayment ContractId}
    {status : SwapStatus} (h : Agrees paymentHash s)
    (hstatus : s'.status? paymentHash = (s.status? paymentHash).map fun _ => status)
    (hinFlight : s'.inFlight = s.inFlight) (hsent : s'.sent = s.sent)
    (hne : status ≠ .succeeded) :
    Agrees paymentHash s' ↔ s.sent = false ∧ (status ≠ .pending → s.inFlight = false) := by
  constructor
  · intro h'
    constructor
    · by_contra hs
      have hs : s.sent = true := by simpa using hs
      have := h'.succeeded (hsent ▸ hs)
      rw [hstatus, h.succeeded hs] at this
      exact hne (Option.some.inj this)
    · intro hp
      by_contra hf
      have hf : s.inFlight = true := by simpa using hf
      have := h'.pending (hinFlight ▸ hf)
      rw [hstatus, h.pending hf] at this
      exact hp (Option.some.inj this)
  · rintro ⟨hs, hf⟩
    constructor
    · intro hf'
      have hfly : s.inFlight = true := hinFlight ▸ hf'
      have hp : status = .pending := by
        by_contra hp
        rw [hf hp] at hfly
        cases hfly
      rw [hstatus, h.pending hfly, hp]
      rfl
    · intro hs'
      rw [hsent, hs] at hs'
      cases hs'

/-! ### One step -/

theorem agrees_makerExecute_iff (h : Agrees offer.swap.paymentHash s) (ln : Lightning ContractId)
    (paymentSecret takerPubkey : String) :
    Agrees offer.swap.paymentHash (s.step offer (.makerExecute ln paymentSecret takerPubkey)) ↔
      WritesUnpaid offer s (.makerExecute ln paymentSecret takerPubkey) := by
  have hchange := SwapNode.changesBy_step s.swaps
    (.makerExecute ln ⟨offer.text, paymentSecret, takerPubkey⟩)
  rw [WritesUnpaid]
  cases hw : s.swaps.writeOf (.makerExecute ln ⟨offer.text, paymentSecret, takerPubkey⟩) with
  | none =>
    rw [hw] at hchange
    exact iff_of_true (h.of_keeps hchange rfl rfl) fun write hwrite => by cases hwrite
  | some write =>
    obtain ⟨ofTaker, paymentHash, status⟩ := write
    have hspec : ofTaker = false ∧ paymentHash = offer.swap.paymentHash ∧
        (status = .pending ∨ status = .expired) := by
      rw [SwapNode.writeOf] at hw
      split at hw
      · exact startWrite_of_offer hw
      · cases hw
    obtain ⟨rfl, rfl, hstatus⟩ := hspec
    rw [hw] at hchange
    simp only [Option.some.injEq, forall_eq']
    have hne : status ≠ .waiting ∧ status ≠ .succeeded := by
      cases hstatus with
      | inl hpending => exact hpending ▸ by decide
      | inr hexpired => exact hexpired ▸ by decide
    have hafter := status?_of_writes s
      (s.step offer (.makerExecute ln paymentSecret takerPubkey)) hne.1 hchange
    rw [agrees_iff_unpaid h hafter rfl rfl hne.2]
    cases hstatus with
    | inl hpending => simp [hpending]
    | inr hexpired => simp [hexpired]

theorem agrees_handOver_iff (hs : Serves offer s) (h : Agrees offer.swap.paymentHash s)
    (ln : Lightning ContractId) :
    Agrees offer.swap.paymentHash (s.step offer (.handOver ln)) ↔
      WritesUnpaid offer s (.handOver ln) := by
  have hchange := SwapNode.changesBy_step s.swaps (.handOver (s.lightning ln))
  have hpaying := hs.paying
  rw [WritesUnpaid]
  cases hreq : s.swaps.request with
  | idle | listing copies =>
    simp only [SwapNode.writeOf, hreq] at hchange
    refine iff_of_true (h.of_keeps hchange ?_ rfl) ?_
    · simp [step, accepts, hreq]
    · rintro ⟨_, _, hno⟩
      cases hno
  | paying paymentHash payment =>
    obtain rfl := hpaying paymentHash payment hreq
    rw [← hreq, imp_iff_right ⟨_, _, hreq⟩]
    cases hreply : (s.lightning ln).sendSpontaneousPayment payment with
    | ok _ =>
      -- taken: nothing was in flight
      have haccepts : s.accepts ln = true := by
        simp [accepts, hreq, hreply, Except.isOk, Except.toBool]
      have hfree : s.inFlight = false := by
        by_contra hfly
        have hfly : s.inFlight = true := by simpa using hfly
        simp [lightning, hfly] at hreply
      simp only [SwapNode.writeOf, hreq, refusedWrite, hreply] at hchange
      have hsame := status?_of_keeps s (s.step offer (.handOver ln)) offer.swap.paymentHash hchange
      constructor
      · intro h'
        have hp := h'.pending (by simp [step, haccepts])
        rw [hsame] at hp
        refine ⟨⟨hfree, ?_⟩, fun _ => hp⟩
        by_contra hsent
        have := hp.symm.trans (h.succeeded (by simpa using hsent))
        cases this
      · rintro ⟨⟨-, hsent⟩, hp⟩
        refine ⟨fun _ => hsame.trans (hp haccepts), fun hs' => ?_⟩
        exact absurd (hsent.symm.trans hs') (by decide)
    | error e =>
      have haccepts : s.accepts ln = false := by
        simp [accepts, hreq, hreply, Except.isOk, Except.toBool]
      simp only [SwapNode.writeOf, hreq, refusedWrite, hreply] at hchange
      have hafter : (s.step offer (.handOver ln)).status? offer.swap.paymentHash =
          (s.status? offer.swap.paymentHash).map fun _ => SwapStatus.failed :=
        status?_of_writes s (s.step offer (.handOver ln)) (by decide) hchange
      rw [agrees_iff_unpaid h hafter (by simp [step, haccepts]) rfl (by decide)]
      simp [Unpaid, haccepts, and_comm]

theorem agrees_mapSwap_iff (h : Agrees offer.swap.paymentHash s) (paymentHash : PaymentHash)
    (ofTaker : Bool) :
    Agrees offer.swap.paymentHash (s.step offer (.mapSwap paymentHash ofTaker)) ↔
      WritesUnpaid offer s (.mapSwap paymentHash ofTaker) := by
  have hchange := SwapNode.changesBy_step s.swaps (.mapSwap paymentHash ofTaker)
  rw [WritesUnpaid]
  cases hw : s.swaps.writeOf (.mapSwap paymentHash ofTaker) with
  | none =>
    rw [hw] at hchange
    exact iff_of_true (h.of_keeps hchange rfl rfl) fun write hwrite => by cases hwrite
  | some write =>
    rw [hw] at hchange
    simp only [Option.some.injEq, forall_eq']
    by_cases hmine : write.ofTaker = false ∧ write.paymentHash = offer.swap.paymentHash
    swap
    · exact iff_of_true (h.of_eq (status?_of_other s _ hmine hchange) rfl rfl)
        fun htaker hhash => absurd ⟨htaker, hhash⟩ hmine
    have hstatus : write.status = .expired ∨ write.status = .failed := by
      rw [SwapNode.writeOf] at hw
      split at hw
      · obtain ⟨swapData, -, hlisted⟩ := Option.bind_eq_some_iff.mp hw
        exact status_of_listedWrite hlisted
      · cases hw
    have hne : write.status ≠ .waiting ∧ write.status ≠ .succeeded ∧ write.status ≠ .pending := by
      cases hstatus with
      | inl hexpired => exact hexpired ▸ by decide
      | inr hfailed => exact hfailed ▸ by decide
    obtain ⟨ofTaker', hash, status⟩ := write
    obtain ⟨rfl, rfl⟩ := hmine
    have hafter := status?_of_writes s (s.step offer (.mapSwap paymentHash ofTaker)) hne.1 hchange
    rw [agrees_iff_unpaid h hafter rfl rfl hne.2.1]
    simp [Unpaid, hne.2.2, and_comm]

/-- The event that the payment was sent makes the swap succeed. -/
theorem agrees_paymentSent (hs : Serves offer s) (h : Agrees offer.swap.paymentHash s)
    (paymentPreimage : PaymentPreimage) :
    Agrees offer.swap.paymentHash (s.step offer (.paymentSent paymentPreimage)) := by
  have hchange := SwapNode.changesBy_step s.swaps (.payment (.paymentSent paymentPreimage
    offer.swap.paymentHash (some ⟨offer.swap.paymentHash.bytes⟩)))
  simp only [SwapNode.writeOf, hs.noHtlc, PaymentEvent.writeOn] at hchange
  by_cases hfly : s.inFlight = true
  swap
  · rw [step, if_neg hfly]
    exact h
  rw [step, if_pos hfly, PaymentEvent.writeOn]
  split at hchange
  · rename_i dir hamounts
    simp only [Option.isSome_some, if_true]
    refine ⟨fun hf => (Bool.false_ne_true hf).elim, fun _ => ?_⟩
    have hsucceeds := status?_of_writes s
      ⟨s.swaps.step (.payment (.paymentSent paymentPreimage offer.swap.paymentHash
        (some ⟨offer.swap.paymentHash.bytes⟩))), false, true⟩ SwapStatus.noConfusion hchange
    rw [hsucceeds, h.pending hfly]
    rfl
  · rename_i hamounts
    simp only [Option.isSome_none, Bool.false_eq_true, if_false]
    exact h.of_keeps hchange rfl rfl

/-- A payment that has failed is in flight no more. -/
theorem agrees_paymentFailed (h : Agrees offer.swap.paymentHash s) :
    Agrees offer.swap.paymentHash (s.step offer .paymentFailed) := by
  by_cases hfly : s.inFlight = true
  · have hsent := h.sent_eq_false hfly
    rw [step, if_pos hfly]
    exact ⟨fun hf => (Bool.false_ne_true hf).elim,
      fun hs => (Bool.false_ne_true (hsent.symm.trans hs)).elim⟩
  · rw [step, if_neg hfly]
    exact h

theorem agrees_step_iff (hs : Serves offer s) (h : Agrees offer.swap.paymentHash s)
    (x : MakerPaymentInput ContractId) :
    Agrees offer.swap.paymentHash (s.step offer x) ↔ WritesUnpaid offer s x := by
  cases x with
  | makerExecute ln paymentSecret takerPubkey =>
    exact agrees_makerExecute_iff h ln paymentSecret takerPubkey
  | handOver ln => exact agrees_handOver_iff hs h ln
  | mapSwap paymentHash ofTaker => exact agrees_mapSwap_iff h paymentHash ofTaker
  | paymentSent paymentPreimage =>
    exact iff_of_true (agrees_paymentSent hs h paymentPreimage) trivial
  | paymentFailed => exact iff_of_true (agrees_paymentFailed h) trivial
  | copySwaps ofTaker =>
    have hchange := SwapNode.changesBy_step s.swaps (.copySwaps ofTaker)
    exact iff_of_true (h.of_keeps hchange rfl rfl) trivial
  | answerListing =>
    have hchange := SwapNode.changesBy_step s.swaps .answerListing
    exact iff_of_true (h.of_keeps hchange rfl rfl) trivial
  | elapse seconds => exact iff_of_true (h.of_eq rfl rfl rfl) trivial

/-! ### The swap of a payment -/

/-- The payment that is about to be handed over is one for the offer. -/
theorem paymentHash_of_startedPhase {ln : Lightning ContractId} {now : Nat}
    {paymentSecret takerPubkey : String} {n : Node ContractId} {paymentHash : PaymentHash}
    {payment : SpontaneousPayment ContractId}
    (h : SwapNode.startedPhase ln now ⟨offer.text, paymentSecret, takerPubkey⟩ n =
      .paying paymentHash payment) : paymentHash = offer.swap.paymentHash := by
  rw [SwapNode.startedPhase] at h
  split at h
  · rename_i hash prepared hstarted
    obtain ⟨rfl, -⟩ := RequestPhase.paying.inj h
    obtain ⟨n', hrun⟩ := outcome_fst_eq_ok_iff.mp hstarted
    rw [startMakerExecute] at hrun
    obtain ⟨parsed, n₁, hparse, hrun⟩ := bind_eq_ok_iff.mp hrun
    have hswap := swapstring_of_parse (attempt_eq_ok_iff.mp hparse).1
    split at hrun
    · -- an expired offer is paid by nobody
      obtain ⟨_, n₂, hexpire, -⟩ := bind_eq_ok_iff.mp hrun
      rw [expireOffer] at hexpire
      obtain ⟨_, n₃, -, hthrow⟩ := bind_eq_ok_iff.mp hexpire
      cases hthrow
    · obtain ⟨_, n₂, -, hrun⟩ := bind_eq_ok_iff.mp hrun
      obtain ⟨_, n₃, -, hrun⟩ := bind_eq_ok_iff.mp hrun
      obtain ⟨_, n₄, -, hrun⟩ := bind_eq_ok_iff.mp hrun
      cases hrun
      rw [hswap]
  · cases h

theorem Serves.of_eq {s' : MakerPayment ContractId} (hs : Serves offer s)
    (hhtlc : s'.swaps.htlc = s.swaps.htlc) (hrequest : s'.swaps.request = s.swaps.request) :
    Serves offer s' :=
  ⟨hhtlc.trans hs.noHtlc, fun paymentHash payment h => hs.paying paymentHash payment
    (hrequest.symm.trans h)⟩

theorem Serves.step (hs : Serves offer s) (x : MakerPaymentInput ContractId) :
    Serves offer (s.step offer x) := by
  obtain ⟨⟨node, now, request, htlc⟩, inFlight, sent⟩ := s
  obtain rfl : htlc = none := hs.noHtlc
  cases x with
  | makerExecute ln paymentSecret takerPubkey =>
    cases request with
    | idle => exact ⟨rfl, fun paymentHash payment h => paymentHash_of_startedPhase h⟩
    | listing | paying => exact hs
  | handOver ln =>
    cases request with
    | paying => exact ⟨rfl, fun paymentHash payment h => by cases h⟩
    | idle | listing => exact hs.of_eq rfl rfl
  | copySwaps ofTaker =>
    cases request with
    | idle | listing => exact ⟨rfl, fun paymentHash payment h => by cases h⟩
    | paying => exact hs
  | mapSwap paymentHash ofTaker =>
    cases request with
    | listing copies =>
      rw [MakerPayment.step, SwapNode.step]
      dsimp only
      split
      · exact hs.of_eq rfl rfl
      · exact hs
    | idle | paying => exact hs
  | answerListing =>
    cases request with
    | listing => exact ⟨rfl, fun paymentHash payment h => by cases h⟩
    | idle | paying => exact hs
  | paymentSent paymentPreimage =>
    rw [MakerPayment.step]
    dsimp only
    split
    · split <;> exact hs.of_eq rfl rfl
    · exact hs
  | paymentFailed =>
    rw [MakerPayment.step]
    split
    · exact hs.of_eq rfl rfl
    · exact hs
  | elapse seconds => exact hs.of_eq rfl rfl

/-! ### Runs -/

def quietly (offer : OfferText ContractId) (s : MakerPayment ContractId)
    (x : MakerPaymentInput ContractId) : Unit × MakerPayment ContractId :=
  ((), s.step offer x)

/-- A maker before any payment of the swap, with its swaps as they are. -/
def unpaidMaker (node : Node ContractId) (now : Nat) : MakerPayment ContractId :=
  ⟨⟨node, now, .idle, none⟩, false, false⟩

theorem serves_unpaidMaker (offer : OfferText ContractId) (node : Node ContractId) (now : Nat) :
    Serves offer (unpaidMaker node now) :=
  ⟨rfl, fun paymentHash payment h => by cases h⟩

omit [DecidableEq ContractId] [ContractIdText ContractId] in
theorem agrees_unpaidMaker (paymentHash : PaymentHash) (node : Node ContractId) (now : Nat) :
    Agrees paymentHash (unpaidMaker node now) :=
  ⟨fun h => (Bool.false_ne_true h).elim, fun h => (Bool.false_ne_true h).elim⟩

/-- In every run, the stored status agrees with the payment if and only if no
request and no listing writes the swap of a payment that is in flight or sent. -/
theorem agrees_run_iff (offer : OfferText ContractId) (node : Node ContractId) (now : Nat)
    (xs : List (MakerPaymentInput ContractId)) :
    Mealy.Along (quietly offer)
        (fun s x => Agrees offer.swap.paymentHash (s.step offer x)) (unpaidMaker node now) xs ↔
      Mealy.Along (quietly offer) (WritesUnpaid offer) (unpaidMaker node now) xs := by
  refine Mealy.along_iff_of_invariant
    (I := fun s => Serves offer s ∧ Agrees offer.swap.paymentHash s) ?_ ?_ ?_
  · intro s x hs
    exact agrees_step_iff hs.1 hs.2 x
  · intro s x hs hx
    exact ⟨hs.1.step x, (agrees_step_iff hs.1 hs.2 x).mpr hx⟩
  · exact ⟨serves_unpaidMaker offer node now, agrees_unpaidMaker _ node now⟩

/-- The maker's offer of 5 of contract 1 against 1000 msat, until 200. -/
def assetOffer : OfferText ℕ where
  text := (⟨⟨1000, 5, none, some 1, 200⟩, ⟨Vector.replicate 32 7⟩⟩ : SwapString ℕ).display
  swap := ⟨⟨1000, 5, none, some 1, 200⟩, ⟨Vector.replicate 32 7⟩⟩
  parses := by decide +kernel

/-- The same request twice: the payment of the second one is refused. -/
def executedTwice : List (MakerPaymentInput ℕ) :=
  let request := .makerExecute MakerExecuteRequest.directLightning
    (hexStr (List.replicate 32 9)) "taker"
  [request, .handOver MakerExecuteRequest.directLightning,
    request, .handOver MakerExecuteRequest.directLightning]

/-- The swap has failed, and its payment is in flight. -/
theorem fails_in_flight :
    ¬∀ (offer : OfferText ℕ) (node : Node ℕ) (now : Nat) (xs : List (MakerPaymentInput ℕ)),
      Mealy.Along (quietly offer) (fun s x => Agrees offer.swap.paymentHash (s.step offer x))
        (unpaidMaker node now) xs := by
  intro h
  have hlast := (h assetOffer MakerExecuteRequest.offeringMaker 150 executedTwice).2.2.2.1
  have hpending := hlast.pending (by decide +kernel)
  revert hpending
  decide +kernel

end MakerPayment

end RgbLightningNode
