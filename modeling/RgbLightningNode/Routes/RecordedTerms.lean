import RgbLightningNode.Routes.MakerExecute

/-!
# The terms a maker pays

The maker gets its swap string as free text. The payment is built from the terms of
the text; the recorded swap of its payment hash is only marked.
-/

namespace RgbLightningNode

open Fallible Node

variable {ContractId : Type} [DecidableEq ContractId]

namespace MakerExecuteRequest

/-! ### What the request does -/

omit [DecidableEq ContractId] in
theorem sentPayments_after_onStores {α : Type}
    (x : Fallible (Exit APIError) (Stores ContractId) α) (n : Node ContractId) :
    (after (onStores x) n).sentPayments = n.sentPayments := by
  rw [onStores, after_zoom]

omit [DecidableEq ContractId] in
/-- The payment is on record also when the channel manager refuses it. -/
theorem sentPayments_after_sendPayment (ln : Lightning ContractId) (paymentHash : PaymentHash)
    (now : Nat) (payment : SpontaneousPayment ContractId) (n : Node ContractId) :
    (after (sendPayment ln paymentHash now payment) n).sentPayments =
      n.sentPayments ++ [payment] := by
  rw [sendPayment, after_bind_of_ok (modify_apply _ n)]
  rcases ln.sendSpontaneousPayment payment with e | ⟨⟩
  · simp only
    rcases hu : (onStores (Stores.updateMakerSwapStatus paymentHash .failed now) :
        Fallible (Exit APIError) (Node ContractId) Unit)
        { n with sentPayments := n.sentPayments ++ [payment] } with ⟨⟨⟩, n'⟩ | ⟨exit, n'⟩
    · rw [after_bind_of_ok hu, after_of_error (throw_apply _ n'), ← after_of_ok hu,
        sentPayments_after_onStores]
    · rw [after_bind_of_error hu, ← after_of_error hu, sentPayments_after_onStores]
  · rfl

omit [DecidableEq ContractId] in
/-- Without a recorded swap the request panics before it pays. -/
theorem sentPayments_after_payAlong_of_unrecorded (ln : Lightning ContractId)
    (s : SwapString ContractId) (now : Nat) (payment : SpontaneousPayment ContractId)
    (n : Node ContractId) (hl : n.stores.makerSwaps.lookup s.paymentHash = none) :
    (after (payAlong ln s now payment) n).sentPayments = n.sentPayments := by
  have hu : ∀ n' : Node ContractId, n'.stores = n.stores → ∃ exit n'',
      (onStores (Stores.updateMakerSwapStatus s.paymentHash .pending now) :
        Fallible (Exit APIError) (Node ContractId) Unit) n' = .error exit n'' := by
    intro n' hn
    rcases h : (onStores (Stores.updateMakerSwapStatus s.paymentHash .pending now) :
        Fallible (Exit APIError) (Node ContractId) Unit) n' with ⟨⟨⟩, n''⟩ | ⟨exit, n''⟩
    · obtain ⟨st, hst, -⟩ := zoom_eq_ok_iff.mp h
      obtain ⟨swap, hs, -⟩ := Stores.updateMakerSwapStatus_eq_ok_iff.mp hst
      rw [hn, hl] at hs
      cases hs
    · exact ⟨exit, n'', rfl⟩
  obtain ⟨exit, n'', h⟩ := hu { n with ldkDataDir := recordSwapPayment ln s n.ldkDataDir } rfl
  rw [payAlong, after_bind_of_ok (modify_apply _ n), after_bind_of_error h, ← after_of_error h,
    sentPayments_after_onStores]

omit [DecidableEq ContractId] in
theorem sentPayments_after_payAlong (ln : Lightning ContractId) (s : SwapString ContractId)
    (now : Nat) (payment : SpontaneousPayment ContractId) (n : Node ContractId)
    {swap : SwapData ContractId} (hl : n.stores.makerSwaps.lookup s.paymentHash = some swap) :
    (after (payAlong ln s now payment) n).sentPayments = n.sentPayments ++ [payment] := by
  have hu := onStores_of_ok
    (n := { n with ldkDataDir := recordSwapPayment ln s n.ldkDataDir })
    (Stores.updateMakerSwapStatus_of_lookup (ε := APIError) now hl
      (show SwapStatus.pending ≠ .waiting by decide))
  rw [payAlong, after_bind_of_ok (modify_apply _ n), after_bind_of_ok hu,
    sentPayments_after_sendPayment]

variable [ContractIdText ContractId]

/-- The request passes its checks with this payment. -/
structure Prepares (ln : Lightning ContractId) (now : Nat) (req : MakerExecuteRequest)
    (n : Node ContractId) (parsed : Parsed ContractId)
    (payment : SpontaneousPayment ContractId) : Prop where
  parses : req.parse ln = .ok parsed
  inTime : now ≤ parsed.swapstring.swapInfo.expiry
  prepared : preparePayment ln parsed n.ldkDataDir = .ok payment

/-- The payments the request hands to the channel manager. -/
def paymentsSent (ln : Lightning ContractId) (now : Nat) (req : MakerExecuteRequest)
    (n : Node ContractId) : List (SpontaneousPayment ContractId) :=
  (after (makerExecute ln now req) n).sentPayments.drop n.sentPayments.length

variable {ln : Lightning ContractId} {now : Nat} {req : MakerExecuteRequest}
  {n : Node ContractId} {parsed : Parsed ContractId} {payment : SpontaneousPayment ContractId}

theorem after_makerExecute_of_prepares (h : Prepares ln now req n parsed payment) :
    after (makerExecute ln now req) n = after (payAlong ln parsed.swapstring now payment) n := by
  rw [makerExecute, h.parses, after_bind_of_ok (attempt_ok parsed n),
    if_neg (Nat.not_lt.mpr h.inTime), after_bind_of_ok (get_apply n), h.prepared,
    after_bind_of_ok (attempt_ok payment n)]

/-- A request that passes its checks pays if the swap is recorded. -/
theorem paymentsSent_of_prepares (h : Prepares ln now req n parsed payment)
    {swap : SwapData ContractId}
    (hl : n.stores.makerSwaps.lookup parsed.swapstring.paymentHash = some swap) :
    paymentsSent ln now req n = [payment] := by
  rw [paymentsSent, after_makerExecute_of_prepares h, sentPayments_after_payAlong _ _ _ _ _ hl,
    List.drop_left]

omit [DecidableEq ContractId] [ContractIdText ContractId] in
theorem sentPayments_after_expireOffer (paymentHash : PaymentHash) (now : Nat)
    (n : Node ContractId) :
    (after (expireOffer paymentHash now) n).sentPayments = n.sentPayments := by
  rw [expireOffer]
  rcases hu : (onStores (Stores.updateMakerSwapStatus paymentHash .expired now) :
      Fallible (Exit APIError) (Node ContractId) Unit) n with ⟨⟨⟩, n'⟩ | ⟨exit, n'⟩
  · rw [after_bind_of_ok hu, after_of_error (throw_apply _ n'), ← after_of_ok hu,
      sentPayments_after_onStores]
  · rw [after_bind_of_error hu, ← after_of_error hu, sentPayments_after_onStores]

/-- Only a request that passes its checks, for a recorded swap, pays. -/
theorem prepares_of_mem (h : payment ∈ paymentsSent ln now req n) :
    ∃ parsed swap, Prepares ln now req n parsed payment ∧
      n.stores.makerSwaps.lookup parsed.swapstring.paymentHash = some swap := by
  -- every way to stop early leaves the payments sent as they were
  have hsame : (after (makerExecute ln now req) n).sentPayments ≠ n.sentPayments := by
    intro hn
    rw [paymentsSent, hn, List.drop_length] at h
    cases h
  rcases hp : req.parse ln with exit | parsed
  · refine absurd ?_ hsame
    rw [makerExecute, hp, after_bind_of_error (attempt_error exit n)]
  by_cases hle : now ≤ parsed.swapstring.swapInfo.expiry
  swap
  · refine absurd ?_ hsame
    rw [makerExecute, hp, after_bind_of_ok (attempt_ok parsed n), if_pos (by omega),
      sentPayments_after_expireOffer]
  rcases hprep : preparePayment ln parsed n.ldkDataDir with exit | payment'
  · refine absurd ?_ hsame
    rw [makerExecute, hp, after_bind_of_ok (attempt_ok parsed n), if_neg (by omega),
      after_bind_of_ok (get_apply n), hprep, after_bind_of_error (attempt_error exit n)]
  have hr : Prepares ln now req n parsed payment' := ⟨hp, hle, hprep⟩
  rcases hl : n.stores.makerSwaps.lookup parsed.swapstring.paymentHash with _ | swap
  · refine absurd ?_ hsame
    rw [after_makerExecute_of_prepares hr, sentPayments_after_payAlong_of_unrecorded _ _ _ _ _ hl]
  · rw [paymentsSent_of_prepares hr hl, List.mem_singleton] at h
    exact ⟨parsed, swap, h ▸ hr, hl⟩

/-! ### Which terms are paid -/

/-- The payment is the one that the recorded swap of the request's payment hash
stands for, and that swap was waiting. -/
def PaysRecorded (ln : Lightning ContractId) (req : MakerExecuteRequest) (n : Node ContractId)
    (payment : SpontaneousPayment ContractId) : Prop :=
  ∃ parsed swap, req.parse ln = .ok parsed ∧
    n.stores.makerSwaps.lookup parsed.swapstring.paymentHash = some swap ∧
    swap.status = .waiting ∧ swap.swapInfo = parsed.swapstring.swapInfo ∧
    buildRoute ln swap.swapInfo parsed.takerPk n.ldkDataDir = .ok payment.hops

omit [ContractIdText ContractId] in
theorem buildRoute_of_preparePayment {dir : LdkDataDir ContractId}
    (h : preparePayment ln parsed dir = .ok payment) :
    buildRoute ln parsed.swapstring.swapInfo parsed.takerPk dir = .ok payment.hops := by
  unfold preparePayment at h
  split at h
  · cases h
  · rcases hb : buildRoute ln parsed.swapstring.swapInfo parsed.takerPk dir with exit | hops
    · rw [hb] at h
      cases h
    · rw [hb] at h
      rw [← Except.ok.inj h]

/-- Every payment a request sends is for the recorded terms of a waiting swap if and only
if the recorded swap of a request that passes its checks is waiting and has the terms of
the request's swap string. -/
theorem paysRecorded_iff (ln : Lightning ContractId) (now : Nat) (req : MakerExecuteRequest)
    (n : Node ContractId) :
    (∀ payment ∈ paymentsSent ln now req n, PaysRecorded ln req n payment) ↔
      ∀ parsed payment swap, Prepares ln now req n parsed payment →
        n.stores.makerSwaps.lookup parsed.swapstring.paymentHash = some swap →
        swap.status = .waiting ∧ swap.swapInfo = parsed.swapstring.swapInfo := by
  constructor
  · intro h parsed payment swap hr hl
    have hmem : payment ∈ paymentsSent ln now req n := by
      rw [paymentsSent_of_prepares hr hl]
      exact List.mem_singleton_self payment
    obtain ⟨parsed', swap', hp', hl', hw, hi, -⟩ := h payment hmem
    obtain rfl := Except.ok.inj (hr.parses.symm.trans hp')
    obtain rfl := Option.some.inj (hl.symm.trans hl')
    exact ⟨hw, hi⟩
  · intro h payment hmem
    obtain ⟨parsed, swap, hr, hl⟩ := prepares_of_mem hmem
    obtain ⟨hw, hi⟩ := h parsed payment swap hr hl
    exact ⟨parsed, swap, hr.parses, hl, hw, hi, by
      rw [hi]
      exact buildRoute_of_preparePayment hr.prepared⟩

/-- What such a payment carries: to the taker what the maker has recorded that it
gives, and back what it has recorded that it gets. -/
theorem PaysRecorded.carries (h : PaysRecorded ln req n payment) :
    ∃ parsed swap there back, req.parse ln = .ok parsed ∧
      n.stores.makerSwaps.lookup parsed.swapstring.paymentHash = some swap ∧
      payment.hops = there ++ back ∧
      (∀ asset, swap.swapInfo.toAsset = some asset →
        ∀ hop ∈ there, hop.rgbPayment = some (asset, swap.swapInfo.qtyTo)) ∧
      (∀ asset, swap.swapInfo.fromAsset = some asset →
        ∀ hop ∈ back, hop.rgbPayment = some (asset, swap.swapInfo.qtyFrom)) := by
  obtain ⟨parsed, swap, hp, hl, -, -, hroute⟩ := h
  obtain ⟨there, back, hhops, hthere, hback⟩ := carries_of_buildRoute hroute
  exact ⟨parsed, swap, there, back, hp, hl, hhops, hthere, hback⟩

/-! ### A changed offer -/

/-- A Lightning library that knows every preimage and finds a direct route. -/
def directLightning : Lightning ℕ where
  overflowChecks := false
  ourNodeId := ⟨Vector.replicate 33 2⟩
  publicKeyFromStr := fun _ => some ⟨Vector.replicate 33 3⟩
  getPaymentPreimage := fun _ _ => some ⟨Vector.replicate 32 8⟩
  listUsableChannels := []
  getRoute := fun query => some [[⟨query.dest, 1, 0, none⟩]]
  isSwapScid := 2 ^ 63
  writeRgbPaymentInfoFile := fun _ _ _ _ _ dir => dir
  sendSpontaneousPayment := fun _ => .ok ()

/-- A maker that has offered 5 of contract 1 against 1000 msat, until 200. -/
def offeringMaker : Node ℕ where
  stores := Stores.addMakerSwap ⟨Vector.replicate 32 7⟩
    (SwapData.createFromSwapInfo ⟨1000, 5, none, some 1, 200⟩ 100) (Stores.load ∅)
  ldkDataDir := ⟨∅, ∅, []⟩
  channels := []
  interceptCalls := []

/-- The changed offer, for 1 msat. -/
def rewrittenOffer : MakerExecuteRequest where
  swapstring := (⟨⟨1, 5, none, some 1, 200⟩, ⟨Vector.replicate 32 7⟩⟩ : SwapString ℕ).display
  paymentSecret := hexStr (List.replicate 32 9)
  takerPubkey := "taker"

theorem rewrittenOffer_prepares :
    Prepares directLightning 150 rewrittenOffer offeringMaker
      ⟨⟨⟨1, 5, none, some 1, 200⟩, ⟨Vector.replicate 32 7⟩⟩, ⟨Vector.replicate 32 9⟩,
        ⟨Vector.replicate 33 3⟩⟩
      ⟨[⟨⟨Vector.replicate 33 3⟩, 1, 0, some (1, 5)⟩,
        ⟨⟨Vector.replicate 33 2⟩, 2 ^ 63 + 1, 0, none⟩],
        ⟨Vector.replicate 32 8⟩, ⟨Vector.replicate 32 7⟩⟩ :=
  ⟨by decide +kernel, by decide, by decide +kernel⟩

/-- The maker pays 5 of contract 1 for 1 msat. -/
theorem pays_rewritten_terms :
    ¬∀ (ln : Lightning ℕ) (now : Nat) (req : MakerExecuteRequest) (n : Node ℕ),
      ∀ payment ∈ paymentsSent ln now req n, PaysRecorded ln req n payment := by
  intro hall
  have hr := rewrittenOffer_prepares
  have hl : offeringMaker.stores.makerSwaps.lookup ⟨Vector.replicate 32 7⟩ =
      some (SwapData.createFromSwapInfo ⟨1000, 5, none, some 1, 200⟩ 100) := by
    decide
  have hsent := paymentsSent_of_prepares hr hl
  obtain ⟨parsed, swap, hp, hl', -, hi, -⟩ :=
    hall _ _ _ _ _ (by rw [hsent]; exact List.mem_singleton_self _)
  obtain rfl := Except.ok.inj (hr.parses.symm.trans hp)
  obtain rfl := Option.some.inj (hl.symm.trans hl')
  exact absurd hi (by decide)

end MakerExecuteRequest

end RgbLightningNode
