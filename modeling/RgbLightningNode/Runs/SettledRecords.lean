import RgbLightningNode.Runs.OutboundPayments

/-!
# Outbound records tell what became of the payment

A record says succeeded exactly when an event has brought the preimage of the
payment while it was in flight, and it keeps that preimage from then on. A
payment in flight is recorded as pending, and after a restart nothing else is.
-/

namespace RgbLightningNode

open Fallible

variable {ContractId : Type}

/-! ### What the writes leave under an id -/

namespace Stores

variable {ε : Type} {s s' : Stores ContractId} {paymentId other : PaymentId}

/-- The payment is recorded as succeeded, with this preimage. -/
def SucceededWith (s : Stores ContractId) (paymentId : PaymentId)
    (preimage : Option PaymentPreimage) : Prop :=
  ∃ info, s.outboundPayments.lookup paymentId = some info ∧ info.status = .succeeded ∧
    info.preimage = preimage

variable {preimage : Option PaymentPreimage}

theorem SucceededWith.outboundStatus (h : s.SucceededWith paymentId preimage) :
    s.OutboundStatus paymentId .succeeded := by
  obtain ⟨info, hl, hs, -⟩ := h
  exact ⟨info, hl, hs⟩

theorem not_succeededWith {status : HTLCStatus} (h : s.OutboundStatus paymentId status)
    (hne : status ≠ .succeeded) : ¬ s.SucceededWith paymentId preimage :=
  fun hs => hne (h.unique hs.outboundStatus)

theorem succeededWith_congr
    (h : s'.outboundPayments.lookup paymentId = s.outboundPayments.lookup paymentId) :
    s'.SucceededWith paymentId preimage ↔ s.SucceededWith paymentId preimage := by
  simp only [SucceededWith, h]

/-- The swaps are no payments. -/
theorem succeededWith_updateMakerSwapStatus (paymentHash : PaymentHash) (status : SwapStatus)
    (now : Nat) (s : Stores ContractId) :
    (after (updateMakerSwapStatus paymentHash status now : Fallible (Exit ε) _ Unit)
      s).SucceededWith paymentId preimage ↔ s.SucceededWith paymentId preimage := by
  refine after_of_unchanged (P := fun t : Stores ContractId =>
    t.SucceededWith paymentId preimage ↔ s.SucceededWith paymentId preimage) (s := s) Iff.rfl
    (fun _ s' hu => ?_) fun _ _ hu => updateMakerSwapStatus_error hu
  obtain ⟨swap, -, -, rfl⟩ := updateMakerSwapStatus_eq_ok_iff.mp hu
  exact Iff.rfl

/-- The sweep at the start fails pending payments only. -/
theorem succeededWith_failOutboundPendingPayments (order recent : List PaymentId)
    (now : PaymentId → Nat) (s : Stores ContractId) :
    (s.failOutboundPendingPayments order recent now).SucceededWith paymentId preimage ↔
      s.SucceededWith paymentId preimage := by
  have hlookup := congrArg (Finmap.lookup paymentId)
    (outboundPayments_failOutboundPendingPayments order recent now s)
  obtain hsame | ⟨info, hl, hp, -, hfailed⟩ :=
    lookup_failPending recent now order s.outboundPayments false paymentId
  · exact succeededWith_congr (hlookup.trans hsame)
  · exact iff_of_false (not_succeededWith ⟨_, hlookup.trans hfailed, rfl⟩ (by simp))
      (not_succeededWith ⟨info, hl, hp⟩ (by decide))

/-- The sweep at the start takes the pending mark from what is not in flight. -/
theorem not_pending_of_failPending (recent : List PaymentId) (now : PaymentId → Nat)
    {ids : List PaymentId} {payments : HashMap PaymentId PaymentInfo} {failed : Bool}
    {info : PaymentInfo} (hid : paymentId ∈ ids) (hr : paymentId ∉ recent)
    (hl : (failPending recent now ids payments failed).1.lookup paymentId = some info) :
    info.status ≠ .pending := by
  induction ids generalizing payments failed with
  | nil => cases hid
  | cons other ids ih =>
    -- a record that is not pending when its turn has come stays as it is
    have hrest : ∀ {payments failed}, other = paymentId →
        (∀ info, payments.lookup other = some info → info.status ≠ .pending) →
        (failPending recent now ids payments failed).1.lookup paymentId = some info →
        info.status ≠ .pending := by
      rintro payments failed rfl hnot hl
      obtain hsame | ⟨info', hl', hp, -, -⟩ :=
        lookup_failPending recent now ids payments failed other
      · exact hnot info (hsame.symm.trans hl)
      · exact absurd hp (hnot info' hl')
    rw [failPending] at hl
    rcases hlo : payments.lookup other with _ | info'
    · simp only [hlo] at hl
      obtain rfl | hid := List.mem_cons.mp hid
      · exact hrest rfl (by simp [hlo]) hl
      · exact ih hid hl
    by_cases hp : info'.status = .pending ∧ other ∉ recent
    · simp only [hlo, if_pos hp] at hl
      obtain rfl | hid := List.mem_cons.mp hid
      · exact hrest rfl (by simp [Finmap.lookup_insert]) hl
      · exact ih hid hl
    · simp only [hlo, if_neg hp] at hl
      obtain rfl | hid := List.mem_cons.mp hid
      · refine hrest rfl (fun info hl' => ?_) hl
        obtain rfl := Option.some.inj (hlo.symm.trans hl')
        exact fun hpending => hp ⟨hpending, hr⟩
      · exact ih hid hl

end Stores

namespace PaymentEvent

open Stores

variable {s : Stores ContractId} {paymentId : PaymentId} {preimage : Option PaymentPreimage}
  {status : HTLCStatus}

/-- A payment that was sent is recorded with its preimage, unless its hash is
one of a maker swap. -/
theorem succeededWith_paymentSent_iff (paymentPreimage : PaymentPreimage)
    (paymentHash : PaymentHash) (now : Nat) (h : s.OutboundStatus paymentId .pending) :
    (after (recordOutcome now (paymentSent paymentPreimage paymentHash (some paymentId)))
        s).SucceededWith paymentId preimage ↔
      s.isMakerSwap paymentHash = false ∧ preimage = some paymentPreimage := by
  rw [recordOutcome, after_bind_of_ok (get_apply s)]
  cases hswap : s.isMakerSwap paymentHash with
  | true =>
    rw [if_pos rfl, succeededWith_updateMakerSwapStatus]
    exact iff_of_false (not_succeededWith h (by decide)) fun hn => by cases hn.1
  | false =>
    obtain ⟨info, hl, -⟩ := h
    rw [if_neg Bool.false_ne_true, after_bind_of_ok (expect_some paymentId _ s), after_discard,
      after_of_ok (updateOutboundPayment_of_lookup _ _ _ hl)]
    simp only [SucceededWith, saveOutboundPayments, Finmap.lookup_insert, Option.some.injEq,
      exists_eq_left', true_and]
    exact eq_comm

/-- A payment that has failed is not recorded as succeeded. -/
theorem not_succeededWith_paymentFailed (paymentHash : Option PaymentHash) (now : Nat)
    (h : s.OutboundStatus paymentId .pending) :
    ¬ (after (paymentFailed now paymentHash paymentId) s).SucceededWith paymentId preimage := by
  have hmark : ¬ (after (updateOutboundPaymentStatus paymentId .failed now :
      Fallible (Exit ReplayEvent) _ Unit) s).SucceededWith paymentId preimage :=
    not_succeededWith (outboundStatus_updateOutboundPaymentStatus .failed now h) (by decide)
  rw [paymentFailed, after_bind_of_ok (get_apply s)]
  cases paymentHash with
  | none => exact hmark
  | some hash =>
    dsimp only
    split
    · rw [succeededWith_updateMakerSwapStatus]
      exact not_succeededWith h (by decide)
    · exact hmark

end PaymentEvent

/-! ### One step -/

namespace PaymentNode

open Stores

/-- The step handles the event that the payment in flight was sent, with this
preimage and under a hash that is none of a maker swap. -/
def Settles (paymentId : PaymentId) (preimage : Option PaymentPreimage)
    (s : PaymentNode ContractId) : PaymentInput ContractId → Prop
  | .paymentSent paymentPreimage paymentHash id _ =>
    id = paymentId ∧ paymentId ∈ s.inFlight ∧ s.stores.isMakerSwap paymentHash = false ∧
      preimage = some paymentPreimage
  | _ => False

variable {s : PaymentNode ContractId} {paymentId : PaymentId} {preimage : Option PaymentPreimage}

/-- A request that begins neither makes nor takes away a success. -/
theorem succeededWith_begin_iff {prepared : Except (Exit APIError) (OutboundPayment ContractId)}
    (hp : ∀ payment, prepared = .ok payment → payment.info.status = .pending) :
    (s.begin prepared).stores.SucceededWith paymentId preimage ↔
      s.stores.SucceededWith paymentId preimage := by
  obtain hsame | ⟨payment, hprep, hfree, hbegin⟩ := begin_cases s prepared
  · rw [hsame]
  rw [hbegin]
  by_cases hid : paymentId = payment.paymentId
  · subst hid
    refine iff_of_false (not_succeededWith ⟨payment.info, Finmap.lookup_insert _, hp payment hprep⟩
      (by decide)) ?_
    rintro ⟨existing, hl, hs, -⟩
    exact absurd (hs.symm.trans (hfree existing hl)) (by decide)
  · exact succeededWith_congr (Finmap.lookup_insert_of_ne _ hid)

variable [ContractIdText ContractId]

theorem Inv.succeededWith_step (h : s.Inv) (x : PaymentInput ContractId) :
    (PaymentNode.step s x).2.stores.SucceededWith paymentId preimage ↔
      s.stores.SucceededWith paymentId preimage ∨ s.Settles paymentId preimage x := by
  have hother : ∀ {other stores}, TouchesOutbound other s.stores stores → paymentId ≠ other →
      (stores.SucceededWith paymentId preimage ↔ s.stores.SucceededWith paymentId preimage) :=
    fun ht hne => succeededWith_congr (ht.others paymentId hne)
  cases x with
  | sendPayment lib req random now =>
    refine Iff.trans ?_ (or_iff_left id).symm
    exact succeededWith_begin_iff fun _ => status_of_prepareSendPayment
  | keysend lib req random now =>
    refine Iff.trans ?_ (or_iff_left id).symm
    exact succeededWith_begin_iff fun _ => status_of_prepareKeysend
  | handOver accepted =>
    refine Iff.trans ?_ (or_iff_left id).symm
    simp only [PaymentNode.step]
    split
    · cases accepted <;> exact Iff.rfl
    · exact Iff.rfl
  | markFailed now =>
    refine Iff.trans ?_ (or_iff_left id).symm
    have hr := h.request
    unfold RequestInv at hr
    simp only [PaymentNode.step]
    rcases hreq : s.request with _ | _ | ⟨other, _ | marks⟩
    · exact Iff.rfl
    · exact Iff.rfl
    · exact Iff.rfl
    rw [hreq] at hr
    obtain ⟨-, status, hs, hne⟩ := hr
    by_cases hid : paymentId = other
    · subst hid
      have hfailed := outboundStatus_updateOutboundPaymentStatus (ε := APIError) .failed now hs
      exact iff_of_false (not_succeededWith hfailed (by decide)) (not_succeededWith hs hne)
    · exact hother (touchesOutbound_updateOutboundPaymentStatus other .failed now _) hid
  | paymentSent paymentPreimage paymentHash other now =>
    simp only [PaymentNode.step, Settles]
    split
    · rename_i hmem
      by_cases hid : paymentId = other
      · subst hid
        have hpending := h.pending paymentId hmem
        rw [PaymentEvent.succeededWith_paymentSent_iff _ _ _ hpending,
          or_iff_right (not_succeededWith hpending (by decide))]
        simp [hmem]
      · refine (hother (PaymentEvent.touchesOutbound_paymentSent _ _ other _ _) hid).trans
          (or_iff_left ?_).symm
        exact fun hs => hid hs.1.symm
    · rename_i hmem
      refine (or_iff_left ?_).symm
      rintro ⟨rfl, hin, -⟩
      exact hmem hin
  | paymentFailed paymentHash other now =>
    refine Iff.trans ?_ (or_iff_left id).symm
    simp only [PaymentNode.step]
    split
    · rename_i hmem
      by_cases hid : paymentId = other
      · subst hid
        have hpending := h.pending paymentId hmem
        exact iff_of_false (PaymentEvent.not_succeededWith_paymentFailed _ _ hpending)
          (not_succeededWith hpending (by decide))
      · exact hother (PaymentEvent.touchesOutbound_paymentFailed _ other _ _) hid
    · exact Iff.rfl
  | restart lost order now =>
    have hload : (load s.stores.fsStore).outboundPayments = s.stores.outboundPayments := h.synced
    refine Iff.trans ?_ (or_iff_left id).symm
    exact (succeededWith_failOutboundPendingPayments _ _ _ _).trans
      (succeededWith_congr (congrArg (Finmap.lookup paymentId) hload))

/-! ### A restart -/

/-- After a restart exactly the payments in flight are pending, of those that
the sweep has gone through. -/
theorem Inv.pending_restart_iff (h : s.Inv) (lost order : List PaymentId) (now : PaymentId → Nat)
    (hid : paymentId ∈ order) :
    (PaymentNode.step s (.restart lost order now)).2.stores.OutboundStatus paymentId .pending ↔
      paymentId ∈ (PaymentNode.step s (.restart lost order now)).2.inFlight := by
  refine ⟨fun hs => ?_, (h.step _).pending paymentId⟩
  obtain ⟨info, hl, hp⟩ := hs
  by_contra hnot
  rw [PaymentNode.step, startStores, outboundPayments_failOutboundPendingPayments] at hl
  exact not_pending_of_failPending _ now hid hnot hl hp

/-! ### Whole runs -/

/-- Over every run, a payment is recorded as succeeded exactly when it was
recorded so at the start or some step has handled the event that it was sent,
and then with the preimage of that event; what is in flight is pending; and of
the records that a restart goes through, exactly those of payments in flight
are still pending. -/
theorem records_account (fs : HashMap String (Persisted ContractId)) (order : List PaymentId)
    (now : PaymentId → Nat) (xs : List (PaymentInput ContractId)) :
    (∀ paymentId preimage,
      (Mealy.final PaymentNode.step (start fs order now) xs).stores.SucceededWith paymentId
          preimage ↔
        (start fs order now).stores.SucceededWith paymentId preimage ∨
          Mealy.Sometime PaymentNode.step (Settles paymentId preimage) (start fs order now) xs) ∧
      (∀ paymentId ∈ (Mealy.final PaymentNode.step (start fs order now) xs).inFlight,
        (Mealy.final PaymentNode.step (start fs order now) xs).stores.OutboundStatus paymentId
          .pending) ∧
      ∀ lost swept later, ∀ paymentId ∈ swept,
        (PaymentNode.step (Mealy.final PaymentNode.step (start fs order now) xs)
            (.restart lost swept later)).2.stores.OutboundStatus paymentId .pending ↔
          paymentId ∈ (PaymentNode.step (Mealy.final PaymentNode.step (start fs order now) xs)
            (.restart lost swept later)).2.inFlight := by
  have h := inv_start fs order now
  refine ⟨fun paymentId preimage => ?_, (h.run xs).pending, fun lost swept later paymentId hid =>
    (h.run xs).pending_restart_iff lost swept later hid⟩
  exact Mealy.final_iff_sometime (P := fun s => s.stores.SucceededWith paymentId preimage)
    (fun _ x h => h.step x) (fun _ x h => h.succeededWith_step x) h xs

end PaymentNode

end RgbLightningNode
