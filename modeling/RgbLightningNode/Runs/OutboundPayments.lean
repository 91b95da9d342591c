import RgbLightningNode.Lib.Mealy
import RgbLightningNode.Routes.SendPayment
import RgbLightningNode.Events.Payments

/-!
# Outbound payments over time

Requests to send a payment are served one at a time, with events and restarts
in between their steps. A payment counts as in flight from the moment the
channel manager takes it until the event about its end has been handled. The
record kept under its id is the only guard: it is pending as long as the payment
is in flight, and once it says succeeded nothing is sent under the id again.
-/

namespace RgbLightningNode

open Fallible

/-- How far the request that is being served has come. -/
inductive SendPhase where
  | idle
  /-- The payment is recorded and not yet handed over. -/
  | recorded (paymentId : PaymentId) (call : SendCall)
  /-- It was refused and has to be marked as failed so many times. -/
  | refused (paymentId : PaymentId) (marks : Nat)

structure PaymentNode (ContractId : Type) where
  stores : Stores ContractId
  inFlight : List PaymentId
  request : SendPhase

inductive PaymentInput (ContractId : Type) where
  | sendPayment (lib : PaymentLibrary ContractId) (req : SendPaymentRequest) (random : Bytes32)
      (now : Nat)
  | keysend (lib : PaymentLibrary ContractId) (req : KeysendRequest) (random : Bytes32)
      (now : Nat)
  /-- The recorded payment is handed to the channel manager, which takes it or
  refuses it. -/
  | handOver (accepted : Bool)
  | markFailed (now : Nat)
  | paymentSent (paymentPreimage : PaymentPreimage) (paymentHash : PaymentHash)
      (paymentId : PaymentId) (now : Nat)
  | paymentFailed (paymentHash : Option PaymentHash) (paymentId : PaymentId) (now : Nat)
  /-- The node stops, at any point, and starts again. The channel manager may
  have lost payments that it had not written yet. -/
  | restart (lost order : List PaymentId) (now : PaymentId → Nat)

namespace PaymentNode

variable {ContractId : Type}

/-- Begin a request: it is recorded, or it ends with an error. -/
def begin (s : PaymentNode ContractId)
    (prepared : Except (Exit APIError) (OutboundPayment ContractId)) : PaymentNode ContractId :=
  match s.request with
  | .idle =>
    match recordOutbound prepared s.stores with
    | .ok payment stores =>
      { s with stores := stores, request := .recorded payment.paymentId payment.call }
    | .error _ stores => { s with stores := stores }
  -- the request before holds the node's state
  | _ => s

/-- The stores of a node that starts, once the sweep has gone through them. -/
def startStores (fs : HashMap String (Persisted ContractId)) (order inFlight : List PaymentId)
    (now : PaymentId → Nat) : Stores ContractId :=
  (Stores.load fs).failOutboundPendingPayments order inFlight now

/-- A node that starts on these files with nothing in flight. -/
def start (fs : HashMap String (Persisted ContractId)) (order : List PaymentId)
    (now : PaymentId → Nat) : PaymentNode ContractId :=
  ⟨startStores fs order [] now, [], .idle⟩

/-- One step, and the ids under which it hands a payment to the channel manager. -/
def step [ContractIdText ContractId] (s : PaymentNode ContractId) :
    PaymentInput ContractId → List PaymentId × PaymentNode ContractId
  | .sendPayment lib req random now => ([], s.begin (prepareSendPayment lib req random now))
  | .keysend lib req random now => ([], s.begin (prepareKeysend lib req random now))
  | .handOver accepted =>
    match s.request with
    | .recorded paymentId call =>
      if accepted then
        ([paymentId], { s with inFlight := paymentId :: s.inFlight, request := .idle })
      else ([paymentId], { s with request := .refused paymentId call.failedMarks })
    | _ => ([], s)
  | .markFailed now =>
    match s.request with
    | .refused paymentId (marks + 1) =>
      ([], { s with
        stores := after (Stores.updateOutboundPaymentStatus (ε := APIError) paymentId .failed now)
          s.stores
        request := if marks = 0 then .idle else .refused paymentId marks })
    | _ => ([], s)
  | .paymentSent paymentPreimage paymentHash paymentId now =>
    if paymentId ∈ s.inFlight then
      ([], { s with
        stores := after (PaymentEvent.recordOutcome now
          (.paymentSent paymentPreimage paymentHash (some paymentId))) s.stores
        inFlight := s.inFlight.erase paymentId })
    else ([], s)
  | .paymentFailed paymentHash paymentId now =>
    if paymentId ∈ s.inFlight then
      ([], { s with
        stores := after (PaymentEvent.paymentFailed now paymentHash paymentId) s.stores
        inFlight := s.inFlight.erase paymentId })
    else ([], s)
  | .restart lost order now =>
    let inFlight := s.inFlight.filter (· ∉ lost)
    ([], ⟨startStores s.stores.fsStore order inFlight now, inFlight, .idle⟩)

end PaymentNode

/-! ### What one write does -/

namespace Stores

variable {ContractId : Type} {ε : Type}

/-- The record under an id has this status. -/
def OutboundStatus (s : Stores ContractId) (paymentId : PaymentId) (status : HTLCStatus) : Prop :=
  ∃ info, s.outboundPayments.lookup paymentId = some info ∧ info.status = status

/-- The outbound payments in memory are the ones on disk. -/
def OutboundSynced (s : Stores ContractId) : Prop :=
  readOutboundPaymentInfo s.fsStore outboundPaymentsFname = s.outboundPayments

/-- A change that touches at most the outbound record under this id. -/
structure TouchesOutbound (paymentId : PaymentId) (s s' : Stores ContractId) : Prop where
  others : ∀ other, other ≠ paymentId →
    s'.outboundPayments.lookup other = s.outboundPayments.lookup other
  synced : s.OutboundSynced → s'.OutboundSynced

variable {s s' : Stores ContractId} {paymentId other : PaymentId} {status status' : HTLCStatus}

theorem OutboundStatus.unique (h : s.OutboundStatus paymentId status)
    (h' : s.OutboundStatus paymentId status') : status = status' := by
  obtain ⟨info, hl, rfl⟩ := h
  obtain ⟨info', hl', rfl⟩ := h'
  rw [Option.some.inj (hl.symm.trans hl')]

theorem OutboundStatus.of_touches (h : s.OutboundStatus other status)
    (ht : TouchesOutbound paymentId s s') (hne : other ≠ paymentId) :
    s'.OutboundStatus other status := by
  obtain ⟨info, hl, hs⟩ := h
  exact ⟨info, (ht.others other hne).trans hl, hs⟩

theorem TouchesOutbound.refl (paymentId : PaymentId) (s : Stores ContractId) :
    TouchesOutbound paymentId s s :=
  ⟨fun _ _ => rfl, id⟩

theorem saveOutboundPayments_synced (m : HashMap PaymentId PaymentInfo) (s : Stores ContractId) :
    (s.saveOutboundPayments m).OutboundSynced := by
  simp [OutboundSynced, saveOutboundPayments, readOutboundPaymentInfo]

theorem touchesOutbound_insert (paymentId : PaymentId) (info : PaymentInfo)
    (s : Stores ContractId) :
    TouchesOutbound paymentId s
      (s.saveOutboundPayments (s.outboundPayments.insert paymentId info)) :=
  ⟨fun _ hne => Finmap.lookup_insert_of_ne _ hne, fun _ => saveOutboundPayments_synced _ _⟩

/-- The swaps have a file of their own. -/
theorem touchesOutbound_saveMakerSwaps (paymentId : PaymentId)
    (m : HashMap PaymentHash (SwapData ContractId)) (s : Stores ContractId) :
    TouchesOutbound paymentId s (s.saveMakerSwaps m) := by
  refine ⟨fun _ _ => rfl, fun h => Eq.trans ?_ h⟩
  have hne : outboundPaymentsFname ≠ makerSwapsFname := by decide
  simp only [saveMakerSwaps, readOutboundPaymentInfo, Finmap.lookup_insert_of_ne _ hne]

theorem touchesOutbound_updateMakerSwapStatus (paymentId : PaymentId) (paymentHash : PaymentHash)
    (status : SwapStatus) (now : Nat) (s : Stores ContractId) :
    TouchesOutbound paymentId s (after (updateMakerSwapStatus paymentHash status now :
      Fallible (Exit ε) _ Unit) s) := by
  refine after_of_unchanged (.refl _ _) (fun _ s' hu => ?_) fun _ _ hu =>
    updateMakerSwapStatus_error hu
  obtain ⟨swap, -, -, rfl⟩ := updateMakerSwapStatus_eq_ok_iff.mp hu
  exact touchesOutbound_saveMakerSwaps _ _ _

theorem touchesOutbound_updateOutboundPaymentStatus (paymentId : PaymentId)
    (status : HTLCStatus) (now : Nat) (s : Stores ContractId) :
    TouchesOutbound paymentId s (after (updateOutboundPaymentStatus paymentId status now :
      Fallible (Exit ε) _ Unit) s) := by
  refine after_of_unchanged (.refl _ _) (fun _ s' hu => ?_) fun _ _ hu =>
    updateOutboundPaymentStatus_error hu
  obtain ⟨info, -, rfl⟩ := updateOutboundPaymentStatus_eq_ok_iff.mp hu
  exact touchesOutbound_insert _ _ _

/-- Marking a payment that is recorded gives it the status. -/
theorem outboundStatus_updateOutboundPaymentStatus (status : HTLCStatus) (now : Nat)
    (h : s.OutboundStatus paymentId status') :
    (after (updateOutboundPaymentStatus paymentId status now :
      Fallible (Exit ε) _ Unit) s).OutboundStatus paymentId status := by
  obtain ⟨info, hl, -⟩ := h
  rw [after_of_ok (updateOutboundPaymentStatus_eq_ok_iff.mpr ⟨info, hl, rfl⟩)]
  exact ⟨_, Finmap.lookup_insert _, rfl⟩

/-- The sweep keeps what is not pending, and what is in flight. -/
theorem OutboundStatus.failOutboundPendingPayments (h : s.OutboundStatus paymentId status)
    (order recent : List PaymentId) (now : PaymentId → Nat)
    (hkeep : status ≠ .pending ∨ paymentId ∈ recent) :
    (s.failOutboundPendingPayments order recent now).OutboundStatus paymentId status := by
  obtain ⟨info, hl, rfl⟩ := h
  have hsweep : (failPending recent now order s.outboundPayments false).1.lookup paymentId =
      some info := by
    obtain hsame | ⟨info', hl', hp, hr, -⟩ :=
      lookup_failPending recent now order s.outboundPayments false paymentId
    · exact hsame.trans hl
    · obtain rfl := Option.some.inj (hl.symm.trans hl')
      exact absurd (hkeep.resolve_left (not_not.mpr hp)) hr
  rw [← outboundPayments_failOutboundPendingPayments order recent now s] at hsweep
  exact ⟨info, hsweep, rfl⟩

theorem OutboundSynced.failOutboundPendingPayments (h : s.OutboundSynced)
    (order recent : List PaymentId) (now : PaymentId → Nat) :
    (s.failOutboundPendingPayments order recent now).OutboundSynced := by
  obtain heq | ⟨payments, heq⟩ := failOutboundPendingPayments_eq order recent now s
  · rw [heq]
    exact h
  · rw [heq]
    exact saveOutboundPayments_synced _ _

end Stores

namespace PaymentEvent

open Stores

variable {ContractId : Type}

theorem touchesOutbound_paymentSent (paymentPreimage : PaymentPreimage)
    (paymentHash : PaymentHash) (paymentId : PaymentId) (now : Nat) (s : Stores ContractId) :
    TouchesOutbound paymentId s (after (recordOutcome now
      (paymentSent paymentPreimage paymentHash (some paymentId))) s) := by
  rw [recordOutcome, after_bind_of_ok (get_apply s)]
  split
  · exact touchesOutbound_updateMakerSwapStatus _ _ _ _ _
  · rw [after_bind_of_ok (expect_some paymentId _ s), after_discard]
    refine after_of_unchanged (.refl _ _) (fun _ s' hu => ?_) fun _ _ hu =>
      updateOutboundPayment_error hu
    obtain ⟨_, -, -, rfl⟩ := updateOutboundPayment_eq_ok_iff.mp hu
    exact touchesOutbound_insert _ _ _

theorem touchesOutbound_paymentFailed (paymentHash : Option PaymentHash) (paymentId : PaymentId)
    (now : Nat) (s : Stores ContractId) :
    TouchesOutbound paymentId s (after (paymentFailed now paymentHash paymentId) s) := by
  rw [paymentFailed, after_bind_of_ok (get_apply s)]
  cases paymentHash with
  | none => exact touchesOutbound_updateOutboundPaymentStatus _ _ _ _
  | some hash =>
    dsimp only
    split
    · exact touchesOutbound_updateMakerSwapStatus _ _ _ _ _
    · exact touchesOutbound_updateOutboundPaymentStatus _ _ _ _

end PaymentEvent

/-! ### The invariant -/

namespace PaymentNode

open Stores

variable {ContractId : Type}

/-- What holds of the payment that the request is about: it is not in flight,
and its record has not succeeded. -/
def RequestInv (s : PaymentNode ContractId) : Prop :=
  match s.request with
  | .idle => True
  | .recorded paymentId _ =>
    paymentId ∉ s.inFlight ∧ s.stores.OutboundStatus paymentId .pending
  | .refused paymentId _ =>
    paymentId ∉ s.inFlight ∧
      ∃ status, s.stores.OutboundStatus paymentId status ∧ status ≠ .succeeded

structure Inv (s : PaymentNode ContractId) : Prop where
  synced : s.stores.OutboundSynced
  distinct : s.inFlight.Nodup
  pending : ∀ paymentId ∈ s.inFlight, s.stores.OutboundStatus paymentId .pending
  request : s.RequestInv

variable {s : PaymentNode ContractId} {paymentId : PaymentId}

theorem inv_start (fs : HashMap String (Persisted ContractId)) (order : List PaymentId)
    (now : PaymentId → Nat) : (start fs order now).Inv where
  synced := OutboundSynced.failOutboundPendingPayments (s := load fs) rfl _ _ _
  distinct := List.nodup_nil
  pending _ h := by cases h
  request := trivial

/-- The end of a payment in flight touches its own record only. -/
theorem Inv.resolve (h : s.Inv) (hmem : paymentId ∈ s.inFlight) {stores : Stores ContractId}
    (ht : TouchesOutbound paymentId s.stores stores) :
    ({ s with stores := stores, inFlight := s.inFlight.erase paymentId } :
      PaymentNode ContractId).Inv := by
  refine ⟨ht.synced h.synced, h.distinct.erase paymentId, fun other ho => ?_, ?_⟩
  · have hne : other ≠ paymentId := (h.distinct.mem_erase_iff.mp ho).1
    exact (h.pending other (List.mem_of_mem_erase ho)).of_touches ht hne
  -- the payment of the request is another one: it is not in flight
  have hr := h.request
  unfold RequestInv at hr ⊢
  dsimp only
  cases hreq : s.request with
  | idle => trivial
  | recorded other call =>
    rw [hreq] at hr
    have hne : other ≠ paymentId := fun he => hr.1 (he ▸ hmem)
    exact ⟨fun ho => hr.1 (List.mem_of_mem_erase ho), hr.2.of_touches ht hne⟩
  | refused other marks =>
    rw [hreq] at hr
    have hne : other ≠ paymentId := fun he => hr.1 (he ▸ hmem)
    obtain ⟨hno, status, hs, hst⟩ := hr
    exact ⟨fun ho => hno (List.mem_of_mem_erase ho), status, hs.of_touches ht hne, hst⟩

/-- A request that begins is recorded, where there is no record but a failed
one, or leaves everything as it was. -/
theorem begin_cases (s : PaymentNode ContractId)
    (prepared : Except (Exit APIError) (OutboundPayment ContractId)) :
    s.begin prepared = s ∨ ∃ payment, prepared = .ok payment ∧
      (∀ existing, s.stores.outboundPayments.lookup payment.paymentId = some existing →
        existing.status = .failed) ∧
      s.begin prepared = { s with
        stores := s.stores.saveOutboundPayments
          (s.stores.outboundPayments.insert payment.paymentId payment.info)
        request := .recorded payment.paymentId payment.call } := by
  rw [PaymentNode.begin]
  cases hreq : s.request with
  | recorded | refused => exact .inl rfl
  | idle =>
    dsimp only
    cases hr : recordOutbound prepared s.stores with
    | ok payment stores =>
      obtain ⟨hprep, hfree, rfl⟩ := recordOutbound_eq_ok_iff.mp hr
      exact .inr ⟨payment, hprep, hfree, rfl⟩
    | error e stores =>
      obtain rfl : s.stores = stores := recordOutbound_error hr
      dsimp only
      exact .inl (by rw [← hreq])

/-- When a request is recorded, no payment is in flight under its id. -/
theorem Inv.begin (h : s.Inv) {prepared : Except (Exit APIError) (OutboundPayment ContractId)}
    (hp : ∀ payment, prepared = .ok payment → payment.info.status = .pending) :
    (s.begin prepared).Inv := by
  obtain hsame | ⟨payment, hprep, hfree, hbegin⟩ := begin_cases s prepared
  · rw [hsame]
    exact h
  · have hnot : payment.paymentId ∉ s.inFlight := by
      intro hmem
      obtain ⟨info, hl, hs⟩ := h.pending _ hmem
      have := hfree info hl
      rw [hs] at this
      cases this
    have ht := touchesOutbound_insert payment.paymentId payment.info s.stores
    rw [hbegin]
    refine ⟨saveOutboundPayments_synced _ _, h.distinct, fun other ho => ?_, hnot, ?_⟩
    · exact (h.pending other ho).of_touches ht fun he => hnot (he ▸ ho)
    · exact ⟨_, Finmap.lookup_insert _, hp payment hprep⟩

/-- A record that has succeeded is none that a request may replace. -/
theorem begin_keeps (prepared : Except (Exit APIError) (OutboundPayment ContractId))
    (hs : s.stores.OutboundStatus paymentId .succeeded) :
    (s.begin prepared).stores.OutboundStatus paymentId .succeeded := by
  obtain hsame | ⟨payment, -, hfree, hbegin⟩ := begin_cases s prepared
  · rw [hsame]
    exact hs
  · rw [hbegin]
    refine hs.of_touches (touchesOutbound_insert payment.paymentId payment.info s.stores) ?_
    rintro rfl
    obtain ⟨info, hl, hst⟩ := hs
    have := hfree info hl
    rw [hst] at this
    cases this

variable [ContractIdText ContractId]

theorem Inv.step (h : s.Inv) (x : PaymentInput ContractId) : (step s x).2.Inv := by
  cases x with
  | sendPayment lib req random now => exact h.begin fun _ => status_of_prepareSendPayment
  | keysend lib req random now => exact h.begin fun _ => status_of_prepareKeysend
  | handOver accepted =>
    have hr := h.request
    unfold RequestInv at hr
    simp only [PaymentNode.step]
    cases hreq : s.request with
    | idle | refused => exact h
    | recorded paymentId call =>
      rw [hreq] at hr
      cases accepted with
      | true =>
        refine ⟨h.synced, List.nodup_cons.mpr ⟨hr.1, h.distinct⟩, fun other ho => ?_, trivial⟩
        obtain rfl | ho := List.mem_cons.mp ho
        · exact hr.2
        · exact h.pending other ho
      | false => exact ⟨h.synced, h.distinct, h.pending, hr.1, .pending, hr.2, by decide⟩
  | markFailed now =>
    have hr := h.request
    unfold RequestInv at hr
    simp only [PaymentNode.step]
    rcases hreq : s.request with _ | _ | ⟨paymentId, _ | marks⟩
    · exact h
    · exact h
    · exact h
    rw [hreq] at hr
    obtain ⟨hnot, status, hs, -⟩ := hr
    have ht := touchesOutbound_updateOutboundPaymentStatus (ε := APIError) paymentId .failed now
      s.stores
    refine ⟨ht.synced h.synced, h.distinct, fun other ho => ?_, ?_⟩
    · exact (h.pending other ho).of_touches ht fun he => hnot (he ▸ ho)
    · have hfailed := outboundStatus_updateOutboundPaymentStatus (ε := APIError) .failed now hs
      unfold RequestInv
      by_cases hm : marks = 0
      · simp only [hm, if_true]
      · simp only [hm, if_false]
        exact ⟨hnot, .failed, hfailed, by decide⟩
  | paymentSent paymentPreimage paymentHash paymentId now =>
    simp only [PaymentNode.step]
    split
    · rename_i hmem
      exact h.resolve hmem (PaymentEvent.touchesOutbound_paymentSent _ _ _ _ _)
    · exact h
  | paymentFailed paymentHash paymentId now =>
    simp only [PaymentNode.step]
    split
    · rename_i hmem
      exact h.resolve hmem (PaymentEvent.touchesOutbound_paymentFailed _ _ _ _)
    · exact h
  | restart lost order now =>
    -- what is loaded is what was there, and the sweep spares what is in flight
    have hload : (load s.stores.fsStore).outboundPayments = s.stores.outboundPayments := h.synced
    refine ⟨OutboundSynced.failOutboundPendingPayments (s := load s.stores.fsStore) rfl _ _ _,
      h.distinct.filter _, fun paymentId hmem => ?_, trivial⟩
    obtain ⟨info, hl, hs⟩ := h.pending paymentId (List.mem_of_mem_filter hmem)
    exact OutboundStatus.failOutboundPendingPayments ⟨info, by rw [hload, hl], hs⟩ _ _ _
      (.inr hmem)

/-- A record that has succeeded stays so through a step, and the step hands
nothing over under its id. -/
theorem Inv.succeeded_step (h : s.Inv) (hs : s.stores.OutboundStatus paymentId .succeeded)
    (x : PaymentInput ContractId) :
    (PaymentNode.step s x).2.stores.OutboundStatus paymentId .succeeded ∧
      paymentId ∉ (PaymentNode.step s x).1 := by
  cases x with
  | sendPayment | keysend => exact ⟨begin_keeps _ hs, List.not_mem_nil⟩
  | handOver accepted =>
    have hr := h.request
    unfold RequestInv at hr
    simp only [PaymentNode.step]
    cases hreq : s.request with
    | idle | refused => exact ⟨hs, List.not_mem_nil⟩
    | recorded other call =>
      rw [hreq] at hr
      have hne : paymentId ≠ other := by
        rintro rfl
        exact absurd (hs.unique hr.2) (by decide)
      cases accepted <;> exact ⟨hs, fun hm => hne (List.mem_singleton.mp hm)⟩
  | markFailed now =>
    have hr := h.request
    unfold RequestInv at hr
    simp only [PaymentNode.step]
    rcases hreq : s.request with _ | _ | ⟨other, _ | marks⟩
    · exact ⟨hs, List.not_mem_nil⟩
    · exact ⟨hs, List.not_mem_nil⟩
    · exact ⟨hs, List.not_mem_nil⟩
    rw [hreq] at hr
    obtain ⟨-, status, hst, hne⟩ := hr
    refine ⟨hs.of_touches (touchesOutbound_updateOutboundPaymentStatus other .failed now _) ?_,
      List.not_mem_nil⟩
    rintro rfl
    exact hne (hst.unique hs)
  | paymentSent paymentPreimage paymentHash other now =>
    simp only [PaymentNode.step]
    split
    · rename_i hmem
      refine ⟨hs.of_touches (PaymentEvent.touchesOutbound_paymentSent _ _ other _ _) ?_,
        List.not_mem_nil⟩
      rintro rfl
      exact absurd (hs.unique (h.pending paymentId hmem)) (by decide)
    · exact ⟨hs, List.not_mem_nil⟩
  | paymentFailed paymentHash other now =>
    simp only [PaymentNode.step]
    split
    · rename_i hmem
      refine ⟨hs.of_touches (PaymentEvent.touchesOutbound_paymentFailed _ other _ _) ?_,
        List.not_mem_nil⟩
      rintro rfl
      exact absurd (hs.unique (h.pending paymentId hmem)) (by decide)
    · exact ⟨hs, List.not_mem_nil⟩
  | restart lost order now =>
    have hload : (load s.stores.fsStore).outboundPayments = s.stores.outboundPayments := h.synced
    obtain ⟨info, hl, hst⟩ := hs
    exact ⟨OutboundStatus.failOutboundPendingPayments ⟨info, by rw [hload, hl], hst⟩ _ _ _
      (.inl (by decide)), List.not_mem_nil⟩

/-! ### Whole runs -/

theorem Inv.run (h : s.Inv) (xs : List (PaymentInput ContractId)) :
    (Mealy.final PaymentNode.step s xs).Inv :=
  Mealy.invariant_final (C := fun _ _ => True) (fun _ x h _ => h.step x) h
    (Mealy.along_of_forall (fun _ _ => trivial) _)

theorem Inv.succeeded_run (h : s.Inv) (hs : s.stores.OutboundStatus paymentId .succeeded)
    (xs : List (PaymentInput ContractId)) :
    (Mealy.final PaymentNode.step s xs).stores.OutboundStatus paymentId .succeeded ∧
      ∀ ids ∈ Mealy.outputs PaymentNode.step s xs, paymentId ∉ ids := by
  induction xs generalizing s with
  | nil => exact ⟨hs, fun ids hm => by cases hm⟩
  | cons x xs ih =>
    obtain ⟨hkept, hnot⟩ := h.succeeded_step hs x
    obtain ⟨hfinal, hlater⟩ := ih (h.step x) hkept
    refine ⟨hfinal, fun ids hm => ?_⟩
    obtain rfl | hm := List.mem_cons.mp hm
    · exact hnot
    · exact hlater ids hm

/-- Over every run, no id is in flight twice, and a record that has succeeded
keeps its status for good, with nothing handed over under its id any more. -/
theorem once_run (fs : HashMap String (Persisted ContractId)) (order : List PaymentId)
    (now : PaymentId → Nat) (xs : List (PaymentInput ContractId)) :
    (Mealy.final PaymentNode.step (start fs order now) xs).inFlight.Nodup ∧
      ∀ paymentId,
        (Mealy.final PaymentNode.step (start fs order now) xs).stores.OutboundStatus paymentId
          .succeeded →
        ∀ ys,
          (Mealy.final PaymentNode.step
            (Mealy.final PaymentNode.step (start fs order now) xs) ys).stores.OutboundStatus
              paymentId .succeeded ∧
          ∀ ids ∈ Mealy.outputs PaymentNode.step
            (Mealy.final PaymentNode.step (start fs order now) xs) ys, paymentId ∉ ids := by
  have h := (inv_start fs order now).run xs
  exact ⟨h.distinct, fun _ hs ys => h.succeeded_run hs ys⟩

end PaymentNode

end RgbLightningNode
