import RgbLightningNode.Lib.PoisonMutex
import RgbLightningNode.Auth.ReadOnlyToken
import RgbLightningNode.Runs.SwapStatus

/-!
# Listing the swaps of a running node

A request that lists swaps takes for granted that a pending swap has the time of
its start, and that a swap it has copied is still there. Whatever the handlers
do, and whenever the node is started anew, both hold.
-/

namespace RgbLightningNode

open Fallible Node

variable {ContractId : Type} {ε : Type}

namespace Stores

/-- A property of the stores that the node's changes of them keep. -/
structure Closed (P : Stores ContractId → Prop) : Prop where
  addMakerSwap : ∀ s paymentHash info now, P s →
    P (s.addMakerSwap paymentHash (SwapData.createFromSwapInfo info now))
  addTakerSwap : ∀ s paymentHash info now, P s →
    P (s.addTakerSwap paymentHash (SwapData.createFromSwapInfo info now))
  updateMakerSwapStatus : ∀ {ε : Type} paymentHash status now,
    Preserves P (Stores.updateMakerSwapStatus paymentHash status now : Fallible (Exit ε) _ Unit)
  updateTakerSwapStatus : ∀ {ε : Type} paymentHash status now,
    Preserves P (Stores.updateTakerSwapStatus paymentHash status now : Fallible (Exit ε) _ Unit)
  saveInboundPayments : ∀ s m, P s → P (s.saveInboundPayments m)
  saveOutboundPayments : ∀ s m, P s → P (s.saveOutboundPayments m)

namespace Closed

variable {P : Stores ContractId → Prop} (h : Closed P)
include h

theorem upsertInboundPayment (paymentHash : PaymentHash) (status : HTLCStatus)
    (preimage : Option PaymentPreimage) (secret : Option PaymentSecret) (amtMsat : Option Nat)
    (payeePubkey : PublicKey) (now : Nat) {s : Stores ContractId} (hs : P s) :
    P (s.upsertInboundPayment paymentHash status preimage secret amtMsat payeePubkey now) := by
  rw [Stores.upsertInboundPayment]
  split
  · exact h.saveInboundPayments _ _ hs
  · exact h.saveInboundPayments _ _ hs

theorem updateOutboundPayment (paymentId : PaymentId) (status : HTLCStatus)
    (preimage : Option PaymentPreimage) (now : Nat) :
    Preserves P (Stores.updateOutboundPayment paymentId status preimage now :
      Fallible (Exit ε) _ PaymentInfo) := by
  intro s hs
  refine after_of_unchanged hs (fun _ s' hu => ?_) fun _ _ hu => updateOutboundPayment_error hu
  obtain ⟨_, -, -, rfl⟩ := updateOutboundPayment_eq_ok_iff.mp hu
  exact h.saveOutboundPayments _ _ hs

theorem updateOutboundPaymentStatus (paymentId : PaymentId) (status : HTLCStatus) (now : Nat) :
    Preserves P (Stores.updateOutboundPaymentStatus paymentId status now :
      Fallible (Exit ε) _ Unit) := by
  intro s hs
  refine after_of_unchanged hs (fun _ s' hu => ?_) fun _ _ hu =>
    updateOutboundPaymentStatus_error hu
  obtain ⟨_, -, rfl⟩ := updateOutboundPaymentStatus_eq_ok_iff.mp hu
  exact h.saveOutboundPayments _ _ hs

end Closed

end Stores

section Handlers

variable {P : Stores ContractId → Prop} (h : Stores.Closed P)

/-- A property of the node's stores. -/
def OfStores (P : Stores ContractId → Prop) (n : Node ContractId) : Prop := P n.stores

theorem preserves_onStores {α : Type} {x : Fallible ε (Stores ContractId) α}
    (hx : Preserves P x) : Preserves (OfStores P) (onStores x) := by
  intro n hn
  rw [onStores, after_zoom]
  exact hx n.stores hn

theorem preserves_onLdkDataDir {α : Type} (x : Fallible ε (LdkDataDir ContractId) α) :
    Preserves (OfStores P) (onLdkDataDir x) := by
  intro n hn
  rw [onLdkDataDir, after_zoom]
  exact hn

theorem preserves_callIntercept (reply : InterceptReply ContractId) (held : Option Mutex)
    (message : String) (call : InterceptCall ContractId) :
    Preserves (OfStores P) (callIntercept reply held message call : Fallible (Exit ε) _ Unit) := by
  intro n hn
  rw [after_callIntercept]
  exact hn

include h

theorem preserves_updateListed (now : Nat) (paymentHash : PaymentHash) (status : SwapStatus)
    (ofTaker : Bool) : Preserves P (updateListed now paymentHash status ofTaker) := by
  rw [updateListed]
  split
  · exact h.updateTakerSwapStatus _ _ _
  · exact h.updateMakerSwapStatus _ _ _

theorem preserves_mapSwap (now : Nat) (paymentHash : PaymentHash) (swapData : SwapData ContractId)
    (ofTaker : Bool) : Preserves P (mapSwap now paymentHash swapData ofTaker) := by
  refine .bind (.attempt _) fun status => ?_
  split
  · exact preserves_updateListed h _ _ _ _
  · exact .pure ()

theorem preserves_recordOutcome (now : Nat) (ev : PaymentEvent) :
    Preserves P (ev.recordOutcome now) := by
  cases ev with
  | paymentClaimed paymentHash purpose amountMsat receiverNodeId =>
    refine .bind .get fun s => ?_
    split
    · exact h.updateMakerSwapStatus _ _ _
    · exact .bind (.expect _ _) fun receiver => .modify fun _ hs =>
        h.upsertInboundPayment _ _ _ _ _ _ _ hs
  | paymentSent paymentPreimage paymentHash paymentId =>
    refine .bind .get fun s => ?_
    split
    · exact h.updateMakerSwapStatus _ _ _
    · refine .bind (.expect _ _) fun paymentId => ?_
      intro s hs
      rw [after_discard]
      exact h.updateOutboundPayment _ _ _ _ s hs
  | paymentForwarded _ _ _ _ paymentHash =>
    refine .bind .get fun s => ?_
    split
    · exact h.updateTakerSwapStatus _ _ _
    · exact .pure ()

theorem preserves_paymentFailed (now : Nat) (paymentHash : Option PaymentHash)
    (paymentId : PaymentId) :
    Preserves P (PaymentEvent.paymentFailed now paymentHash paymentId) := by
  refine .bind .get fun s => ?_
  cases paymentHash with
  | none => exact h.updateOutboundPaymentStatus _ _ _
  | some hash =>
    dsimp only
    split
    · exact h.updateMakerSwapStatus _ _ _
    · exact h.updateOutboundPaymentStatus _ _ _

theorem preserves_decideHtlc (reply : InterceptReply ContractId) (now : Nat)
    (e : HTLCIntercepted ContractId) (legs : SwapLegs ContractId) (fail : Bool) :
    Preserves (OfStores P) (e.decideHtlc reply now legs fail) := by
  rw [HTLCIntercepted.decideHtlc]
  split
  · exact .bind (preserves_onStores (h.updateTakerSwapStatus _ _ _)) fun _ =>
      preserves_callIntercept _ _ _ _
  · exact .bind (preserves_onStores (h.updateTakerSwapStatus _ _ _)) fun _ =>
      preserves_callIntercept _ _ _ _

theorem preserves_sendPayment (ln : Lightning ContractId) (paymentHash : PaymentHash) (now : Nat)
    (payment : SpontaneousPayment ContractId) :
    Preserves (OfStores P) (sendPayment ln paymentHash now payment) := by
  refine .bind (.modify fun _ hn => hn) fun _ => ?_
  cases ln.sendSpontaneousPayment payment with
  | ok => exact .pure ()
  | error e =>
    exact .bind (preserves_onStores (h.updateMakerSwapStatus _ _ _)) fun _ _ hn => hn

theorem preserves_startPayment (ln : Lightning ContractId) (s : SwapString ContractId)
    (now : Nat) : Preserves (OfStores P) (startPayment ln s now) :=
  .bind (.modify fun _ hn => hn) fun _ => preserves_onStores (h.updateMakerSwapStatus _ _ _)

variable [DecidableEq ContractId]

omit h in
theorem preserves_compareHtlc (reply : InterceptReply ContractId)
    (e : HTLCIntercepted ContractId) : Preserves (OfStores P) (e.compareHtlc reply) := by
  have hfail : ∀ held, Preserves (OfStores P) (e.failHtlc reply held) := fun held =>
    preserves_callIntercept reply held _ _
  refine .bind ?_ fun _ => .bind .get fun n => .bind (.attempt _) fun legs => ?_
  · rw [HTLCIntercepted.failUnlessSwap]
    split
    · exact .pure ()
    · exact hfail none
  · cases n.stores.takerSwaps.lookup e.paymentHash with
    | none => exact .bind (hfail _) fun _ => .pure none
    | some swap => exact .pure _

variable [ContractIdText ContractId]

theorem preserves_makerInit
    (createInboundPayment : Nat → Nat → Option (PaymentHash × PaymentSecret)) (now : Nat)
    (req : MakerInitRequest) :
    Preserves (OfStores P) (makerInit createInboundPayment now req) := by
  intro n hn
  rw [after_makerInit]
  cases req.offer createInboundPayment now n with
  | error exit => exact hn
  | ok offer => exact h.addMakerSwap _ _ _ _ hn

theorem preserves_taker (now : Nat) (swapstring : String) :
    Preserves (OfStores P) (taker now swapstring) := by
  intro n hn
  obtain heq | ⟨req, -, heq⟩ := after_taker now swapstring n
  · rw [heq]
    exact hn
  · rw [heq]
    exact h.addTakerSwap _ _ _ _ hn

theorem preserves_startMakerExecute (ln : Lightning ContractId) (now : Nat)
    (req : MakerExecuteRequest) :
    Preserves (OfStores P) (startMakerExecute ln now req) := by
  refine .bind (.attempt _) fun parsed => ?_
  split
  · refine .bind (.bind (preserves_onStores (h.updateMakerSwapStatus _ _ _)) ?_) fun _ => .pure none
    exact fun _ _ hn => hn
  · refine .bind .get fun n => .bind (.attempt _) fun payment => ?_
    exact .bind (preserves_startPayment h _ _ _) fun _ => .pure _

/-- A property that the changes of the stores keep is kept by every step. -/
theorem SwapNode.closed_step {s : SwapNode ContractId} (hs : P s.node.stores)
    (x : SwapInput ContractId) : P (s.step x).node.stores := by
  cases x with
  | makerInit createInboundPayment req =>
    rw [step]
    cases s.request with
    | idle => exact preserves_makerInit h createInboundPayment s.now req s.node hs
    | listing | paying => exact hs
  | taker swapstring =>
    rw [step]
    cases s.request with
    | idle => exact preserves_taker h s.now swapstring s.node hs
    | listing | paying => exact hs
  | makerExecute ln req =>
    rw [step]
    cases s.request with
    | idle => exact preserves_startMakerExecute h ln s.now req s.node hs
    | listing | paying => exact hs
  | handOver ln =>
    rw [step]
    cases s.request with
    | paying paymentHash payment => exact preserves_sendPayment h ln paymentHash s.now payment _ hs
    | idle | listing => exact hs
  | copySwaps ofTaker =>
    rw [step]
    cases s.request <;> exact hs
  | mapSwap paymentHash ofTaker =>
    rw [step]
    cases s.request with
    | listing copies =>
      dsimp only
      cases copies.swap? paymentHash ofTaker with
      | none => exact hs
      | some swapData => exact preserves_onStores (preserves_mapSwap h _ _ _ _) s.node hs
    | idle | paying => exact hs
  | answerListing =>
    rw [step]
    cases s.request <;> exact hs
  | htlcIntercepted reply e =>
    rw [step]
    cases s.htlc with
    | none => exact preserves_compareHtlc reply e s.node hs
    | some _ => exact hs
  | decideHtlc reply =>
    rw [step]
    cases s.htlc with
    | none => exact hs
    | some htlc => exact preserves_decideHtlc h reply s.now htlc.1 htlc.2.1 htlc.2.2 s.node hs
  | payment ev =>
    rw [step]
    cases s.htlc with
    | none =>
      exact Preserves.bind (preserves_onLdkDataDir _)
        (fun _ => preserves_onStores (preserves_recordOutcome h s.now ev)) s.node hs
    | some _ => exact hs
  | paymentFailed paymentHash paymentId =>
    rw [step]
    cases s.htlc with
    | none => exact preserves_onStores (preserves_paymentFailed h _ _ _) s.node hs
    | some _ => exact hs
  | elapse seconds => exact hs
  | environment channels ldkDataDir => exact hs

end Handlers

/-! ### Started swaps -/

namespace SwapData

theorem started_createFromSwapInfo (info : SwapInfo ContractId) (now : Nat) :
    (createFromSwapInfo info now).Started := by
  intro h
  cases h

/-- The status that begins a swap comes with the time. -/
theorem started_withStatus (swap : SwapData ContractId) (status : SwapStatus) (now : Nat) :
    (swap.withStatus status now).Started := by
  intro h
  rw [withStatus_status] at h
  rw [h]
  exact Option.some_ne_none now

end SwapData

namespace Stores

def AllStarted (m : HashMap PaymentHash (SwapData ContractId)) : Prop :=
  ∀ paymentHash swap, m.lookup paymentHash = some swap → swap.Started

/-- The file under this name holds no pending swap without the time of its start. -/
def FileStarted (fs : HashMap String (Persisted ContractId)) (fname : String) : Prop :=
  ∀ m, fs.lookup fname = some (.swaps m) → AllStarted m

/-- In memory and on disk, every pending swap has the time of its start. -/
structure SwapsStarted (s : Stores ContractId) : Prop where
  makerSwaps : AllStarted s.makerSwaps
  takerSwaps : AllStarted s.takerSwaps
  makerFile : FileStarted s.fsStore makerSwapsFname
  takerFile : FileStarted s.fsStore takerSwapsFname

variable {m : HashMap PaymentHash (SwapData ContractId)}
  {fs : HashMap String (Persisted ContractId)} {s : Stores ContractId} {fname other : String}

theorem AllStarted.insert (h : AllStarted m) (paymentHash : PaymentHash)
    {swap : SwapData ContractId} (hs : swap.Started) : AllStarted (m.insert paymentHash swap) := by
  intro k swap' hl
  by_cases hk : k = paymentHash
  · subst hk
    rw [Finmap.lookup_insert] at hl
    rwa [← Option.some.inj hl]
  · rw [Finmap.lookup_insert_of_ne _ hk] at hl
    exact h k swap' hl

theorem fileStarted_insert (h : AllStarted m) (fs : HashMap String (Persisted ContractId))
    (fname : String) : FileStarted (fs.insert fname (.swaps m)) fname := by
  intro m' hl
  rw [Finmap.lookup_insert] at hl
  rwa [← Persisted.swaps.inj (Option.some.inj hl)]

theorem FileStarted.insert_ne (h : FileStarted fs fname) (hne : fname ≠ other)
    (p : Persisted ContractId) : FileStarted (fs.insert other p) fname := by
  intro m hl
  rw [Finmap.lookup_insert_of_ne _ hne] at hl
  exact h m hl

/-- What is read back from such a file. -/
theorem FileStarted.readSwapsInfo (h : FileStarted fs fname) :
    AllStarted (readSwapsInfo fs fname) := by
  rw [Stores.readSwapsInfo]
  split
  · exact h _ ‹_›
  · intro k swap hl
    cases hl

theorem SwapsStarted.saveMakerSwaps (h : s.SwapsStarted) (hm : AllStarted m) :
    (s.saveMakerSwaps m).SwapsStarted where
  makerSwaps := hm
  takerSwaps := h.takerSwaps
  makerFile := fileStarted_insert hm _ _
  takerFile := h.takerFile.insert_ne (by decide) _

theorem SwapsStarted.saveTakerSwaps (h : s.SwapsStarted) (hm : AllStarted m) :
    (s.saveTakerSwaps m).SwapsStarted where
  makerSwaps := h.makerSwaps
  takerSwaps := hm
  makerFile := h.makerFile.insert_ne (by decide) _
  takerFile := fileStarted_insert hm _ _

/-- A node that starts on such files has only started swaps. -/
theorem swapsStarted_load (hm : FileStarted fs makerSwapsFname)
    (ht : FileStarted fs takerSwapsFname) : (load fs).SwapsStarted where
  makerSwaps := hm.readSwapsInfo
  takerSwaps := ht.readSwapsInfo
  makerFile := hm
  takerFile := ht

/-- A swap gets its status from outside and the time of its start with it. -/
theorem closed_swapsStarted : Closed (SwapsStarted : Stores ContractId → Prop) where
  addMakerSwap _ _ info now h :=
    h.saveMakerSwaps (h.makerSwaps.insert _ (SwapData.started_createFromSwapInfo info now))
  addTakerSwap _ _ info now h :=
    h.saveTakerSwaps (h.takerSwaps.insert _ (SwapData.started_createFromSwapInfo info now))
  updateMakerSwapStatus _ status now := by
    intro s h
    refine after_of_unchanged h (fun _ s' hu => ?_) fun _ _ hu => updateMakerSwapStatus_error hu
    obtain ⟨swap, -, -, rfl⟩ := updateMakerSwapStatus_eq_ok_iff.mp hu
    exact h.saveMakerSwaps (h.makerSwaps.insert _ (swap.started_withStatus status now))
  updateTakerSwapStatus _ status now := by
    intro s h
    refine after_of_unchanged h (fun _ s' hu => ?_) fun _ _ hu => updateTakerSwapStatus_error hu
    obtain ⟨swap, -, -, rfl⟩ := updateTakerSwapStatus_eq_ok_iff.mp hu
    exact h.saveTakerSwaps (h.takerSwaps.insert _ (swap.started_withStatus status now))
  saveInboundPayments _ _ h :=
    ⟨h.makerSwaps, h.takerSwaps, h.makerFile.insert_ne (by decide) _,
      h.takerFile.insert_ne (by decide) _⟩
  saveOutboundPayments _ _ h :=
    ⟨h.makerSwaps, h.takerSwaps, h.makerFile.insert_ne (by decide) _,
      h.takerFile.insert_ne (by decide) _⟩

/-- A swap that is there stays there, in one status or another. -/
theorem isSome_of_changesBy {w : Option SwapWrite} {now : Nat} {s' : Stores ContractId}
    (h : ChangesBy w now s s') {ofTaker : Bool} {paymentHash : PaymentHash}
    (hs : (s.swap? ofTaker paymentHash).isSome) : (s'.swap? ofTaker paymentHash).isSome := by
  cases w with
  | none =>
    rw [h ofTaker paymentHash]
    exact hs
  | some w =>
    by_cases hhere : ofTaker = w.ofTaker ∧ paymentHash = w.paymentHash
    · obtain ⟨rfl, rfl⟩ := hhere
      have hstored := h.here
      rw [Stored] at hstored
      split at hstored
      · obtain ⟨info, requestedAt, hnew⟩ := hstored
        rw [hnew]
        rfl
      · rw [hstored, Option.isSome_map]
        exact hs
    · rw [h.other ofTaker paymentHash hhere]
      exact hs

theorem started_of_swap? (h : s.SwapsStarted) {ofTaker : Bool} {paymentHash : PaymentHash}
    {swap : SwapData ContractId} (hl : s.swap? ofTaker paymentHash = some swap) :
    swap.Started := by
  cases ofTaker with
  | false => exact h.makerSwaps paymentHash swap hl
  | true => exact h.takerSwaps paymentHash swap hl

theorem SwapsStarted.failOutboundPendingPayments (h : s.SwapsStarted)
    (order recent : List PaymentId) (now : PaymentId → Nat) :
    (s.failOutboundPendingPayments order recent now).SwapsStarted := by
  obtain heq | ⟨payments, heq⟩ := failOutboundPendingPayments_eq order recent now s
  · rw [heq]
    exact h
  · rw [heq]
    exact closed_swapsStarted.saveOutboundPayments s payments h

/-- A started swap that is there is listed, and its status stored if it has changed. -/
theorem mapSwap_of_started {swap : SwapData ContractId} (hstarted : swap.Started) (now : Nat)
    {ofTaker : Bool} {paymentHash : PaymentHash} (hs : (s.swap? ofTaker paymentHash).isSome) :
    ∃ s', mapSwap now paymentHash swap ofTaker s = .ok () s' := by
  by_cases hdue : swap.Due now
  · obtain ⟨status, hstatus, hne⟩ := SwapData.listedStatus_of_due hdue
    have hwaiting := listedStatus_ne_waiting hstatus hne
    obtain ⟨stored, hstored⟩ := Option.isSome_iff_exists.mp hs
    rw [mapSwap, hstatus, bind_of_ok (attempt_ok status s), if_pos hne]
    cases ofTaker with
    | false => exact ⟨_, updateMakerSwapStatus_of_lookup now hstored hwaiting⟩
    | true => exact ⟨_, updateTakerSwapStatus_of_lookup now hstored hwaiting⟩
  · exact ⟨s, mapSwap_of_not_due hdue hstarted⟩

/-- The same with the mutex of the side's swaps, which is locked for the update. -/
def mapSwapLocked (now : Nat) (paymentHash : PaymentHash) (swapData : SwapData ContractId)
    (ofTaker : Bool) : Fallible (Exit APIError) (PoisonMutex (Stores ContractId)) Unit := do
  let status ← attempt (listedStatus now swapData)
  if status ≠ swapData.status then
    PoisonMutex.locked Exit.answers poisonError (updateListed now paymentHash status ofTaker)
  else pure ()

/-- Where a swap can be listed, only a mutex that is poisoned already stops it. -/
theorem stopsOnly_mapSwapLocked {now : Nat} {paymentHash : PaymentHash}
    {swap : SwapData ContractId} {ofTaker : Bool} {s' : Stores ContractId}
    (h : mapSwap now paymentHash swap ofTaker s = .ok () s') (poisoned : Bool) :
    StopsOnly (fun e => poisoned = true ∧ e = poisonError)
      (mapSwapLocked now paymentHash swap ofTaker) ⟨poisoned, s⟩ := by
  obtain ⟨status, hstatus, hupdate⟩ := attempt_bind_eq_ok_iff.mp h
  rw [mapSwapLocked, hstatus, StopsOnly.bind_of_ok_iff (attempt_ok status _)]
  split at hupdate
  · rename_i hne
    rw [if_pos hne]
    intro e m he
    cases poisoned with
    | true =>
      rw [PoisonMutex.locked_of_poisoned rfl] at he
      exact ⟨rfl, (EStateM.Result.error.inj he).1.symm⟩
    | false =>
      rw [PoisonMutex.locked_of_ok rfl hupdate] at he
      cases he
  · rename_i heq
    rw [if_neg heq]
    exact StopsOnly.pure _

end Stores

/-! ### Runs with restarts -/

inductive NodeInput (ContractId : Type) where
  | served (x : SwapInput ContractId)
  /-- The node stops and starts on its files, with the sweep of the outbound
  payments. -/
  | restart (order recent : List PaymentId) (now : PaymentId → Nat)

namespace SwapNode

variable [DecidableEq ContractId] [ContractIdText ContractId]

/-- A node that is started for the first time. -/
def install (n : Node ContractId) (now : Nat) : SwapNode ContractId :=
  ⟨{ n with stores := Stores.load ∅ }, now, .idle, none⟩

def serve (s : SwapNode ContractId) : NodeInput ContractId → Unit × SwapNode ContractId
  | .served x => ((), s.step x)
  | .restart order recent now =>
    ((), { s with
      node := { s.node with
        stores := (Stores.load s.node.stores.fsStore).failOutboundPendingPayments order recent now }
      request := .idle
      htlc := none })

/-- All swaps, and those a request has copied, are started when they are pending,
and what has been copied is there. -/
structure Listable (s : SwapNode ContractId) : Prop where
  started : s.node.stores.SwapsStarted
  copied : ∀ copies, s.request = .listing copies → ∀ ofTaker paymentHash swap,
    copies.swap? paymentHash ofTaker = some swap →
      swap.Started ∧ (s.node.stores.swap? ofTaker paymentHash).isSome

omit [DecidableEq ContractId] [ContractIdText ContractId] in
theorem swap?_copy (stores : Stores ContractId) (side ofTaker : Bool)
    (copies : Listing ContractId) (paymentHash : PaymentHash) :
    (copies.copy stores side).swap? paymentHash ofTaker =
      if ofTaker = side then stores.swap? ofTaker paymentHash
      else copies.swap? paymentHash ofTaker := by
  cases side <;> cases ofTaker <;> rfl

/-- A step of a listing uses the copies it has, or copies one side. -/
theorem listing_of_step {s : SwapNode ContractId} {x : SwapInput ContractId}
    {copies : Listing ContractId} (h : (s.step x).request = .listing copies) :
    s.request = .listing copies ∨
      (s.step x).node = s.node ∧ ∃ side old, copies = old.copy s.node.stores side ∧
        (old = ⟨∅, ∅⟩ ∨ s.request = .listing old) := by
  cases x with
  | copySwaps side =>
    rw [step] at h ⊢
    cases hr : s.request with
    | idle =>
      simp only [hr, RequestPhase.listing.injEq] at h
      exact .inr ⟨rfl, side, _, h.symm, .inl rfl⟩
    | listing old =>
      simp only [hr, RequestPhase.listing.injEq] at h
      exact .inr ⟨rfl, side, old, h.symm, .inr rfl⟩
    | paying =>
      simp only [hr] at h
      cases h
  | makerInit | taker =>
    rw [step] at h
    split at h <;> exact .inl h
  | makerExecute ln req =>
    rw [step] at h
    split at h
    · simp only [startedPhase] at h
      split at h <;> cases h
    · exact .inl h
  | handOver ln =>
    rw [step] at h
    split at h
    · cases h
    · exact .inl h
  | mapSwap paymentHash ofTaker =>
    rw [step] at h
    split at h
    · split at h <;> exact .inl h
    · exact .inl h
  | answerListing =>
    rw [step] at h
    split at h
    · cases h
    · exact .inl h
  | htlcIntercepted | decideHtlc | payment | paymentFailed =>
    rw [step] at h
    split at h <;> exact .inl h
  | elapse => exact .inl h
  | environment => exact .inl h

theorem Listable.step {s : SwapNode ContractId} (h : s.Listable) (x : SwapInput ContractId) :
    (s.step x).Listable where
  started := closed_step Stores.closed_swapsStarted h.started x
  copied := by
    intro copies hcopies ofTaker paymentHash swap hl
    obtain hold | ⟨hnode, side, old, rfl, hold⟩ := listing_of_step hcopies
    · obtain ⟨hstarted, hs⟩ := h.copied copies hold ofTaker paymentHash swap hl
      exact ⟨hstarted, Stores.isSome_of_changesBy (changesBy_step s x) hs⟩
    · rw [hnode]
      rw [swap?_copy] at hl
      split at hl
      · exact ⟨Stores.started_of_swap? h.started hl, by rw [hl]; rfl⟩
      · obtain rfl | hold := hold
        · cases ofTaker <;> cases hl
        · exact h.copied old hold ofTaker paymentHash swap hl

theorem Listable.serve {s : SwapNode ContractId} (h : s.Listable) (x : NodeInput ContractId) :
    (s.serve x).2.Listable := by
  cases x with
  | served x => exact h.step x
  | restart order recent now =>
    refine ⟨?_, fun copies hcopies => by cases hcopies⟩
    exact (Stores.swapsStarted_load h.started.makerFile
      h.started.takerFile).failOutboundPendingPayments order recent now

omit [DecidableEq ContractId] [ContractIdText ContractId] in
theorem listable_install (n : Node ContractId) (now : Nat) : (install n now).Listable where
  started := Stores.swapsStarted_load (fun _ h => by cases h) (fun _ h => by cases h)
  copied _ h := by cases h

/-- In every run of a new node, whatever it serves and whenever it is restarted:
a pending swap has the time of its start, and a request that lists a swap it has
copied does not panic, unless an earlier panic has poisoned the mutex of the swaps. -/
theorem lists_without_panic (n : Node ContractId) (now : Nat) (xs : List (NodeInput ContractId)) :
    (∀ ofTaker paymentHash swap,
        (Mealy.final serve (install n now) xs).node.stores.swap? ofTaker paymentHash =
          some swap → swap.status = .pending → swap.initiatedAt ≠ none) ∧
      ∀ copies, (Mealy.final serve (install n now) xs).request = .listing copies →
        ∀ ofTaker paymentHash swap, copies.swap? paymentHash ofTaker = some swap → ∀ later,
          (∃ stores, RgbLightningNode.mapSwap later paymentHash swap ofTaker
            (Mealy.final serve (install n now) xs).node.stores = .ok () stores) ∧
          ∀ poisoned, StopsOnly (fun e => poisoned = true ∧ e = poisonError)
            (Stores.mapSwapLocked later paymentHash swap ofTaker)
            ⟨poisoned, (Mealy.final serve (install n now) xs).node.stores⟩ := by
  have h : (Mealy.final serve (install n now) xs).Listable :=
    Mealy.invariant_final (C := fun _ _ => True) (fun _ x h _ => h.serve x)
      (listable_install n now) (Mealy.along_of_forall (fun _ _ => trivial) _)
  refine ⟨fun ofTaker paymentHash swap hl => Stores.started_of_swap? h.started hl, ?_⟩
  intro copies hcopies ofTaker paymentHash swap hl later
  obtain ⟨hstarted, hs⟩ := h.copied copies hcopies ofTaker paymentHash swap hl
  obtain ⟨stores, hmap⟩ := Stores.mapSwap_of_started hstarted later hs
  exact ⟨⟨stores, hmap⟩, Stores.stopsOnly_mapSwapLocked hmap⟩

end SwapNode

end RgbLightningNode
