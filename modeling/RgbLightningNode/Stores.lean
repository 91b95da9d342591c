import RgbLightningNode.Lib.Fallible
import RgbLightningNode.Types

/-!
# The node's stores

Five maps the node keeps in memory and writes to its key-value store: maker
and taker swaps, inbound and outbound payments, and the temporary ids of its
channels. Every mutator takes the lock of one map, changes the map, and writes
it before the lock is given back.
-/

namespace RgbLightningNode

open Fallible

/-- What the key-value store holds under a name. The encoding of a map loses
nothing, so the map stands for its bytes. -/
inductive Persisted (ContractId : Type) where
  | swaps (m : HashMap PaymentHash (SwapData ContractId))
  | inbound (m : HashMap PaymentHash PaymentInfo)
  | outbound (m : HashMap PaymentId PaymentInfo)
  | channelIds (m : HashMap ChannelId ChannelId)

structure Stores (ContractId : Type) where
  makerSwaps : HashMap PaymentHash (SwapData ContractId)
  takerSwaps : HashMap PaymentHash (SwapData ContractId)
  inboundPayments : HashMap PaymentHash PaymentInfo
  outboundPayments : HashMap PaymentId PaymentInfo
  channelIds : HashMap ChannelId ChannelId
  fsStore : HashMap String (Persisted ContractId)

def inboundPaymentsFname : String := "inbound_payments"
def outboundPaymentsFname : String := "outbound_payments"
def channelIdsFname : String := "channel_ids"
def makerSwapsFname : String := "maker_swaps"
def takerSwapsFname : String := "taker_swaps"

/-- The message of an `unwrap` of `None`. -/
def unwrapNone : String := "called `Option::unwrap()` on a `None` value"

variable {ContractId : Type} {ε : Type}

theorem failsOnly_orPanic_iff {ε α : Type} {E : Exit ε → Prop} {x : Option α} {message : String} :
    FailsOnly E (orPanic x message) ↔ (x.isSome ∨ E (.panic none message)) := by
  cases x with
  | none => simp [orPanic, FailsOnly.error_iff]
  | some a => simp [orPanic, FailsOnly.ok]

namespace SwapData

/-- A swap that takes a new status, with the timestamp that goes with it. -/
def withStatus (swap : SwapData ContractId) (status : SwapStatus) (now : Nat) :
    SwapData ContractId :=
  match status with
  | .succeeded | .failed | .expired => { swap with completedAt := some now, status := status }
  | .pending => { swap with initiatedAt := some now, status := status }
  -- unreachable from the updates, which panic on it
  | .waiting => { swap with status := status }

@[simp] theorem withStatus_status (swap : SwapData ContractId) (status : SwapStatus) (now : Nat) :
    (swap.withStatus status now).status = status := by
  cases status <;> rfl

@[simp] theorem withStatus_swapInfo (swap : SwapData ContractId) (status : SwapStatus)
    (now : Nat) : (swap.withStatus status now).swapInfo = swap.swapInfo := by
  cases status <;> rfl

end SwapData

/-- The common body of the two status updates: the entry has to be there, and
no swap is put back to waiting. -/
def updateSwapStatus (held : Mutex) (swaps : HashMap PaymentHash (SwapData ContractId))
    (paymentHash : PaymentHash) (status : SwapStatus) (now : Nat) :
    Except (Exit ε) (HashMap PaymentHash (SwapData ContractId)) :=
  match swaps.lookup paymentHash with
  | none => .error (.panic (some held) unwrapNone)
  | some swap =>
    if status = .waiting then
      .error (.panic (some held) "this doesn't make sense: swap starts in Waiting status")
    else .ok (swaps.insert paymentHash (swap.withStatus status now))

namespace Stores

/-! ### Saving a map -/

def saveMakerSwaps (m : HashMap PaymentHash (SwapData ContractId)) (s : Stores ContractId) :
    Stores ContractId :=
  { s with makerSwaps := m, fsStore := s.fsStore.insert makerSwapsFname (.swaps m) }

def saveTakerSwaps (m : HashMap PaymentHash (SwapData ContractId)) (s : Stores ContractId) :
    Stores ContractId :=
  { s with takerSwaps := m, fsStore := s.fsStore.insert takerSwapsFname (.swaps m) }

def saveInboundPayments (m : HashMap PaymentHash PaymentInfo) (s : Stores ContractId) :
    Stores ContractId :=
  { s with inboundPayments := m, fsStore := s.fsStore.insert inboundPaymentsFname (.inbound m) }

def saveOutboundPayments (m : HashMap PaymentId PaymentInfo) (s : Stores ContractId) :
    Stores ContractId :=
  { s with
    outboundPayments := m, fsStore := s.fsStore.insert outboundPaymentsFname (.outbound m) }

def saveChannelIdsMap (m : HashMap ChannelId ChannelId) (s : Stores ContractId) :
    Stores ContractId :=
  { s with channelIds := m, fsStore := s.fsStore.insert channelIdsFname (.channelIds m) }

/-! ### Mutators -/

def addMakerSwap (paymentHash : PaymentHash) (swap : SwapData ContractId)
    (s : Stores ContractId) : Stores ContractId :=
  s.saveMakerSwaps (s.makerSwaps.insert paymentHash swap)

def updateMakerSwapStatus (paymentHash : PaymentHash) (status : SwapStatus) (now : Nat) :
    Fallible (Exit ε) (Stores ContractId) Unit := do
  let s ← get
  let m ← attempt (updateSwapStatus .makerSwaps s.makerSwaps paymentHash status now)
  set (s.saveMakerSwaps m)

def isMakerSwap (paymentHash : PaymentHash) (s : Stores ContractId) : Bool :=
  (s.makerSwaps.lookup paymentHash).isSome

def addTakerSwap (paymentHash : PaymentHash) (swap : SwapData ContractId)
    (s : Stores ContractId) : Stores ContractId :=
  s.saveTakerSwaps (s.takerSwaps.insert paymentHash swap)

def updateTakerSwapStatus (paymentHash : PaymentHash) (status : SwapStatus) (now : Nat) :
    Fallible (Exit ε) (Stores ContractId) Unit := do
  let s ← get
  let m ← attempt (updateSwapStatus .takerSwaps s.takerSwaps paymentHash status now)
  set (s.saveTakerSwaps m)

def isTakerSwap (paymentHash : PaymentHash) (s : Stores ContractId) : Bool :=
  (s.takerSwaps.lookup paymentHash).isSome

def addInboundPayment (paymentHash : PaymentHash) (info : PaymentInfo)
    (s : Stores ContractId) : Stores ContractId :=
  s.saveInboundPayments (s.inboundPayments.insert paymentHash info)

/-- Record an outbound payment before it is sent. Only a failed one may be
tried again under its id. -/
def addOutboundPayment (paymentId : PaymentId) (info : PaymentInfo) :
    Fallible (Exit APIError) (Stores ContractId) Unit := do
  let s ← get
  match s.outboundPayments.lookup paymentId with
  | some existing =>
    ensure (existing.status = .failed) (.err (.duplicatePayment existing.status.toText))
  | none => pure ()
  set (s.saveOutboundPayments (s.outboundPayments.insert paymentId info))

/-- Fail the pending payments that are not among the recent ones, going through
the map in the order `ids`, and say whether there was one. -/
def failPending (recent : List PaymentId) (now : PaymentId → Nat) :
    List PaymentId → HashMap PaymentId PaymentInfo → Bool → HashMap PaymentId PaymentInfo × Bool
  | [], payments, failed => (payments, failed)
  | id :: ids, payments, failed =>
    match payments.lookup id with
    | some info =>
      if info.status = .pending ∧ id ∉ recent then
        failPending recent now ids
          (payments.insert id { info with status := .failed, updatedAt := now id }) true
      else failPending recent now ids payments failed
    | none => failPending recent now ids payments failed

/-- At start-up, fail what was pending and is unknown to the channel manager.
`order` is the order in which the map happens to be iterated. -/
def failOutboundPendingPayments (order recent : List PaymentId) (now : PaymentId → Nat)
    (s : Stores ContractId) : Stores ContractId :=
  match failPending recent now order s.outboundPayments false with
  | (payments, true) => s.saveOutboundPayments payments
  | (payments, false) => { s with outboundPayments := payments }

/-- Record a claimed payment: an entry that is there keeps its amount and its
creation time. -/
def upsertInboundPayment (paymentHash : PaymentHash) (status : HTLCStatus)
    (preimage : Option PaymentPreimage) (secret : Option PaymentSecret) (amtMsat : Option Nat)
    (payeePubkey : PublicKey) (now : Nat) (s : Stores ContractId) : Stores ContractId :=
  match s.inboundPayments.lookup paymentHash with
  | some info =>
    s.saveInboundPayments (s.inboundPayments.insert paymentHash
      { info with status := status, preimage := preimage, secret := secret, updatedAt := now })
  | none =>
    s.saveInboundPayments (s.inboundPayments.insert paymentHash
      ⟨preimage, secret, status, amtMsat, now, now, payeePubkey⟩)

def updateOutboundPayment (paymentId : PaymentId) (status : HTLCStatus)
    (preimage : Option PaymentPreimage) (now : Nat) :
    Fallible (Exit ε) (Stores ContractId) PaymentInfo := do
  let s ← get
  let info ← expect (s.outboundPayments.lookup paymentId)
    (.panic (some .outboundPayments) unwrapNone)
  let updated := { info with status := status, preimage := preimage, updatedAt := now }
  set (s.saveOutboundPayments (s.outboundPayments.insert paymentId updated))
  return updated

def updateOutboundPaymentStatus (paymentId : PaymentId) (status : HTLCStatus) (now : Nat) :
    Fallible (Exit ε) (Stores ContractId) Unit := do
  let s ← get
  let info ← expect (s.outboundPayments.lookup paymentId)
    (.panic (some .outboundPayments) unwrapNone)
  set (s.saveOutboundPayments
    (s.outboundPayments.insert paymentId { info with status := status, updatedAt := now }))

def addChannelId (formerTemporaryChannelId channelId : ChannelId) (s : Stores ContractId) :
    Stores ContractId :=
  s.saveChannelIdsMap (s.channelIds.insert formerTemporaryChannelId channelId)

/-- Forget the temporary id of a channel. `order` is the order in which the
map happens to be iterated. -/
def deleteChannelId (order : List ChannelId) (channelId : ChannelId) (s : Stores ContractId) :
    Stores ContractId :=
  match order.find? fun tmp => s.channelIds.lookup tmp = some channelId with
  | some tmp => s.saveChannelIdsMap (s.channelIds.erase tmp)
  | none => s

/-! ### What the mutators do -/

/-- The common map of the two updates takes a status exactly when the swap is
there and the status is not the first one. -/
theorem updateSwapStatus_eq_ok_iff {held : Mutex}
    {swaps m : HashMap PaymentHash (SwapData ContractId)} {paymentHash : PaymentHash}
    {status : SwapStatus} {now : Nat} :
    (updateSwapStatus held swaps paymentHash status now : Except (Exit ε) _) = .ok m ↔
      ∃ swap, swaps.lookup paymentHash = some swap ∧ status ≠ .waiting ∧
        m = swaps.insert paymentHash (swap.withStatus status now) := by
  rcases hl : swaps.lookup paymentHash with _ | swap
  · simp [updateSwapStatus, hl]
  · by_cases hs : status = .waiting <;> simp [updateSwapStatus, hl, hs, eq_comm]

/-- The two updates differ in the map they read and save. -/
theorem markSwap_eq_ok_iff (held : Mutex)
    (swaps : Stores ContractId → HashMap PaymentHash (SwapData ContractId))
    (save : HashMap PaymentHash (SwapData ContractId) → Stores ContractId → Stores ContractId)
    {s s' : Stores ContractId} {paymentHash : PaymentHash} {status : SwapStatus} {now : Nat} :
    (do
      let s ← get
      let m ← attempt (updateSwapStatus held (swaps s) paymentHash status now)
      set (save m s) : Fallible (Exit ε) (Stores ContractId) Unit) s = .ok () s' ↔
      ∃ swap, (swaps s).lookup paymentHash = some swap ∧ status ≠ .waiting ∧
        s' = save ((swaps s).insert paymentHash (swap.withStatus status now)) s := by
  rw [update_eq_ok_iff (fun s => updateSwapStatus held (swaps s) paymentHash status now) save]
  simp only [updateSwapStatus_eq_ok_iff]
  constructor
  · rintro ⟨m, ⟨swap, hl, hs, rfl⟩, rfl⟩
    exact ⟨swap, hl, hs, rfl⟩
  · rintro ⟨swap, hl, hs, rfl⟩
    exact ⟨_, ⟨swap, hl, hs, rfl⟩, rfl⟩

variable {s s' : Stores ContractId} {paymentHash : PaymentHash} {status : SwapStatus}
  {swap : SwapData ContractId} {e : Exit ε}

theorem updateMakerSwapStatus_eq_ok_iff {now : Nat} :
    (updateMakerSwapStatus paymentHash status now : Fallible (Exit ε) _ Unit) s = .ok () s' ↔
      ∃ swap, s.makerSwaps.lookup paymentHash = some swap ∧ status ≠ .waiting ∧
        s' = s.saveMakerSwaps (s.makerSwaps.insert paymentHash (swap.withStatus status now)) :=
  markSwap_eq_ok_iff .makerSwaps makerSwaps saveMakerSwaps

theorem updateTakerSwapStatus_eq_ok_iff {now : Nat} :
    (updateTakerSwapStatus paymentHash status now : Fallible (Exit ε) _ Unit) s = .ok () s' ↔
      ∃ swap, s.takerSwaps.lookup paymentHash = some swap ∧ status ≠ .waiting ∧
        s' = s.saveTakerSwaps (s.takerSwaps.insert paymentHash (swap.withStatus status now)) :=
  markSwap_eq_ok_iff .takerSwaps takerSwaps saveTakerSwaps

theorem updateMakerSwapStatus_of_lookup (now : Nat)
    (hl : s.makerSwaps.lookup paymentHash = some swap) (hs : status ≠ .waiting) :
    (updateMakerSwapStatus paymentHash status now : Fallible (Exit ε) _ Unit) s =
      .ok () (s.saveMakerSwaps (s.makerSwaps.insert paymentHash (swap.withStatus status now))) :=
  updateMakerSwapStatus_eq_ok_iff.mpr ⟨swap, hl, hs, rfl⟩

theorem updateTakerSwapStatus_of_lookup (now : Nat)
    (hl : s.takerSwaps.lookup paymentHash = some swap) (hs : status ≠ .waiting) :
    (updateTakerSwapStatus paymentHash status now : Fallible (Exit ε) _ Unit) s =
      .ok () (s.saveTakerSwaps (s.takerSwaps.insert paymentHash (swap.withStatus status now))) :=
  updateTakerSwapStatus_eq_ok_iff.mpr ⟨swap, hl, hs, rfl⟩

theorem failsOnly_updateSwapStatus_iff {E : Exit ε → Prop} {held : Mutex}
    {swaps : HashMap PaymentHash (SwapData ContractId)} {now : Nat} (hs : status ≠ .waiting) :
    FailsOnly E (updateSwapStatus held swaps paymentHash status now) ↔
      ((swaps.lookup paymentHash).isSome ∨ E (.panic (some held) unwrapNone)) := by
  cases hl : swaps.lookup paymentHash with
  | none =>
    rw [updateSwapStatus, hl, FailsOnly.error_iff]
    simp
  | some swap =>
    rw [updateSwapStatus, hl]
    simp [hs, FailsOnly.ok]

/-- An update of a maker swap stops only because the swap is not there. -/
theorem stopsOnly_updateMakerSwapStatus_iff {E : Exit ε → Prop} {now : Nat}
    (hs : status ≠ .waiting) :
    StopsOnly E (updateMakerSwapStatus paymentHash status now) s ↔
      (s.isMakerSwap paymentHash ∨ E (.panic (some .makerSwaps) unwrapNone)) := by
  rw [updateMakerSwapStatus, StopsOnly.bind_of_ok_iff (get_apply s), StopsOnly.attempt_bind_iff,
    failsOnly_updateSwapStatus_iff hs, isMakerSwap]
  exact and_iff_left fun m _ e t h => by cases h

/-- An update that panics has changed nothing. -/
theorem updateMakerSwapStatus_error {now : Nat}
    (h : (updateMakerSwapStatus paymentHash status now : Fallible (Exit ε) _ Unit) s =
      .error e s') : s = s' :=
  update_error (fun s : Stores ContractId =>
    updateSwapStatus .makerSwaps s.makerSwaps paymentHash status now) saveMakerSwaps h

theorem updateTakerSwapStatus_error {now : Nat}
    (h : (updateTakerSwapStatus paymentHash status now : Fallible (Exit ε) _ Unit) s =
      .error e s') : s = s' :=
  update_error (fun s : Stores ContractId =>
    updateSwapStatus .takerSwaps s.takerSwaps paymentHash status now) saveTakerSwaps h

theorem updateOutboundPayment_error {paymentId : PaymentId} {status : HTLCStatus}
    {preimage : Option PaymentPreimage} {now : Nat}
    (h : (updateOutboundPayment paymentId status preimage now : Fallible (Exit ε) _ _) s =
      .error e s') : s = s' := by
  rcases hl : s.outboundPayments.lookup paymentId with _ | info <;>
    simp [updateOutboundPayment, bind_apply, map_apply, hl] at h
  exact h.2

theorem updateOutboundPayment_eq_ok_iff {paymentId : PaymentId} {status : HTLCStatus}
    {preimage : Option PaymentPreimage} {now : Nat} {updated : PaymentInfo} :
    (updateOutboundPayment paymentId status preimage now : Fallible (Exit ε) _ _) s =
        .ok updated s' ↔
      ∃ info : PaymentInfo, s.outboundPayments.lookup paymentId = some info ∧
        updated = { info with status := status, preimage := preimage, updatedAt := now } ∧
        s' = s.saveOutboundPayments (s.outboundPayments.insert paymentId updated) := by
  rcases hl : s.outboundPayments.lookup paymentId with _ | info
  · simp [updateOutboundPayment, bind_apply, hl]
  · simp only [updateOutboundPayment, bind_apply, hl, get_apply, expect_some, set_apply]
    constructor
    · rintro h
      obtain ⟨rfl, rfl⟩ := EStateM.Result.ok.inj h
      exact ⟨info, rfl, rfl, rfl⟩
    · rintro ⟨info', hi, rfl, rfl⟩
      obtain rfl := Option.some.inj hi
      rfl

theorem updateOutboundPayment_of_lookup {paymentId : PaymentId} {info : PaymentInfo}
    (status : HTLCStatus) (preimage : Option PaymentPreimage) (now : Nat)
    (hl : s.outboundPayments.lookup paymentId = some info) :
    (updateOutboundPayment paymentId status preimage now : Fallible (Exit ε) _ _) s =
      .ok { info with status := status, preimage := preimage, updatedAt := now }
        (s.saveOutboundPayments (s.outboundPayments.insert paymentId
          { info with status := status, preimage := preimage, updatedAt := now })) :=
  updateOutboundPayment_eq_ok_iff.mpr ⟨info, hl, rfl, rfl⟩

theorem updateOutboundPaymentStatus_eq_ok_iff {paymentId : PaymentId} {status : HTLCStatus}
    {now : Nat} :
    (updateOutboundPaymentStatus paymentId status now : Fallible (Exit ε) _ Unit) s = .ok () s' ↔
      ∃ info : PaymentInfo, s.outboundPayments.lookup paymentId = some info ∧
        s' = s.saveOutboundPayments
          (s.outboundPayments.insert paymentId
            { info with status := status, updatedAt := now }) := by
  rcases hl : s.outboundPayments.lookup paymentId with _ | info
  · simp [updateOutboundPaymentStatus, bind_apply, hl]
  · simp [updateOutboundPaymentStatus, bind_apply, hl, eq_comm]

theorem updateOutboundPaymentStatus_error {paymentId : PaymentId} {status : HTLCStatus}
    {now : Nat}
    (h : (updateOutboundPaymentStatus paymentId status now : Fallible (Exit ε) _ Unit) s =
      .error e s') : s = s' := by
  rcases hl : s.outboundPayments.lookup paymentId with _ | info <;>
    simp [updateOutboundPaymentStatus, bind_apply, hl] at h
  exact h.2

/-- A payment is recorded exactly when there is none under its id, or one that
has failed. -/
theorem addOutboundPayment_eq_ok_iff {paymentId : PaymentId} {info : PaymentInfo} :
    addOutboundPayment paymentId info s = .ok () s' ↔
      (∀ existing, s.outboundPayments.lookup paymentId = some existing →
        existing.status = .failed) ∧
        s' = s.saveOutboundPayments (s.outboundPayments.insert paymentId info) := by
  rcases hl : s.outboundPayments.lookup paymentId with _ | existing
  · simp [addOutboundPayment, bind_apply, hl, eq_comm]
  · by_cases hf : existing.status = .failed
    · simp [addOutboundPayment, bind_apply, hl, hf, eq_comm (a := s')]
    · simp [addOutboundPayment, bind_apply, hl, hf]

theorem addOutboundPayment_error {paymentId : PaymentId} {info : PaymentInfo}
    {e : Exit APIError} (h : addOutboundPayment paymentId info s = .error e s') : s = s' := by
  rcases hl : s.outboundPayments.lookup paymentId with _ | existing
  · simp [addOutboundPayment, bind_apply, hl] at h
  · by_cases hf : existing.status = .failed <;>
      simp [addOutboundPayment, bind_apply, hl, hf] at h
    exact h.2

/-- The sweep fails pending payments only, and none of the recent ones. -/
theorem lookup_failPending (recent : List PaymentId) (now : PaymentId → Nat)
    (ids : List PaymentId) (payments : HashMap PaymentId PaymentInfo) (failed : Bool)
    (id : PaymentId) :
    (failPending recent now ids payments failed).1.lookup id = payments.lookup id ∨
      ∃ info, payments.lookup id = some info ∧ info.status = .pending ∧ id ∉ recent ∧
        (failPending recent now ids payments failed).1.lookup id =
          some { info with status := .failed, updatedAt := now id } := by
  induction ids generalizing payments failed with
  | nil => exact .inl rfl
  | cons other ids ih =>
    rw [failPending]
    rcases hl : payments.lookup other with _ | info
    · exact ih payments failed
    by_cases hp : info.status = .pending ∧ other ∉ recent
    swap
    · simp only [if_neg hp]
      exact ih payments failed
    simp only [if_pos hp]
    -- after the write the entry has failed, so the rest of the sweep keeps it
    rcases ih (payments.insert other { info with status := .failed, updatedAt := now other }) true
      with h | ⟨info', hl', hp', hr, h⟩
    · by_cases hid : id = other
      · subst hid
        rw [Finmap.lookup_insert] at h
        exact .inr ⟨info, hl, hp.1, hp.2, h⟩
      · rw [Finmap.lookup_insert_of_ne _ hid] at h
        exact .inl h
    · by_cases hid : id = other
      · subst hid
        rw [Finmap.lookup_insert] at hl'
        obtain rfl := Option.some.inj hl'
        cases hp'
      · rw [Finmap.lookup_insert_of_ne _ hid] at hl'
        exact .inr ⟨info', hl', hp', hr, h⟩

/-- When the sweep reports nothing it has changed nothing. -/
theorem failPending_of_false (recent : List PaymentId) (now : PaymentId → Nat)
    (ids : List PaymentId) (payments : HashMap PaymentId PaymentInfo) (failed : Bool)
    (h : (failPending recent now ids payments failed).2 = false) :
    failed = false ∧ (failPending recent now ids payments failed).1 = payments := by
  induction ids generalizing payments failed with
  | nil => exact ⟨h, rfl⟩
  | cons other ids ih =>
    rw [failPending] at h ⊢
    rcases hl : payments.lookup other with _ | info
    · simp only [hl] at h
      exact ih payments failed h
    by_cases hp : info.status = .pending ∧ other ∉ recent
    · simp only [hl, if_pos hp] at h
      exact absurd (ih _ true h).1 (by simp)
    · simp only [hl, if_neg hp] at h ⊢
      exact ih payments failed h

theorem outboundPayments_failOutboundPendingPayments (order recent : List PaymentId)
    (now : PaymentId → Nat) (s : Stores ContractId) :
    (s.failOutboundPendingPayments order recent now).outboundPayments =
      (failPending recent now order s.outboundPayments false).1 := by
  rw [failOutboundPendingPayments]
  split
  · rename_i hf
    rw [hf]
    rfl
  · rename_i hf
    rw [hf]

/-- The sweep saves the map it has gone through, or leaves everything as it was. -/
theorem failOutboundPendingPayments_eq (order recent : List PaymentId) (now : PaymentId → Nat)
    (s : Stores ContractId) :
    s.failOutboundPendingPayments order recent now = s ∨
      ∃ payments, s.failOutboundPendingPayments order recent now =
        s.saveOutboundPayments payments := by
  rw [failOutboundPendingPayments]
  split
  · exact .inr ⟨_, rfl⟩
  · rename_i payments hf
    have hsame := (failPending_of_false recent now order s.outboundPayments false (by rw [hf])).2
    rw [hf] at hsame
    obtain rfl : payments = s.outboundPayments := hsame
    exact .inl rfl

/-! ### Loading the maps -/

def readSwapsInfo (fs : HashMap String (Persisted ContractId)) (fname : String) :
    HashMap PaymentHash (SwapData ContractId) :=
  match fs.lookup fname with
  | some (.swaps m) => m
  | _ => ∅

def readInboundPaymentInfo (fs : HashMap String (Persisted ContractId)) (fname : String) :
    HashMap PaymentHash PaymentInfo :=
  match fs.lookup fname with
  | some (.inbound m) => m
  | _ => ∅

def readOutboundPaymentInfo (fs : HashMap String (Persisted ContractId)) (fname : String) :
    HashMap PaymentId PaymentInfo :=
  match fs.lookup fname with
  | some (.outbound m) => m
  | _ => ∅

def readChannelIdsInfo (fs : HashMap String (Persisted ContractId)) (fname : String) :
    HashMap ChannelId ChannelId :=
  match fs.lookup fname with
  | some (.channelIds m) => m
  | _ => ∅

/-- The maps a node that starts on this key-value store begins with. -/
def load (fs : HashMap String (Persisted ContractId)) : Stores ContractId where
  makerSwaps := readSwapsInfo fs makerSwapsFname
  takerSwaps := readSwapsInfo fs takerSwapsFname
  inboundPayments := readInboundPaymentInfo fs inboundPaymentsFname
  outboundPayments := readOutboundPaymentInfo fs outboundPaymentsFname
  channelIds := readChannelIdsInfo fs channelIdsFname
  fsStore := fs

end Stores

end RgbLightningNode
