import RgbLightningNode.Lib.Mealy
import RgbLightningNode.Stores

/-!
# The stores are write-through

The API handlers and the event handler change the five maps in any order. Each
change is made and written under the lock of its map, so between two changes
every file is the encoding of its map and nothing is lost when the node stops.
-/

namespace RgbLightningNode

open Fallible

variable {ContractId : Type}

/-- A change of one of the maps, or a restart. -/
inductive StoreOp (ContractId : Type) where
  | addMakerSwap (paymentHash : PaymentHash) (swap : SwapData ContractId)
  | updateMakerSwapStatus (paymentHash : PaymentHash) (status : SwapStatus) (now : Nat)
  | addTakerSwap (paymentHash : PaymentHash) (swap : SwapData ContractId)
  | updateTakerSwapStatus (paymentHash : PaymentHash) (status : SwapStatus) (now : Nat)
  | addInboundPayment (paymentHash : PaymentHash) (info : PaymentInfo)
  | upsertInboundPayment (paymentHash : PaymentHash) (status : HTLCStatus)
      (preimage : Option PaymentPreimage) (secret : Option PaymentSecret) (amtMsat : Option Nat)
      (payeePubkey : PublicKey) (now : Nat)
  | addOutboundPayment (paymentId : PaymentId) (info : PaymentInfo)
  | updateOutboundPayment (paymentId : PaymentId) (status : HTLCStatus)
      (preimage : Option PaymentPreimage) (now : Nat)
  | updateOutboundPaymentStatus (paymentId : PaymentId) (status : HTLCStatus) (now : Nat)
  | failOutboundPendingPayments (order recent : List PaymentId) (now : PaymentId → Nat)
  | addChannelId (formerTemporaryChannelId channelId : ChannelId)
  | deleteChannelId (order : List ChannelId) (channelId : ChannelId)
  /-- The node stops here and loads what is on disk. -/
  | restart

namespace Stores

/-- One operation. One that panics or is refused may leave the stores as they were. -/
def step (s : Stores ContractId) : StoreOp ContractId → Unit × Stores ContractId
  | .addMakerSwap paymentHash swap => ((), s.addMakerSwap paymentHash swap)
  | .updateMakerSwapStatus paymentHash status now =>
    ((), after (updateMakerSwapStatus (ε := ReplayEvent) paymentHash status now) s)
  | .addTakerSwap paymentHash swap => ((), s.addTakerSwap paymentHash swap)
  | .updateTakerSwapStatus paymentHash status now =>
    ((), after (updateTakerSwapStatus (ε := ReplayEvent) paymentHash status now) s)
  | .addInboundPayment paymentHash info => ((), s.addInboundPayment paymentHash info)
  | .upsertInboundPayment paymentHash status preimage secret amtMsat payeePubkey now =>
    ((), s.upsertInboundPayment paymentHash status preimage secret amtMsat payeePubkey now)
  | .addOutboundPayment paymentId info => ((), after (addOutboundPayment paymentId info) s)
  | .updateOutboundPayment paymentId status preimage now =>
    ((), after (updateOutboundPayment (ε := ReplayEvent) paymentId status preimage now) s)
  | .updateOutboundPaymentStatus paymentId status now =>
    ((), after (updateOutboundPaymentStatus (ε := ReplayEvent) paymentId status now) s)
  | .failOutboundPendingPayments order recent now =>
    ((), s.failOutboundPendingPayments order recent now)
  | .addChannelId formerTemporaryChannelId channelId =>
    ((), s.addChannelId formerTemporaryChannelId channelId)
  | .deleteChannelId order channelId => ((), s.deleteChannelId order channelId)
  | .restart => ((), load s.fsStore)

/-! ### What is on disk -/

/-- The file under a name holds the encoding of a map; a map that was never
written is empty. -/
def Mirrors (fs : HashMap String (Persisted ContractId)) (fname : String)
    (encoding ofEmpty : Persisted ContractId) : Prop :=
  fs.lookup fname = some encoding ∨ fs.lookup fname = none ∧ encoding = ofEmpty

/-- Every file is the encoding of its map. -/
structure WriteThrough (s : Stores ContractId) : Prop where
  makerSwaps : Mirrors s.fsStore makerSwapsFname (.swaps s.makerSwaps) (.swaps ∅)
  takerSwaps : Mirrors s.fsStore takerSwapsFname (.swaps s.takerSwaps) (.swaps ∅)
  inboundPayments :
    Mirrors s.fsStore inboundPaymentsFname (.inbound s.inboundPayments) (.inbound ∅)
  outboundPayments :
    Mirrors s.fsStore outboundPaymentsFname (.outbound s.outboundPayments) (.outbound ∅)
  channelIds : Mirrors s.fsStore channelIdsFname (.channelIds s.channelIds) (.channelIds ∅)

/-- Each of the five files, where it is there, holds a map of its kind, as the
node writes them. -/
structure Written (fs : HashMap String (Persisted ContractId)) : Prop where
  makerSwaps : ∀ p, fs.lookup makerSwapsFname = some p → ∃ m, p = .swaps m
  takerSwaps : ∀ p, fs.lookup takerSwapsFname = some p → ∃ m, p = .swaps m
  inboundPayments : ∀ p, fs.lookup inboundPaymentsFname = some p → ∃ m, p = .inbound m
  outboundPayments : ∀ p, fs.lookup outboundPaymentsFname = some p → ∃ m, p = .outbound m
  channelIds : ∀ p, fs.lookup channelIdsFname = some p → ∃ m, p = .channelIds m

variable {fs : HashMap String (Persisted ContractId)} {fname other : String}
  {p q r : Persisted ContractId} {s s' : Stores ContractId}

theorem mirrors_insert (fs : HashMap String (Persisted ContractId)) (fname : String)
    (p q : Persisted ContractId) : Mirrors (fs.insert fname p) fname p q :=
  .inl (Finmap.lookup_insert fs)

/-- Writing one file leaves the others as they are. -/
theorem Mirrors.insert_ne (h : Mirrors fs fname p q) (hne : fname ≠ other) :
    Mirrors (fs.insert other r) fname p q := by
  rw [Mirrors, Finmap.lookup_insert_of_ne _ hne]
  exact h

theorem Mirrors.readSwapsInfo {m : HashMap PaymentHash (SwapData ContractId)}
    (h : Mirrors fs fname (.swaps m) (.swaps ∅)) : readSwapsInfo fs fname = m := by
  obtain h | ⟨h, hm⟩ := h
  · simp only [Stores.readSwapsInfo, h]
  · obtain rfl := Persisted.swaps.inj hm
    simp only [Stores.readSwapsInfo, h]

theorem Mirrors.readInboundPaymentInfo {m : HashMap PaymentHash PaymentInfo}
    (h : Mirrors fs fname (.inbound m) (.inbound ∅)) : readInboundPaymentInfo fs fname = m := by
  obtain h | ⟨h, hm⟩ := h
  · simp only [Stores.readInboundPaymentInfo, h]
  · obtain rfl := Persisted.inbound.inj hm
    simp only [Stores.readInboundPaymentInfo, h]

theorem Mirrors.readOutboundPaymentInfo {m : HashMap PaymentId PaymentInfo}
    (h : Mirrors fs fname (.outbound m) (.outbound ∅)) :
    readOutboundPaymentInfo fs fname = m := by
  obtain h | ⟨h, hm⟩ := h
  · simp only [Stores.readOutboundPaymentInfo, h]
  · obtain rfl := Persisted.outbound.inj hm
    simp only [Stores.readOutboundPaymentInfo, h]

theorem Mirrors.readChannelIdsInfo {m : HashMap ChannelId ChannelId}
    (h : Mirrors fs fname (.channelIds m) (.channelIds ∅)) : readChannelIdsInfo fs fname = m := by
  obtain h | ⟨h, hm⟩ := h
  · simp only [Stores.readChannelIdsInfo, h]
  · obtain rfl := Persisted.channelIds.inj hm
    simp only [Stores.readChannelIdsInfo, h]

/-- Loading the stores of a write-through node gives back what the node had in memory. -/
theorem WriteThrough.load_eq (h : s.WriteThrough) : load s.fsStore = s := by
  obtain ⟨makerSwaps, takerSwaps, inbound, outbound, channelIds, fs⟩ := s
  simp only [load, h.makerSwaps.readSwapsInfo, h.takerSwaps.readSwapsInfo,
    h.inboundPayments.readInboundPaymentInfo, h.outboundPayments.readOutboundPaymentInfo,
    h.channelIds.readChannelIdsInfo]

/-- A node that starts on the files of an earlier one is write-through. -/
theorem Written.writeThrough_load (h : Written fs) : (load fs).WriteThrough := by
  have mirrors : ∀ {fname} {encoding ofEmpty : Persisted ContractId},
      (∀ p, fs.lookup fname = some p → encoding = p) →
      (fs.lookup fname = none → encoding = ofEmpty) →
      Mirrors fs fname encoding ofEmpty := by
    intro fname encoding ofEmpty hsome hnone
    cases hl : fs.lookup fname with
    | none => exact .inr ⟨hl, hnone hl⟩
    | some p => exact .inl (hl.trans (congrArg some (hsome p hl).symm))
  constructor
  · refine mirrors (fun p hp => ?_) fun hn => by simp [load, readSwapsInfo, hn]
    obtain ⟨m, rfl⟩ := h.makerSwaps p hp
    simp [load, readSwapsInfo, hp]
  · refine mirrors (fun p hp => ?_) fun hn => by simp [load, readSwapsInfo, hn]
    obtain ⟨m, rfl⟩ := h.takerSwaps p hp
    simp [load, readSwapsInfo, hp]
  · refine mirrors (fun p hp => ?_) fun hn => by simp [load, readInboundPaymentInfo, hn]
    obtain ⟨m, rfl⟩ := h.inboundPayments p hp
    simp [load, readInboundPaymentInfo, hp]
  · refine mirrors (fun p hp => ?_) fun hn => by simp [load, readOutboundPaymentInfo, hn]
    obtain ⟨m, rfl⟩ := h.outboundPayments p hp
    simp [load, readOutboundPaymentInfo, hp]
  · refine mirrors (fun p hp => ?_) fun hn => by simp [load, readChannelIdsInfo, hn]
    obtain ⟨m, rfl⟩ := h.channelIds p hp
    simp [load, readChannelIdsInfo, hp]

/-! ### Saving a map keeps the others -/

theorem WriteThrough.saveMakerSwaps (h : s.WriteThrough)
    (m : HashMap PaymentHash (SwapData ContractId)) : (s.saveMakerSwaps m).WriteThrough where
  makerSwaps := mirrors_insert _ _ _ _
  takerSwaps := h.takerSwaps.insert_ne (by decide)
  inboundPayments := h.inboundPayments.insert_ne (by decide)
  outboundPayments := h.outboundPayments.insert_ne (by decide)
  channelIds := h.channelIds.insert_ne (by decide)

theorem WriteThrough.saveTakerSwaps (h : s.WriteThrough)
    (m : HashMap PaymentHash (SwapData ContractId)) : (s.saveTakerSwaps m).WriteThrough where
  makerSwaps := h.makerSwaps.insert_ne (by decide)
  takerSwaps := mirrors_insert _ _ _ _
  inboundPayments := h.inboundPayments.insert_ne (by decide)
  outboundPayments := h.outboundPayments.insert_ne (by decide)
  channelIds := h.channelIds.insert_ne (by decide)

theorem WriteThrough.saveInboundPayments (h : s.WriteThrough)
    (m : HashMap PaymentHash PaymentInfo) : (s.saveInboundPayments m).WriteThrough where
  makerSwaps := h.makerSwaps.insert_ne (by decide)
  takerSwaps := h.takerSwaps.insert_ne (by decide)
  inboundPayments := mirrors_insert _ _ _ _
  outboundPayments := h.outboundPayments.insert_ne (by decide)
  channelIds := h.channelIds.insert_ne (by decide)

theorem WriteThrough.saveOutboundPayments (h : s.WriteThrough)
    (m : HashMap PaymentId PaymentInfo) : (s.saveOutboundPayments m).WriteThrough where
  makerSwaps := h.makerSwaps.insert_ne (by decide)
  takerSwaps := h.takerSwaps.insert_ne (by decide)
  inboundPayments := h.inboundPayments.insert_ne (by decide)
  outboundPayments := mirrors_insert _ _ _ _
  channelIds := h.channelIds.insert_ne (by decide)

theorem WriteThrough.saveChannelIdsMap (h : s.WriteThrough) (m : HashMap ChannelId ChannelId) :
    (s.saveChannelIdsMap m).WriteThrough where
  makerSwaps := h.makerSwaps.insert_ne (by decide)
  takerSwaps := h.takerSwaps.insert_ne (by decide)
  inboundPayments := h.inboundPayments.insert_ne (by decide)
  outboundPayments := h.outboundPayments.insert_ne (by decide)
  channelIds := mirrors_insert _ _ _ _

/-! ### Runs -/

theorem WriteThrough.failOutboundPendingPayments (h : s.WriteThrough)
    (order recent : List PaymentId) (now : PaymentId → Nat) :
    (s.failOutboundPendingPayments order recent now).WriteThrough := by
  obtain heq | ⟨payments, heq⟩ := failOutboundPendingPayments_eq order recent now s
  · rw [heq]
    exact h
  · rw [heq]
    exact h.saveOutboundPayments payments

theorem WriteThrough.step (h : s.WriteThrough) (op : StoreOp ContractId) :
    (step s op).2.WriteThrough := by
  cases op with
  | addMakerSwap => exact h.saveMakerSwaps _
  | updateMakerSwapStatus =>
    refine after_of_unchanged h (fun _ s' hx => ?_) fun _ _ hx => updateMakerSwapStatus_error hx
    obtain ⟨swap, -, -, rfl⟩ := updateMakerSwapStatus_eq_ok_iff.mp hx
    exact h.saveMakerSwaps _
  | addTakerSwap => exact h.saveTakerSwaps _
  | updateTakerSwapStatus =>
    refine after_of_unchanged h (fun _ s' hx => ?_) fun _ _ hx => updateTakerSwapStatus_error hx
    obtain ⟨swap, -, -, rfl⟩ := updateTakerSwapStatus_eq_ok_iff.mp hx
    exact h.saveTakerSwaps _
  | addInboundPayment => exact h.saveInboundPayments _
  | upsertInboundPayment paymentHash =>
    simp only [Stores.step, upsertInboundPayment]
    split <;> exact h.saveInboundPayments _
  | addOutboundPayment =>
    refine after_of_unchanged h (fun _ s' hx => ?_) fun _ _ hx => addOutboundPayment_error hx
    obtain ⟨-, rfl⟩ := addOutboundPayment_eq_ok_iff.mp hx
    exact h.saveOutboundPayments _
  | updateOutboundPayment =>
    refine after_of_unchanged h (fun _ s' hx => ?_) fun _ _ hx => updateOutboundPayment_error hx
    obtain ⟨info, -, -, rfl⟩ := updateOutboundPayment_eq_ok_iff.mp hx
    exact h.saveOutboundPayments _
  | updateOutboundPaymentStatus =>
    refine after_of_unchanged h (fun _ s' hx => ?_) fun _ _ hx =>
      updateOutboundPaymentStatus_error hx
    obtain ⟨info, -, rfl⟩ := updateOutboundPaymentStatus_eq_ok_iff.mp hx
    exact h.saveOutboundPayments _
  | failOutboundPendingPayments => exact h.failOutboundPendingPayments _ _ _
  | addChannelId => exact h.saveChannelIdsMap _
  | deleteChannelId order channelId =>
    simp only [Stores.step, deleteChannelId]
    split
    · exact h.saveChannelIdsMap _
    · exact h
  | restart =>
    simp only [Stores.step, h.load_eq]
    exact h

/-- Between any two operations every file is the encoding of its map, and a node
that stops there loads exactly the five maps it had. -/
theorem writeThrough_run (hfs : Written fs) (ops : List (StoreOp ContractId)) :
    (Mealy.final Stores.step (load fs) ops).WriteThrough ∧
      load (Mealy.final Stores.step (load fs) ops).fsStore =
        Mealy.final Stores.step (load fs) ops := by
  have h : (Mealy.final Stores.step (load fs) ops).WriteThrough :=
    Mealy.invariant_final (C := fun _ _ => True) (fun _ op h _ => h.step op)
      hfs.writeThrough_load (Mealy.along_of_forall (fun _ _ => trivial) _)
  exact ⟨h, h.load_eq⟩

/-- A new node has written nothing. -/
theorem written_empty : Written (∅ : HashMap String (Persisted ContractId)) where
  makerSwaps p h := by cases h
  takerSwaps p h := by cases h
  inboundPayments p h := by cases h
  outboundPayments p h := by cases h
  channelIds p h := by cases h

/-- The files of a write-through node hold maps of their kinds. -/
theorem WriteThrough.written (h : s.WriteThrough) : Written s.fsStore := by
  have holds : ∀ {fname} {encoding ofEmpty : Persisted ContractId},
      Mirrors s.fsStore fname encoding ofEmpty → ∀ p, s.fsStore.lookup fname = some p →
        p = encoding := by
    intro fname encoding ofEmpty hm p hp
    obtain hm | ⟨hm, -⟩ := hm
    · exact Option.some.inj (hp.symm.trans hm)
    · rw [hm] at hp
      cases hp
  exact ⟨fun p hp => ⟨_, holds h.makerSwaps p hp⟩, fun p hp => ⟨_, holds h.takerSwaps p hp⟩,
    fun p hp => ⟨_, holds h.inboundPayments p hp⟩, fun p hp => ⟨_, holds h.outboundPayments p hp⟩,
    fun p hp => ⟨_, holds h.channelIds p hp⟩⟩

/-! ### A node that was there before -/

/-- An offer of 1000 msat for 5 of contract 1 that is waiting. -/
def waitingSwap : SwapData ℕ := .createFromSwapInfo ⟨1000, 5, none, some 1, 200⟩ 100

def pendingPayment : PaymentInfo :=
  ⟨none, none, .pending, some 3000000, 100, 100, ⟨Vector.replicate 33 3⟩⟩

/-- The node has offered a swap and knows a temporary channel id. -/
def earlierNode : Stores ℕ :=
  ((load ∅).addMakerSwap ⟨Vector.replicate 32 7⟩ waitingSwap).addChannelId
    ⟨Vector.replicate 32 1⟩ ⟨Vector.replicate 32 2⟩

theorem written_earlierNode : Written earlierNode.fsStore :=
  ((written_empty.writeThrough_load.saveMakerSwaps _).saveChannelIdsMap _).written

/-- Every map is changed, the node stops in between, and changes of one map are
made between those of another. -/
def interleavedOps : List (StoreOp ℕ) :=
  [.addTakerSwap ⟨Vector.replicate 32 8⟩ waitingSwap,
    .updateMakerSwapStatus ⟨Vector.replicate 32 7⟩ .pending 120,
    .addInboundPayment ⟨Vector.replicate 32 5⟩ pendingPayment,
    .restart,
    .addOutboundPayment ⟨Vector.replicate 32 6⟩ pendingPayment,
    .updateTakerSwapStatus ⟨Vector.replicate 32 8⟩ .pending 130,
    .upsertInboundPayment ⟨Vector.replicate 32 5⟩ .succeeded none none (some 3000000)
      ⟨Vector.replicate 33 3⟩ 140,
    .deleteChannelId [⟨Vector.replicate 32 1⟩] ⟨Vector.replicate 32 2⟩,
    .updateMakerSwapStatus ⟨Vector.replicate 32 7⟩ .succeeded 150,
    .restart,
    .failOutboundPendingPayments [⟨Vector.replicate 32 6⟩] [] fun _ => 160]

theorem writeThrough_of_interleavedOps :
    (Mealy.final Stores.step (load earlierNode.fsStore) interleavedOps).WriteThrough ∧
      load (Mealy.final Stores.step (load earlierNode.fsStore) interleavedOps).fsStore =
        Mealy.final Stores.step (load earlierNode.fsStore) interleavedOps :=
  writeThrough_run written_earlierNode _

end Stores

end RgbLightningNode
