import RgbLightningNode.Lib.Mealy
import RgbLightningNode.Runs.TakerEffects

/-!
# The life of an accepted swap

A taker's node over time: requests that accept and list swaps, intercepted
HTLCs, payment events, restarts and the clock. An HTLC is forwarded when its
terms match the stored swap, whatever the swap's status and expiry, so the swap
is executed once and in time exactly when no matching HTLC comes late or second.
-/

namespace RgbLightningNode

open Fallible Node Stores HTLCIntercepted

/-- The swaps a list request has copied and not yet gone through. -/
structure Listing (ContractId : Type) where
  taker : HashMap PaymentHash (SwapData ContractId)
  maker : HashMap PaymentHash (SwapData ContractId)

structure TakerNode (ContractId : Type) where
  node : Node ContractId
  now : Nat
  listings : List (Listing ContractId)

inductive TakerInput (ContractId : Type) where
  | taker (swapstring : String)
  | htlcIntercepted (reply : InterceptReply ContractId) (e : HTLCIntercepted ContractId)
  | payment (ev : PaymentEvent)
  /-- A list or get request copies the swaps. -/
  | copySwaps
  /-- It goes through one of the swaps it has copied. -/
  | mapSwap (listing : Nat) (paymentHash : PaymentHash) (ofTaker : Bool)
  | restart
  | elapse (seconds : Nat)
  /-- The channels and their RGB files change by other means. -/
  | environment (channels : List ChannelDetails) (ldkDataDir : LdkDataDir ContractId)

namespace TakerNode

variable {ContractId : Type}

/-- The copied swap a list request is to go through. -/
def listed (s : TakerNode ContractId) (listing : Nat) (paymentHash : PaymentHash)
    (ofTaker : Bool) : Option (SwapData ContractId) :=
  s.listings[listing]?.bind fun l => (if ofTaker then l.taker else l.maker).lookup paymentHash

variable [DecidableEq ContractId] [ContractIdText ContractId]

/-- One step of the node, and the hashes under which it forwards an HTLC. -/
def step (s : TakerNode ContractId) :
    TakerInput ContractId → List PaymentHash × TakerNode ContractId
  | .taker swapstring =>
    ([], { s with node := after (RgbLightningNode.taker s.now swapstring) s.node })
  | .htlcIntercepted reply e =>
    (((callsMade reply s.now e s.node).filter InterceptCall.isForward).map fun _ => e.paymentHash,
      { s with node := after (HTLCIntercepted.handle reply s.now e) s.node })
  | .payment ev => ([], { s with node := after (ev.handle s.now) s.node })
  | .copySwaps =>
    ([], { s with
      listings := s.listings ++ [⟨s.node.stores.takerSwaps, s.node.stores.makerSwaps⟩] })
  | .mapSwap listing paymentHash ofTaker =>
    match s.listed listing paymentHash ofTaker with
    | none => ([], s)
    | some swapData =>
      ([], { s with
        node := after (onStores (RgbLightningNode.mapSwap s.now paymentHash swapData ofTaker))
          s.node })
  | .restart =>
    ([], { s with
      node := { s.node with stores := Stores.load s.node.stores.fsStore }, listings := [] })
  | .elapse seconds => ([], { s with now := s.now + seconds })
  | .environment channels ldkDataDir =>
    ([], { s with node := { s.node with channels := channels, ldkDataDir := ldkDataDir } })

/-- The stored swap under a hash. -/
def swap? (s : TakerNode ContractId) (paymentHash : PaymentHash) : Option (SwapData ContractId) :=
  s.node.stores.takerSwaps.lookup paymentHash

def Waiting (paymentHash : PaymentHash) (s : TakerNode ContractId) : Prop :=
  ∃ swap, s.swap? paymentHash = some swap ∧ swap.status = .waiting

/-- The input is a request to accept a swap under this hash. -/
def Requests (paymentHash : PaymentHash) : TakerInput ContractId → Prop
  | .taker swapstring => ∃ info : SwapInfo ContractId,
      SwapString.fromStr swapstring = .ok ⟨info, paymentHash⟩
  | _ => False

/-- The input is an HTLC that gets to the whitelist under this hash, or a
forwarded payment that gets to the swaps under this hash. -/
def Touches (paymentHash : PaymentHash) (s : TakerNode ContractId) :
    TakerInput ContractId → Prop
  | .htlcIntercepted reply e => e.paymentHash = paymentHash ∧ ∃ legs, Reaches reply e s.node legs
  | .payment ev => ev.ForwardedUnder paymentHash ∧
      ∃ dir, ev.updateAmounts s.node.ldkDataDir = .ok () dir
  | _ => False

/-- The input is an HTLC under this hash that agrees with the terms in every
field that is compared. -/
def Passes (info : SwapInfo ContractId) (paymentHash : PaymentHash) (s : TakerNode ContractId) :
    TakerInput ContractId → Prop
  | .htlcIntercepted reply e => e.paymentHash = paymentHash ∧
      ∃ legs, Reaches reply e s.node legs ∧ Compared info e legs
  | _ => False

/-- What holds of the node from the moment a swap has been accepted on. -/
structure Accepted (info : SwapInfo ContractId) (paymentHash : PaymentHash)
    (s : TakerNode ContractId) : Prop where
  synced : s.node.stores.TakerSynced
  recorded : ∃ swap, s.swap? paymentHash = some swap ∧ swap.swapInfo = info
  copied : ∀ l ∈ s.listings, ∀ swap, l.taker.lookup paymentHash = some swap →
    swap.swapInfo = info ∧ (swap.status ≠ .waiting → ¬Waiting paymentHash s)

variable {info : SwapInfo ContractId} {paymentHash : PaymentHash} {s : TakerNode ContractId}
  {x : TakerInput ContractId} {xs : List (TakerInput ContractId)}

/-! ### What one step does -/

/-- Unless it accepts a swap under the hash, a step at most moves the swap past
waiting. -/
theorem step_moves (hs : s.node.stores.TakerSynced) (hx : ¬Requests paymentHash x) :
    MovesTaker paymentHash s.node.stores (step s x).2.node.stores := by
  cases x with
  | taker swapstring =>
    rcases after_taker s.now swapstring s.node with h | ⟨req, hp, h⟩ <;> simp only [step, h]
    · exact (KeepsTaker.refl _).moves _
    · refine movesTaker_addTakerSwap _ _ ?_
      rintro rfl
      exact hx ⟨req.swapInfo, hp⟩
  | htlcIntercepted reply e => exact (handle_marksTaker _ _ _ _).moves _
  | payment ev =>
    rcases ev.after_handle_stores s.now s.node with h | ⟨-, h⟩ <;> simp only [step, h]
    · exact (KeepsTaker.refl _).moves _
    · exact (ev.recordOutcome_marksTaker _ _).moves _
  | mapSwap listing other ofTaker =>
    simp only [step]
    split
    · exact (KeepsTaker.refl _).moves _
    · rw [onStores, after_zoom]
      exact (mapSwap_marksTaker _ _ _ _ _).moves _
  | restart => exact ⟨.inl (congrArg _ hs), fun _ => rfl⟩
  | copySwaps | elapse | environment => exact (KeepsTaker.refl _).moves _

omit [DecidableEq ContractId] [ContractIdText ContractId] in
theorem not_waiting_of_moves {s' : TakerNode ContractId}
    (h : MovesTaker paymentHash s.node.stores s'.node.stores) (hw : ¬Waiting paymentHash s) :
    ¬Waiting paymentHash s' := by
  rintro ⟨swap', hl', hst'⟩
  rcases h.lookup with hsame | ⟨swap, status, now, -, hst, hl⟩
  · exact hw ⟨swap', hsame.symm.trans hl', hst'⟩
  · obtain rfl := Option.some.inj (hl.symm.trans hl')
    exact hst (by simpa using hst')

/-- Only copying the swaps adds to the copies. -/
theorem step_listings {l : Listing ContractId} (hl : l ∈ (step s x).2.listings) :
    l ∈ s.listings ∨ l.taker = s.node.stores.takerSwaps := by
  cases x with
  | copySwaps =>
    rcases List.mem_append.mp hl with h | h
    · exact .inl h
    · exact .inr (by rw [List.mem_singleton.mp h])
  | restart => cases hl
  | mapSwap =>
    simp only [step] at hl
    split at hl <;> exact .inl hl
  | taker | htlcIntercepted | payment | elapse | environment => exact .inl hl

theorem Accepted.step (h : Accepted info paymentHash s) (hx : ¬Requests paymentHash x) :
    Accepted info paymentHash (step s x).2 := by
  have hm := step_moves h.synced hx
  -- a copy is either an old one or the stored swap itself
  obtain ⟨swap, hl, hinfo⟩ := h.recorded
  refine ⟨hm.synced h.synced, ?_, fun l hl' swap' hs' => ?_⟩
  · rcases hm.lookup with hsame | ⟨swap', status, now, hl', -, hnew⟩
    · exact ⟨swap, hsame.trans hl, hinfo⟩
    · obtain rfl := Option.some.inj (hl.symm.trans hl')
      exact ⟨_, hnew, by rw [SwapData.withStatus_swapInfo, hinfo]⟩
  · rcases step_listings hl' with hold | hcopy
    · obtain ⟨hi, hw⟩ := h.copied l hold swap' hs'
      exact ⟨hi, fun hne => not_waiting_of_moves hm (hw hne)⟩
    · rw [hcopy] at hs'
      obtain rfl := Option.some.inj (hl.symm.trans hs')
      refine ⟨hinfo, fun hne => not_waiting_of_moves hm ?_⟩
      rintro ⟨swap', hl'', hst⟩
      obtain rfl := Option.some.inj (hl.symm.trans hl'')
      exact hne hst

theorem now_le_step (s : TakerNode ContractId) (x : TakerInput ContractId) :
    s.now ≤ (TakerNode.step s x).2.now := by
  cases x with
  | elapse seconds => exact Nat.le_add_right _ _
  | mapSwap =>
    simp only [TakerNode.step]
    split <;> exact le_rfl
  | taker | htlcIntercepted | payment | copySwaps | restart | environment => exact le_rfl

/-- An input that touches the swap leaves it past waiting. -/
theorem not_waiting_of_touches (h : Accepted info paymentHash s)
    (ht : Touches paymentHash s x) : ¬Waiting paymentHash (TakerNode.step s x).2 := by
  obtain ⟨swap, hl, -⟩ := h.recorded
  rintro ⟨swap', hl', hst⟩
  cases x with
  | htlcIntercepted reply e =>
    obtain ⟨rfl, legs, hr⟩ := ht
    obtain ⟨status, hne, hstores⟩ := handle_stores_of_reaches s.now hr hl
    simp only [TakerNode.step, swap?, hstores, marked] at hl'
    obtain rfl := Option.some.inj ((Finmap.lookup_insert _).symm.trans hl')
    exact hne (by simpa using hst)
  | payment ev =>
    obtain ⟨hev, dir, hd⟩ := ht
    cases ev with
    | paymentClaimed | paymentSent => exact hev
    | paymentForwarded prev next outbound inbound other =>
      obtain rfl : other = paymentHash := hev
      obtain ⟨s₁, hs₁, hu⟩ := PaymentEvent.recordForwarded_of_lookup prev next outbound inbound
        s.now hl
      have hn : (PaymentEvent.paymentForwarded prev next outbound inbound other).handle s.now
          s.node = .ok () { s.node with ldkDataDir := dir, stores := s₁ } :=
        PaymentEvent.handle_eq_ok_iff.mpr ⟨dir, s₁, hd, hs₁, rfl⟩
      simp only [TakerNode.step, swap?, after_of_ok hn, hu] at hl'
      obtain rfl := Option.some.inj hl'
      cases hst
  | taker | copySwaps | mapSwap | restart | elapse | environment => exact ht

/-- A waiting swap stays as it is unless it is touched or its time is over. -/
theorem swap?_step_of_not_touches (h : Accepted info paymentHash s)
    (hx : ¬Requests paymentHash x) (ht : ¬Touches paymentHash s x)
    (hw : Waiting paymentHash s) (hle : s.now ≤ info.expiry) :
    (TakerNode.step s x).2.swap? paymentHash = s.swap? paymentHash := by
  cases x with
  | taker swapstring =>
    rcases after_taker s.now swapstring s.node with hn | ⟨req, hp, hn⟩ <;>
      simp only [TakerNode.step, swap?, hn]
    refine Finmap.lookup_insert_of_ne _ ?_
    rintro rfl
    exact hx ⟨req.swapInfo, hp⟩
  | htlcIntercepted reply e =>
    by_cases hp : paymentHash = e.paymentHash
    · have hno : ¬((∃ legs, Reaches reply e s.node legs) ∧
          (s.node.stores.takerSwaps.lookup e.paymentHash).isSome) := fun hr => ht ⟨hp.symm, hr.1⟩
      simp only [TakerNode.step, swap?, handle_stores_of_not_reaches hno]
    · exact (handle_marksTaker _ _ _ _).lookup_ne hp
  | payment ev =>
    rcases ev.after_handle_stores s.now s.node with hn | ⟨hd, hn⟩ <;>
      simp only [TakerNode.step, swap?, hn]
    by_cases hp : paymentHash = ev.hash
    · refine congrArg _ (PaymentEvent.recordOutcome_keepsTaker s.now _ ?_).takerSwaps
      intro other hev
      cases ev with
      | paymentClaimed | paymentSent => exact hev
      | paymentForwarded => exact ht ⟨hp.symm, hd⟩
    · exact (ev.recordOutcome_marksTaker _ _).lookup_ne hp
  | mapSwap listing other ofTaker =>
    simp only [TakerNode.step]
    rcases hlisted : s.listed listing other ofTaker with _ | swapData
    · rfl
    simp only [swap?, onStores, after_zoom]
    by_cases hp : paymentHash = other
    · subst hp
      cases ofTaker with
      | false => rw [(mapSwap_keepsTaker _ _ _ _).takerSwaps]
      | true =>
        obtain ⟨l, hl, hcopy⟩ := Option.bind_eq_some_iff.mp hlisted
        obtain ⟨hinfo, hst⟩ := h.copied l (List.mem_of_getElem? hl) swapData hcopy
        have hst : swapData.status = .waiting := not_not.mp fun hne => hst hne hw
        rcases after_mapSwap s.now paymentHash swapData true s.node.stores with
          hn | ⟨status, hlist, hne, -⟩
        · rw [hn]
        · have := expiry_lt_of_listedStatus_ne hst hlist hne
          rw [hinfo] at this
          omega
    · exact (mapSwap_marksTaker _ _ _ _ _).lookup_ne hp
  | restart => exact congrArg _ h.synced
  | copySwaps | elapse | environment => rfl

/-! ### Forwards -/

omit [ContractIdText ContractId] in
theorem forwards_of_swapLookup {reply : InterceptReply ContractId}
    {e : HTLCIntercepted ContractId} (h : Accepted info e.paymentHash s) :
    (∃ swap legs, Forwards reply e s.node swap legs) ↔
      ∃ legs, Reaches reply e s.node legs ∧ Compared info e legs := by
  obtain ⟨swap, hl, rfl⟩ := h.recorded
  constructor
  · rintro ⟨swap', legs, hf⟩
    obtain rfl := Option.some.inj (hl.symm.trans hf.listed)
    exact ⟨legs, ⟨hf.answered, hf.found⟩, swapMismatch_eq_false_iff.mp hf.agrees⟩
  · rintro ⟨legs, hr, hc⟩
    exact ⟨swap, legs, hr.1, hr.2, hl, swapMismatch_eq_false_iff.mpr hc⟩

/-- A matching HTLC is forwarded, once. -/
theorem forwards_of_passes (h : Accepted info paymentHash s) (hp : Passes info paymentHash s x) :
    (TakerNode.step s x).1 = [paymentHash] := by
  cases x with
  | htlcIntercepted reply e =>
    obtain ⟨rfl, hp⟩ := hp
    obtain ⟨swap, legs, hf⟩ := (forwards_of_swapLookup h).mpr hp
    have hbefore : e.callsBefore.filter InterceptCall.isForward = [] :=
      List.filter_eq_nil_iff.mpr fun call hc => by simp [callsBefore_not_forward e call hc]
    simp only [TakerNode.step, callsMade_of_forwards hf, List.filter_append, hbefore]
    rfl
  | taker | payment | copySwaps | mapSwap | restart | elapse | environment => exact hp.elim

/-- Where no HTLC of the hash is forwarded, the step forwards nothing under it. -/
theorem not_mem_of_not_forwards
    (h : ∀ reply e, x = .htlcIntercepted reply e → e.paymentHash = paymentHash →
      ∀ swap legs, ¬Forwards reply e s.node swap legs) :
    paymentHash ∉ (TakerNode.step s x).1 := by
  cases x with
  | htlcIntercepted reply e =>
    intro hm
    obtain ⟨call, hcall, hhash⟩ := List.mem_map.mp hm
    obtain ⟨hmade, hforward⟩ := List.mem_filter.mp hcall
    have hnot : call.isForward = false := callsMade_of_not_forwards (h reply e rfl hhash) call hmade
    rw [hnot] at hforward
    cases hforward
  | mapSwap =>
    simp only [TakerNode.step]
    split <;> exact List.not_mem_nil
  | taker | payment | copySwaps | restart | elapse | environment => exact List.not_mem_nil

theorem not_mem_of_not_passes (h : Accepted info paymentHash s)
    (hp : ¬Passes info paymentHash s x) : paymentHash ∉ (TakerNode.step s x).1 := by
  refine not_mem_of_not_forwards fun reply e hx hhash swap legs hf => ?_
  subst hx hhash
  exact hp ⟨rfl, (forwards_of_swapLookup h).mp ⟨swap, legs, hf⟩⟩

omit [DecidableEq ContractId] [ContractIdText ContractId] in
theorem Passes.touches (hp : Passes info paymentHash s x) : Touches paymentHash s x := by
  cases x with
  | htlcIntercepted reply e =>
    obtain ⟨he, legs, hr, -⟩ := hp
    exact ⟨he, legs, hr⟩
  | taker | payment | copySwaps | mapSwap | restart | elapse | environment => exact hp.elim

/-! ### Whole runs -/

/-- A step forwards nothing under the hash unless the stored swap waits and is
in time. -/
def ForwardsLive (paymentHash : PaymentHash) (s : TakerNode ContractId)
    (x : TakerInput ContractId) : Prop :=
  paymentHash ∈ (TakerNode.step s x).1 → ∃ swap, s.swap? paymentHash = some swap ∧
    swap.status = .waiting ∧ s.now ≤ swap.swapInfo.expiry

/-- How many HTLCs a run forwards under the hash. -/
def forwardCount (paymentHash : PaymentHash) (s : TakerNode ContractId)
    (xs : List (TakerInput ContractId)) : Nat :=
  (Mealy.outputs TakerNode.step s xs).flatten.count paymentHash

/-- The swap is executed at most once, and only while it is live. -/
def OnceWhileLive (paymentHash : PaymentHash) (s : TakerNode ContractId)
    (xs : List (TakerInput ContractId)) : Prop :=
  forwardCount paymentHash s xs ≤ 1 ∧ Mealy.Along TakerNode.step (ForwardsLive paymentHash) s xs

/-- No step of the run is a matching HTLC. -/
def NonePasses (info : SwapInfo ContractId) (paymentHash : PaymentHash)
    (s : TakerNode ContractId) (xs : List (TakerInput ContractId)) : Prop :=
  Mealy.Along TakerNode.step (fun s x => ¬Passes info paymentHash s x) s xs

/-- Matching HTLCs come by the expiry, and none comes after an HTLC has reached
the swap or a payment has been forwarded under its hash. -/
structure FirstAndInTime (info : SwapInfo ContractId) (paymentHash : PaymentHash)
    (s : TakerNode ContractId) (xs : List (TakerInput ContractId)) : Prop where
  inTime : Mealy.Along TakerNode.step
    (fun s x => Passes info paymentHash s x → s.now ≤ info.expiry) s xs
  first : ∀ pre x post, xs = pre ++ x :: post →
    Touches paymentHash (Mealy.final TakerNode.step s pre) x →
      NonePasses info paymentHash (TakerNode.step (Mealy.final TakerNode.step s pre) x).2 post

theorem forwardCount_cons (paymentHash : PaymentHash) (s : TakerNode ContractId)
    (x : TakerInput ContractId) (xs : List (TakerInput ContractId)) :
    forwardCount paymentHash s (x :: xs) =
      (TakerNode.step s x).1.count paymentHash +
        forwardCount paymentHash (TakerNode.step s x).2 xs := by
  rw [forwardCount, Mealy.outputs, Mealy.run_cons, List.flatten_cons, List.count_append]
  rfl

/-- A run without a matching HTLC forwards nothing under the hash. -/
theorem none_forwarded (h : Accepted info paymentHash s) (hx : ∀ x ∈ xs, ¬Requests paymentHash x)
    (hn : NonePasses info paymentHash s xs) :
    forwardCount paymentHash s xs = 0 ∧
      Mealy.Along TakerNode.step (ForwardsLive paymentHash) s xs := by
  induction xs generalizing s with
  | nil => exact ⟨rfl, trivial⟩
  | cons x xs ih =>
    obtain ⟨hx₀, hxs⟩ := List.forall_mem_cons.mp hx
    have hnot := not_mem_of_not_passes h hn.1
    obtain ⟨hcount, halong⟩ := ih (h.step hx₀) hxs hn.2
    refine ⟨?_, fun hm => absurd hm hnot, halong⟩
    rw [forwardCount_cons, List.count_eq_zero_of_not_mem hnot, hcount]

/-- Once the time is over, HTLCs in time are none. -/
theorem nonePasses_of_expired (hlt : info.expiry < s.now)
    (hin : Mealy.Along TakerNode.step
      (fun s x => Passes info paymentHash s x → s.now ≤ info.expiry) s xs) :
    NonePasses info paymentHash s xs := by
  induction xs generalizing s with
  | nil => trivial
  | cons x xs ih =>
    refine ⟨fun hp => ?_, ih (hlt.trans_le (now_le_step s x)) hin.2⟩
    have := hin.1 hp
    omega

theorem FirstAndInTime.tail (h : FirstAndInTime info paymentHash s (x :: xs)) :
    FirstAndInTime info paymentHash (TakerNode.step s x).2 xs :=
  ⟨h.inTime.2, fun pre y post hxs ht => h.first (x :: pre) y post (by rw [hxs]; rfl) ht⟩

/-- While the swap waits, a run whose matching HTLCs are first and in time
executes it once at most, and live. -/
theorem onceWhileLive_of_first (h : Accepted info paymentHash s) (hw : Waiting paymentHash s)
    (hx : ∀ x ∈ xs, ¬Requests paymentHash x) (hf : FirstAndInTime info paymentHash s xs) :
    OnceWhileLive paymentHash s xs := by
  induction xs generalizing s with
  | nil => exact ⟨Nat.zero_le 1, trivial⟩
  | cons x xs ih =>
    obtain ⟨hx₀, hxs⟩ := List.forall_mem_cons.mp hx
    have h' := h.step hx₀
    by_cases hp : Passes info paymentHash s x
    · -- the forward itself: the swap waits now, and no later HTLC may match
      obtain ⟨swap, hl, hst⟩ := hw
      obtain ⟨swap', hl', hinfo⟩ := h.recorded
      obtain rfl := Option.some.inj (hl.symm.trans hl')
      obtain ⟨hcount, halong⟩ := none_forwarded h' hxs (hf.first [] x xs rfl hp.touches)
      refine ⟨?_, fun _ => ⟨swap, hl, hst, hinfo ▸ hf.inTime.1 hp⟩, halong⟩
      rw [forwardCount_cons, forwards_of_passes h hp, hcount]
      simp
    have hnot := not_mem_of_not_passes h hp
    have hzero : (TakerNode.step s x).1.count paymentHash = 0 :=
      List.count_eq_zero_of_not_mem hnot
    by_cases hw' : Waiting paymentHash (TakerNode.step s x).2
    · obtain ⟨hcount, halong⟩ := ih h' hw' hxs hf.tail
      refine ⟨?_, fun hm => absurd hm hnot, halong⟩
      rw [forwardCount_cons, hzero, Nat.zero_add]
      exact hcount
    · have hnone : NonePasses info paymentHash (TakerNode.step s x).2 xs := by
        by_cases ht : Touches paymentHash s x
        · exact hf.first [] x xs rfl ht
        · refine nonePasses_of_expired (lt_of_not_ge fun hle => hw' ?_) hf.inTime.2
          have hle := (now_le_step s x).trans hle
          rwa [Waiting, swap?_step_of_not_touches h hx₀ ht hw hle]
      obtain ⟨hcount, halong⟩ := none_forwarded h' hxs hnone
      refine ⟨?_, fun hm => absurd hm hnot, halong⟩
      rw [forwardCount_cons, hzero, hcount]
      exact Nat.zero_le 1

/-- A run that executes the swap only while it is live has its matching HTLCs first and in
time. -/
theorem first_of_forwardsLive (h : Accepted info paymentHash s)
    (hx : ∀ x ∈ xs, ¬Requests paymentHash x)
    (hlive : Mealy.Along TakerNode.step (ForwardsLive paymentHash) s xs) :
    FirstAndInTime info paymentHash s xs := by
  constructor
  · refine Mealy.along_of_invariant (I := Accepted info paymentHash)
      (C := fun s x => ForwardsLive paymentHash s x ∧ ¬Requests paymentHash x)
      (fun s x h hc => h.step hc.2) (fun s x h hc hp => ?_) h
      (Mealy.along_and.mpr ⟨hlive, Mealy.along_of_forall hx s⟩)
    obtain ⟨swap, hl, -, hle⟩ := hc.1 (by rw [forwards_of_passes h hp]; simp)
    obtain ⟨swap', hl', rfl⟩ := h.recorded
    obtain rfl := Option.some.inj (hl.symm.trans hl')
    exact hle
  · rintro pre x post rfl ht
    obtain ⟨-, -, hpost⟩ := (Mealy.along_append _ _ _ _).mp hlive
    have hpre : Accepted info paymentHash (Mealy.final TakerNode.step s pre) :=
      Mealy.invariant_final (fun s x h hc => h.step hc) h
        (Mealy.along_of_forall (fun y hy => hx y (by simp [hy])) s)
    -- behind the touching step the swap waits no more, and a live forward needs it to
    refine Mealy.along_of_invariant
      (I := fun s => Accepted info paymentHash s ∧ ¬Waiting paymentHash s)
      (C := fun s x => ForwardsLive paymentHash s x ∧ ¬Requests paymentHash x)
      (fun s x h hc => ⟨h.1.step hc.2, not_waiting_of_moves (step_moves h.1.synced hc.2) h.2⟩)
      (fun s x h hc hp => ?_)
      ⟨hpre.step (hx x (by simp)), not_waiting_of_touches hpre ht⟩
      (Mealy.along_and.mpr ⟨hpost, Mealy.along_of_forall (fun y hy => hx y (by simp [hy])) _⟩)
    obtain ⟨swap, hl, hst, -⟩ := hc.1 (by rw [forwards_of_passes h.1 hp]; simp)
    exact h.2 ⟨swap, hl, hst⟩

/-! ### From before the request on -/

/-- Nothing is known of the hash yet. -/
structure Fresh (paymentHash : PaymentHash) (s : TakerNode ContractId) : Prop where
  synced : s.node.stores.TakerSynced
  unknown : s.swap? paymentHash = none
  copied : ∀ l ∈ s.listings, l.taker.lookup paymentHash = none

theorem Fresh.step (h : Fresh paymentHash s) (hx : ¬Requests paymentHash x) :
    Fresh paymentHash (TakerNode.step s x).2 := by
  have hm := step_moves h.synced hx
  refine ⟨hm.synced h.synced, ?_, fun l hl => ?_⟩
  · rcases hm.lookup with hsame | ⟨swap, -, -, hl, -⟩
    · exact hsame.trans h.unknown
    · exact absurd (h.unknown.symm.trans hl) (by simp)
  · rcases step_listings hl with hold | hcopy
    · exact h.copied l hold
    · rw [hcopy]
      exact h.unknown

/-- Without an accepted swap nothing is forwarded. -/
theorem Fresh.not_mem (h : Fresh paymentHash s) : paymentHash ∉ (TakerNode.step s x).1 := by
  refine not_mem_of_not_forwards fun reply e _ hhash swap legs hf => ?_
  subst hhash
  cases h.unknown.symm.trans hf.listed

theorem Fresh.onceWhileLive_cons (h : Fresh paymentHash s) :
    OnceWhileLive paymentHash s (x :: xs) ↔
      OnceWhileLive paymentHash (TakerNode.step s x).2 xs := by
  rw [OnceWhileLive, forwardCount_cons, List.count_eq_zero_of_not_mem h.not_mem, Nat.zero_add,
    Mealy.along_cons]
  exact and_congr_right fun _ => ⟨And.right, fun hrest => ⟨fun hm => absurd hm h.not_mem, hrest⟩⟩

/-- A run from a fresh state without a request: the state stays fresh, and what
follows decides whether the swap is executed once and live. -/
theorem Fresh.onceWhileLive_append {pre : List (TakerInput ContractId)}
    (h : Fresh paymentHash s) (xs : List (TakerInput ContractId))
    (hpre : ∀ x ∈ pre, ¬Requests paymentHash x) :
    Fresh paymentHash (Mealy.final TakerNode.step s pre) ∧
      (OnceWhileLive paymentHash s (pre ++ xs) ↔
        OnceWhileLive paymentHash (Mealy.final TakerNode.step s pre) xs) := by
  induction pre generalizing s with
  | nil => exact ⟨h, Iff.rfl⟩
  | cons x pre ih =>
    obtain ⟨hx, hpre⟩ := List.forall_mem_cons.mp hpre
    obtain ⟨hfresh, hiff⟩ := ih (h.step hx) hpre
    refine ⟨hfresh, Iff.trans ?_ hiff⟩
    exact h.onceWhileLive_cons

/-- What a request for these terms needs to be accepted. -/
def Accepts (info : SwapInfo ContractId) (s : TakerNode ContractId) : Prop :=
  s.now ≤ info.expiry ∧ checkFromAsset info s.node = .ok ()

theorem accepted_of_accepts {swapstring : String} (h : Fresh paymentHash s)
    (hp : SwapString.fromStr swapstring = .ok ⟨info, paymentHash⟩) (ha : Accepts info s) :
    Accepted info paymentHash (TakerNode.step s (.taker swapstring)).2 ∧
      Waiting paymentHash (TakerNode.step s (.taker swapstring)).2 := by
  have hn := after_taker_of_accepts (n := s.node) hp ha.1 ha.2
  have hl : (TakerNode.step s (.taker swapstring)).2.swap? paymentHash =
      some (SwapData.createFromSwapInfo info s.now) := by
    simp only [TakerNode.step, swap?, hn]
    exact Finmap.lookup_insert _
  refine ⟨⟨?_, ⟨_, hl, rfl⟩, fun l hmem swap hs => ?_⟩, _, hl, rfl⟩
  · simp only [TakerNode.step, hn]
    exact saveTakerSwaps_synced _ _
  · exact absurd ((h.copied l hmem).symm.trans hs) (by simp)

/-- One accepted swap is executed at most once and only while it is live, if and
only if its matching HTLCs are first and in time. -/
theorem onceWhileLive_iff {swapstring : String} {pre : List (TakerInput ContractId)}
    (h : Fresh paymentHash s) (hp : SwapString.fromStr swapstring = .ok ⟨info, paymentHash⟩)
    (hpre : ∀ x ∈ pre, ¬Requests paymentHash x) (hxs : ∀ x ∈ xs, ¬Requests paymentHash x) :
    OnceWhileLive paymentHash s (pre ++ .taker swapstring :: xs) ↔
      (Accepts info (Mealy.final TakerNode.step s pre) →
        FirstAndInTime info paymentHash
          (TakerNode.step (Mealy.final TakerNode.step s pre) (.taker swapstring)).2 xs) := by
  obtain ⟨hfresh, hiff⟩ := h.onceWhileLive_append (.taker swapstring :: xs) hpre
  rw [hiff]
  -- only the state before the request matters from here on
  generalize Mealy.final TakerNode.step s pre = s₀ at hfresh
  rw [hfresh.onceWhileLive_cons]
  by_cases ha : Accepts info s₀
  · obtain ⟨hacc, hw⟩ := accepted_of_accepts hfresh hp ha
    exact ⟨fun ho _ => first_of_forwardsLive hacc hxs ho.2,
      fun hf => onceWhileLive_of_first hacc hw hxs (hf ha)⟩
  · have hsame : (TakerNode.step s₀ (.taker swapstring)).2 = s₀ := by
      simp only [TakerNode.step, after_taker_of_refused hp ha]
    refine ⟨fun _ hacc => absurd hacc ha, fun _ => ?_⟩
    rw [hsame]
    have := (hfresh.onceWhileLive_append [] hxs).2
    rw [List.append_nil] at this
    exact this.mpr ⟨Nat.zero_le 1, trivial⟩

/-! ### The same HTLC twice -/

/-- A taker that has accepted nothing yet, at time 100. -/
def freshTaker : TakerNode ℕ := ⟨{ drainedTaker with stores := Stores.load ∅ }, 100, []⟩

/-- 1000 msat against 5 of contract 1, until 200. -/
def offer : SwapString ℕ := ⟨⟨1000, 5, none, some 1, 200⟩, ⟨Vector.replicate 32 7⟩⟩

/-- An HTLC with exactly these terms. -/
def matchingHtlc : TakerInput ℕ :=
  .htlcIntercepted (fun _ _ => true) ⟨true, ⟨Vector.replicate 32 7⟩, ⟨Vector.replicate 32 9⟩,
    3000000, 3001000, some 5, none, 2, 1⟩

theorem freshTaker_fresh : Fresh offer.paymentHash freshTaker :=
  ⟨rfl, rfl, fun l hl => by cases hl⟩

theorem offer_parses : SwapString.fromStr offer.display = .ok offer := by
  decide +kernel

/-- The rule for a run with two matching HTLCs. -/
theorem onceWhileLive_of_two_htlcs :
    OnceWhileLive offer.paymentHash freshTaker
        ([] ++ .taker offer.display :: [matchingHtlc, matchingHtlc]) ↔
      (Accepts offer.swapInfo freshTaker →
        FirstAndInTime offer.swapInfo offer.paymentHash
          (TakerNode.step freshTaker (.taker offer.display)).2 [matchingHtlc, matchingHtlc]) :=
  onceWhileLive_iff freshTaker_fresh offer_parses (by simp) (by simp [matchingHtlc, Requests])

/-- Both HTLCs are forwarded under the one accepted swap. -/
theorem accepted_swap_executed_twice :
    ¬∀ (paymentHash : PaymentHash) (info : SwapInfo ℕ) (s : TakerNode ℕ) (swapstring : String)
      (pre xs : List (TakerInput ℕ)), Fresh paymentHash s →
      SwapString.fromStr swapstring = .ok ⟨info, paymentHash⟩ →
      (∀ x ∈ pre, ¬Requests paymentHash x) → (∀ x ∈ xs, ¬Requests paymentHash x) →
      OnceWhileLive paymentHash s (pre ++ .taker swapstring :: xs) := by
  intro hall
  have honce := hall offer.paymentHash offer.swapInfo freshTaker offer.display []
    [matchingHtlc, matchingHtlc] freshTaker_fresh offer_parses (by simp)
    (by simp [matchingHtlc, Requests])
  have htwo : forwardCount offer.paymentHash freshTaker
      (.taker offer.display :: [matchingHtlc, matchingHtlc]) = 2 := by
    decide +kernel
  have hone := honce.1
  rw [List.nil_append, htwo] at hone
  omega

end TakerNode

end RgbLightningNode
