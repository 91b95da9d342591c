import RgbLightningNode.Runs.SwapListing

/-!
# Readings of the swaps

To list a swap or to get one may store a new status for it: a read-only request
writes here. But no reading changes what a later one shows. Whatever has been read
before, a swap is shown with the terms it was recorded with and the status they
give at the time, and only the time of its completion is one of the readings.
-/

namespace RgbLightningNode

open Fallible

variable {ContractId : Type}

/-- A listed swap without the time of its completion. -/
def ListedSwap.terms (swap : ListedSwap) : ListedSwap := { swap with completedAt := none }

namespace SwapData

/-- The two are listed alike at this time, but for the time of completion. -/
structure ReadsAs (now : Nat) (old new : SwapData ContractId) : Prop where
  swapInfo : new.swapInfo = old.swapInfo
  requestedAt : new.requestedAt = old.requestedAt
  initiatedAt : new.initiatedAt = old.initiatedAt
  listed : listedStatus now new = listedStatus now old

variable {now : Nat} {old mid new : SwapData ContractId}

theorem ReadsAs.refl (now : Nat) (swap : SwapData ContractId) : ReadsAs now swap swap :=
  ⟨rfl, rfl, rfl, rfl⟩

theorem ReadsAs.trans (h : ReadsAs now old mid) (h' : ReadsAs now mid new) :
    ReadsAs now old new :=
  ⟨h'.swapInfo.trans h.swapInfo, h'.requestedAt.trans h.requestedAt,
    h'.initiatedAt.trans h.initiatedAt, h'.listed.trans h.listed⟩

theorem started_iff (now : Nat) (swap : SwapData ContractId) :
    swap.Started ↔ ∃ status, listedStatus now swap = .ok status := by
  constructor
  · intro hstarted
    by_cases hdue : swap.Due now
    · obtain ⟨status, hstatus, -⟩ := listedStatus_of_due hdue
      exact ⟨status, hstatus⟩
    · exact ⟨_, listedStatus_of_not_due hdue hstarted⟩
  · rintro ⟨status, hstatus⟩
    by_contra hnot
    rw [listedStatus_of_not_started hnot] at hstatus
    cases hstatus

/-- A due swap is listed under the same status at any later time. -/
theorem listedStatus_of_due_before {t : Nat} (ht : t ≤ now) {status : SwapStatus}
    (hstatus : listedStatus t old = .ok status) (hne : status ≠ old.status) :
    listedStatus now old = .ok status ∧ (status = .expired ∨ status = .failed) := by
  by_cases hdue : old.Due t
  swap
  · by_cases hstarted : old.Started
    · rw [listedStatus_of_not_due hdue hstarted] at hstatus
      exact absurd (Except.ok.inj hstatus).symm hne
    · rw [listedStatus_of_not_started hstarted] at hstatus
      cases hstatus
  obtain ⟨hwaiting, hexpired⟩ | ⟨hpending, initiatedAt, hinit, hlate⟩ := hdue
  · have hlater : old.swapInfo.expiry < now := Nat.lt_of_lt_of_le hexpired ht
    simp only [listedStatus, hwaiting, hexpired, gt_iff_lt, true_and, if_true] at hstatus
    obtain rfl := Except.ok.inj hstatus
    exact ⟨by simp [listedStatus, hwaiting, hlater], .inl rfl⟩
  · have hlater : initiatedAt + 86400 < now := Nat.lt_of_lt_of_le hlate ht
    simp [listedStatus, hpending, hinit, hlate] at hstatus
    obtain rfl := hstatus
    exact ⟨by simp [listedStatus, hpending, hinit, hlater], .inr rfl⟩

/-- What a reading stores reads as the copy it was decided on. -/
theorem ReadsAs.withStatus (h : ReadsAs now old new) {t : Nat} (ht : t ≤ now)
    {status : SwapStatus} (hstatus : listedStatus t old = .ok status)
    (hne : status ≠ old.status) : ReadsAs now old (new.withStatus status t) := by
  obtain ⟨hlisted, rfl | rfl⟩ := listedStatus_of_due_before ht hstatus hne
  · exact ⟨h.swapInfo, h.requestedAt, h.initiatedAt, hlisted.symm ▸ rfl⟩
  · exact ⟨h.swapInfo, h.requestedAt, h.initiatedAt, hlisted.symm ▸ rfl⟩

end SwapData

namespace Stores

/-- Every swap of the one reads as the swap of the other, and no other is there. -/
def ReadsAs (now : Nat) (s s' : Stores ContractId) : Prop :=
  ∀ ofTaker paymentHash, Option.Rel (SwapData.ReadsAs now) (s.swap? ofTaker paymentHash)
    (s'.swap? ofTaker paymentHash)

variable {now t : Nat} {s s' s'' : Stores ContractId}

theorem ReadsAs.of_keepsSwaps (h : s.KeepsSwaps s') : s.ReadsAs now s' := by
  intro b k
  rw [h b k]
  cases s.swap? b k with
  | none => exact .none
  | some swap => exact .some (.refl now swap)

theorem ReadsAs.trans (h : s.ReadsAs now s') (h' : s'.ReadsAs now s'') : s.ReadsAs now s'' := by
  intro b k
  have h := h b k
  have h' := h' b k
  generalize s.swap? b k = x, s'.swap? b k = y, s''.swap? b k = z at h h'
  cases h with
  | none =>
    cases h'
    exact .none
  | some hr =>
    cases h' with
    | some hr' => exact .some (hr.trans hr')

theorem ReadsAs.swap? (h : s.ReadsAs now s') {ofTaker : Bool} {paymentHash : PaymentHash}
    {swap : SwapData ContractId} (hl : s.swap? ofTaker paymentHash = some swap) :
    ∃ swap', s'.swap? ofTaker paymentHash = some swap' ∧ SwapData.ReadsAs now swap swap' := by
  have hrel := h ofTaker paymentHash
  rw [hl] at hrel
  generalize s'.swap? ofTaker paymentHash = y at hrel
  cases hrel with
  | some hr => exact ⟨_, rfl, hr⟩

theorem ReadsAs.swap?_none (h : s.ReadsAs now s') {ofTaker : Bool} {paymentHash : PaymentHash}
    (hl : s.swap? ofTaker paymentHash = none) : s'.swap? ofTaker paymentHash = none := by
  have hrel := h ofTaker paymentHash
  rw [hl] at hrel
  generalize s'.swap? ofTaker paymentHash = y at hrel
  cases hrel
  rfl

/-- Listing a swap that was copied out of `s` changes nothing that is read later. -/
theorem ReadsAs.mapSwap (h : s.ReadsAs now s') (ht : t ≤ now) {ofTaker : Bool}
    {paymentHash : PaymentHash} {copy : SwapData ContractId}
    (hcopy : s.swap? ofTaker paymentHash = some copy) :
    s.ReadsAs now (after (mapSwap t paymentHash copy ofTaker) s') := by
  have hchange := changesBy_mapSwap t paymentHash copy ofTaker s'
  rw [listedWrite] at hchange
  cases hstatus : listedStatus t copy with
  | error e =>
    rw [hstatus] at hchange
    exact h.trans (.of_keepsSwaps hchange)
  | ok status =>
    rw [hstatus] at hchange
    by_cases hne : status = copy.status
    · simp only [if_pos hne] at hchange
      exact h.trans (.of_keepsSwaps hchange)
    simp only [if_neg hne] at hchange
    intro b k
    by_cases hbk : b = ofTaker ∧ k = paymentHash
    · obtain ⟨rfl, rfl⟩ := hbk
      obtain ⟨swap', hl, hreads⟩ := h.swap? hcopy
      have hnew := hchange.here
      rw [Stored, if_neg (listedStatus_ne_waiting hstatus hne)] at hnew
      rw [hcopy, hnew, hl]
      exact .some (hreads.withStatus ht hstatus hne)
    · rw [hchange.other b k hbk]
      exact h b k

theorem ReadsAs.listSwapsOf (h : s.ReadsAs now s') (ht : t ≤ now) {ofTaker : Bool}
    {copies : List (PaymentHash × SwapData ContractId)} [ContractIdText ContractId]
    (hcopies : CopiedFrom s ofTaker copies) :
    s.ReadsAs now (after (listSwapsOf t ofTaker copies) s') := by
  induction copies generalizing s' with
  | nil => exact h
  | cons copy copies ih =>
    obtain ⟨hcopy, hcopies⟩ := List.forall_mem_cons.mp hcopies
    obtain hfirst | hrest := after_listSwapsOf_cons t ofTaker copy.1 copy.2 copies s'
    · rw [hfirst]
      exact h.mapSwap ht hcopy
    · rw [hrest]
      exact ih (h.mapSwap ht hcopy) hcopies

theorem ReadsAs.listSides (h : s.ReadsAs now s') (ht : t ≤ now) [ContractIdText ContractId]
    {taker maker : List (PaymentHash × SwapData ContractId)} (htaker : CopiedFrom s true taker)
    (hmaker : CopiedFrom s false maker) : s.ReadsAs now (after (listSides t taker maker) s') := by
  have hfirst := h.listSwapsOf ht htaker
  cases hlist : RgbLightningNode.listSwapsOf t true taker s' with
  | error e s'' =>
    rw [after_of_error hlist] at hfirst
    rwa [RgbLightningNode.listSides, after_bind_of_error hlist]
  | ok shown s'' =>
    rw [after_of_ok hlist] at hfirst
    rw [RgbLightningNode.listSides, after_bind_of_ok hlist, after_bind_of_keeps fun _ => .pure _]
    exact hfirst.listSwapsOf ht hmaker

theorem ReadsAs.isSome (h : s.ReadsAs now s') {ofTaker : Bool} {paymentHash : PaymentHash}
    (hs : (s.swap? ofTaker paymentHash).isSome) : (s'.swap? ofTaker paymentHash).isSome := by
  obtain ⟨swap, hswap⟩ := Option.isSome_iff_exists.mp hs
  obtain ⟨swap', hswap', -⟩ := h.swap? hswap
  exact Option.isSome_iff_exists.mpr ⟨swap', hswap'⟩

end Stores

/-! ### What a listing shows -/

section Shown

variable [ContractIdText ContractId] {now : Nat} {ofTaker : Bool} {s s' : Stores ContractId}
  {copies taker maker : List (PaymentHash × SwapData ContractId)}

/-- A copied swap as it is listed at this time. -/
def shownSwap (now : Nat) (copy : PaymentHash × SwapData ContractId) :
    Except (Exit APIError) ListedSwap :=
  (listedStatus now copy.2).map (copy.2.listed copy.1)

/-- Listing a swap shows the copy, whatever has become of the swap it was copied from. -/
theorem outcome_listSwap {paymentHash : PaymentHash} {swap : SwapData ContractId}
    (hs : (s.swap? ofTaker paymentHash).isSome) :
    (outcome (listSwap now ofTaker paymentHash swap) s).1 = shownSwap now (paymentHash, swap) := by
  by_cases hstarted : swap.Started
  · obtain ⟨u, hmap⟩ := Stores.mapSwap_of_started hstarted now hs
    obtain ⟨status, hstatus⟩ := (SwapData.started_iff now swap).mp hstarted
    rw [listSwap, outcome_bind_of_ok hmap, hstatus, outcome_bind_of_ok (attempt_ok _ u), shownSwap,
      hstatus]
    rfl
  · have hpanic : listSwap now ofTaker paymentHash swap s = .error (.panic none unwrapNone) s :=
      Stores.listSwap_of_not_started hstarted
    rw [outcome, hpanic, shownSwap, SwapData.listedStatus_of_not_started hstarted]
    rfl

/-- Listing copied swaps shows the copies, whatever has been read since. -/
theorem outcome_listSwapsOf (h : s.ReadsAs now s') (hcopies : Stores.CopiedFrom s ofTaker copies) :
    (outcome (listSwapsOf now ofTaker copies) s').1 = copies.mapM (shownSwap now) := by
  induction copies generalizing s' with
  | nil => rfl
  | cons copy copies ih =>
    obtain ⟨hcopy, hcopies⟩ := List.forall_mem_cons.mp hcopies
    have hthere : (s'.swap? ofTaker copy.1).isSome := h.isSome (by rw [hcopy]; rfl)
    have hreads : s.ReadsAs now (after (listSwap now ofTaker copy.1 copy.2) s') := by
      rw [Stores.after_listSwap]
      exact h.mapSwap le_rfl hcopy
    rw [listSwapsOf, outcome_bind, outcome_listSwap hthere, List.mapM_cons]
    refine congrArg (shownSwap now copy >>= ·) (funext fun shown => ?_)
    rw [outcome_bind, ih hreads hcopies]
    rfl

theorem outcome_listSides (htaker : Stores.CopiedFrom s true taker)
    (hmaker : Stores.CopiedFrom s false maker) :
    (outcome (listSides now taker maker) s).1 = do
      let taker ← taker.mapM (shownSwap now)
      let maker ← maker.mapM (shownSwap now)
      return (taker, maker) := by
  have hrefl : s.ReadsAs now s := .of_keepsSwaps (.refl _)
  rw [listSides, outcome_bind, outcome_listSwapsOf hrefl htaker]
  refine congrArg (List.mapM (shownSwap now) taker >>= ·) (funext fun shown => ?_)
  rw [outcome_bind, outcome_listSwapsOf (hrefl.listSwapsOf le_rfl htaker) hmaker]
  rfl

/-! Of two copies that read alike the same is shown. -/

/-- What is shown of a copied swap apart from the time of its completion. -/
def shownTerms (now : Nat) (copy : PaymentHash × SwapData ContractId) :
    Except (Exit APIError) ListedSwap :=
  (shownSwap now copy).map ListedSwap.terms

theorem shownTerms_alike {swap swap' : SwapData ContractId} (h : SwapData.ReadsAs now swap swap')
    (paymentHash : PaymentHash) :
    shownTerms now (paymentHash, swap) = shownTerms now (paymentHash, swap') := by
  rw [shownTerms, shownTerms, shownSwap, shownSwap, h.listed]
  cases listedStatus now swap with
  | error e => rfl
  | ok status =>
    simp only [Except.map, SwapData.listed, ListedSwap.terms, h.swapInfo, h.requestedAt,
      h.initiatedAt]

theorem forall₂_iterate (h : s.ReadsAs now s') (ofTaker : Bool) (order : List PaymentHash) :
    List.Forall₂ (fun copy copy' => shownTerms now copy = shownTerms now copy')
      (iterate (if ofTaker then s.takerSwaps else s.makerSwaps) order)
      (iterate (if ofTaker then s'.takerSwaps else s'.makerSwaps) order) := by
  induction order with
  | nil => exact .nil
  | cons paymentHash order ih =>
    have hrel : Option.Rel (SwapData.ReadsAs now)
        ((if ofTaker then s.takerSwaps else s.makerSwaps).lookup paymentHash)
        ((if ofTaker then s'.takerSwaps else s'.makerSwaps).lookup paymentHash) :=
      h ofTaker paymentHash
    simp only [iterate, List.filterMap_cons]
    generalize (if ofTaker then s.takerSwaps else s.makerSwaps).lookup paymentHash = swap,
      (if ofTaker then s'.takerSwaps else s'.makerSwaps).lookup paymentHash = swap' at hrel
    cases hrel with
    | none => exact ih
    | some hreads => exact .cons (shownTerms_alike hreads paymentHash) ih

/-- A listing of stores that read alike shows the same terms, or panics at the same swap. -/
theorem mapM_shownSwap_alike (h : s.ReadsAs now s') (ofTaker : Bool) (order : List PaymentHash) :
    ((iterate (if ofTaker then s.takerSwaps else s.makerSwaps) order).mapM (shownSwap now)).map
        (List.map ListedSwap.terms) =
      ((iterate (if ofTaker then s'.takerSwaps else s'.makerSwaps) order).mapM
        (shownSwap now)).map (List.map ListedSwap.terms) := by
  rw [map_mapM, map_mapM]
  exact mapM_congr_of_forall₂ (forall₂_iterate h ofTaker order)

end Shown

/-! ### Requests -/

/-- A request for a read-only operation, at a time. -/
structure Reading (ContractId Answer Wallet : Type) where
  env : ReadEnv ContractId Answer Wallet
  time : Nat
  req : ReadRequest

/-- A reply without the times of completion. -/
def ReadReply.terms {Answer : Type} : ReadReply Answer → ReadReply Answer
  | .swap shown => .swap shown.terms
  | .swaps taker maker => .swaps (taker.map ListedSwap.terms) (maker.map ListedSwap.terms)
  | reply => reply

theorem ReadReply.map_terms_swap {Answer : Type} (shown : Except (Exit APIError) ListedSwap) :
    (shown.map (.swap : ListedSwap → ReadReply Answer)).map terms =
      (shown.map ListedSwap.terms).map .swap := by
  cases shown <;> rfl

/-- The two sides of a listing, in one reply. -/
def ReadReply.ofSides {Answer : Type} (sides : List ListedSwap × List ListedSwap) :
    ReadReply Answer :=
  .swaps sides.1 sides.2

theorem ReadReply.map_terms_ofSides {Answer : Type}
    (taker maker : Except (Exit APIError) (List ListedSwap)) :
    Except.map (terms : ReadReply Answer → ReadReply Answer) (ofSides <$> do
      let taker ← taker
      let maker ← maker
      return (taker, maker)) = do
        let taker ← taker.map (List.map ListedSwap.terms)
        let maker ← maker.map (List.map ListedSwap.terms)
        return .swaps taker maker := by
  cases taker with
  | error e => rfl
  | ok taker => cases maker <;> rfl

namespace ServedNode

variable {Answer Wallet : Type}

/-- A handler that runs its program on the node once the check has passed. -/
theorem after_checked {α : Type} {P : ServedNode ContractId Wallet → Prop}
    {f : ServedNode ContractId Wallet → Fallible (Exit APIError) (ServedNode ContractId Wallet) α}
    {s : ServedNode ContractId Wallet} (hs : P s) (h : P (after (f s) s)) :
    P (after (checkUnlocked >>= fun _ => get >>= f) s) := by
  have hcheck := checkUnlocked_apply s
  by_cases hunlocked : s.isUnlocked = true
  · rw [if_pos hunlocked] at hcheck
    rwa [after_bind_of_ok hcheck, after_bind_of_ok (get_apply s)]
  · rw [if_neg hunlocked] at hcheck
    rwa [after_bind_of_error hcheck]

/-! The handlers change the wallet and the stores, and nothing else. -/

section Frame

variable {τ : Type} {part : ServedNode ContractId Wallet → τ}

theorem keeps_checkUnlocked_part :
    Keeps part (checkUnlocked : Fallible (Exit APIError) (ServedNode ContractId Wallet) Unit) :=
  .bind .get fun _ => .bind (.attempt _) fun _ => .attempt _

theorem keeps_callWallet_part (hwallet : ∀ s w, part { s with wallet := w } = part s)
    (env : ReadEnv ContractId Answer Wallet) (call : WalletCall ContractId) :
    Keeps part (callWallet env call) :=
  .bind .get fun _ => .bind (.modify fun s => hwallet s _) fun _ => .attempt _

theorem keeps_onStores_part (hstores : ∀ s stores, part { s with node.stores := stores } = part s)
    {α : Type} (x : Fallible (Exit APIError) (Stores ContractId) α) : Keeps part (onStores x) := by
  intro s
  rw [onStores, after_zoom]
  exact hstores s _

end Frame

variable [DecidableEq ContractId] [ContractIdText ContractId]

/-- Serve a reading; here only what it leaves behind counts. -/
def read (s : ServedNode ContractId Wallet) (r : Reading ContractId Answer Wallet) :
    Unit × ServedNode ContractId Wallet :=
  ((), after (handle r.env r.time r.req) s)

variable {env : ReadEnv ContractId Answer Wallet} {now t : Nat}
  {s s' : ServedNode ContractId Wallet}

theorem keeps_handle_part {τ : Type} {part : ServedNode ContractId Wallet → τ}
    (hwallet : ∀ s w, part { s with wallet := w } = part s)
    (hstores : ∀ s stores, part { s with node.stores := stores } = part s) (req : ReadRequest) :
    Keeps part (handle env now req) := by
  have hcheck : Keeps part checkUnlocked := keeps_checkUnlocked_part
  have hcall := keeps_callWallet_part hwallet env
  cases req with
  | assetBalance assetId =>
    exact .bind hcheck fun _ => .bind (.attempt _) fun _ => .bind (hcall _) fun _ =>
      .bind .get fun _ => .pure _
  | assetMetadata assetId =>
    exact .bind (.attempt _) fun _ => .bind hcheck fun _ => .bind (hcall _) fun _ => .pure _
  | listAssets filterAssetSchemas =>
    exact .bind hcheck fun _ => .bind (hcall _) fun _ => .bind .get fun _ => .pure _
  | btcBalance | estimateFee | listTransactions | listTransfers | listUnspents =>
    exact .bind hcheck fun _ => .bind (hcall _) fun _ => .pure _
  | checkIndexerUrl | checkProxyEndpoint | decodeLnInvoice | decodeRgbInvoice =>
    exact .bind (.attempt _) fun _ => .pure _
  | getAssetMedia | getPayment | invoiceStatus | listChannels | listPayments =>
    exact .bind hcheck fun _ => .bind .get fun _ => .bind (.attempt _) fun _ => .pure _
  | getChannelId text =>
    exact .bind (.attempt _) fun _ => .bind hcheck fun _ => .bind .get fun _ =>
      .bind (.expect _ _) fun _ => .pure _
  | getSwap text ofTaker =>
    exact .bind hcheck fun _ => .bind .get fun _ => .bind (.attempt _) fun _ =>
      .bind (.expect _ _) fun _ => .bind (keeps_onStores_part hstores _) fun _ => .pure _
  | listSwaps =>
    exact .bind hcheck fun _ => .bind .get fun _ =>
      .bind (keeps_onStores_part hstores _) fun _ => .pure _
  | networkInfo => exact .bind hcheck fun _ => .pure _
  | listPeers | nodeInfo =>
    exact .bind hcheck fun _ => .bind .get fun _ => .pure _

/-- No read-only request changes what is read of the swaps from then on. -/
theorem readsAs_read (ht : t ≤ now) (req : ReadRequest) :
    s.node.stores.ReadsAs now (after (handle env t req) s).node.stores := by
  have hrefl : s.node.stores.ReadsAs now s.node.stores := .of_keepsSwaps (.refl _)
  by_cases hlist : req = .listSwaps
  · subst hlist
    refine after_checked (P := fun u => s.node.stores.ReadsAs now u.node.stores) hrefl ?_
    rw [after_bind_of_keeps fun _ => .pure _, onStores, after_zoom]
    exact hrefl.listSides ht (Stores.copiedFrom_iterate _ true _)
      (Stores.copiedFrom_iterate _ false _)
  by_cases hget : ∃ text ofTaker, req = .getSwap text ofTaker
  · obtain ⟨text, ofTaker, rfl⟩ := hget
    refine after_checked (P := fun u => s.node.stores.ReadsAs now u.node.stores) hrefl ?_
    cases hparse : (parsePaymentHash text : Except (Exit APIError) PaymentHash) with
    | error e =>
      rw [after_bind_of_error (attempt_error e s)]
      exact hrefl
    | ok paymentHash =>
      rw [after_bind_of_ok (attempt_ok paymentHash s)]
      cases hswap : s.node.stores.swap? ofTaker paymentHash with
      | none =>
        rw [after_bind_of_error (hswap ▸ expect_none _ s)]
        exact hrefl
      | some swap =>
        rw [after_bind_of_ok (hswap ▸ expect_some swap _ s), after_bind_of_keeps fun _ => .pure _,
          onStores, after_zoom, Stores.after_listSwap]
        exact hrefl.mapSwap ht hswap
  · have hget : ∀ text ofTaker, req ≠ .getSwap text ofTaker := fun text ofTaker h =>
      hget ⟨text, ofTaker, h⟩
    have hkeeps : (after (handle env t req) s).stored = s.stored := keeps_handle req hget hlist s
    have hstores : (after (handle env t req) s).node.stores = s.node.stores :=
      congrArg StoredState.stores hkeeps
    rw [hstores]
    exact hrefl

/-- After readings the node is in the same phase, and its swaps read alike. -/
structure ReadsAs (now : Nat) (s s' : ServedNode ContractId Wallet) : Prop where
  app : s'.app = s.app
  stores : s.node.stores.ReadsAs now s'.node.stores

theorem readsAs_run {rs : List (Reading ContractId Answer Wallet)}
    (hrs : ∀ r ∈ rs, r.time ≤ now) (s : ServedNode ContractId Wallet) :
    s.ReadsAs now (Mealy.final read s rs) := by
  refine Mealy.invariant_final (I := fun u : ServedNode ContractId Wallet => s.ReadsAs now u)
    (C := fun _ (r : Reading ContractId Answer Wallet) => r.time ≤ now) ?_
    ⟨rfl, .of_keepsSwaps (.refl _)⟩ (Mealy.along_of_forall hrs s)
  intro u r h ht
  have hkeeps : Keeps (fun u : ServedNode ContractId Wallet => u.app)
      (handle r.env r.time r.req) :=
    keeps_handle_part (fun _ _ => rfl) (fun _ _ => rfl) r.req
  exact ⟨(hkeeps u).trans h.app, h.stores.trans (readsAs_read ht r.req)⟩

omit [DecidableEq ContractId] [ContractIdText ContractId] in
/-- The answer of a handler that runs its program on the node once the check has passed. -/
theorem outcome_checked {α : Type}
    (f : ServedNode ContractId Wallet → Fallible (Exit APIError) (ServedNode ContractId Wallet) α)
    (s : ServedNode ContractId Wallet) :
    (outcome (checkUnlocked >>= fun _ => get >>= f) s).1 =
      if s.isUnlocked then (outcome (f s) s).1
      else .error (.err (if s.app.changingState then .changingState else .lockedNode)) := by
  have hcheck := checkUnlocked_apply s
  by_cases hunlocked : s.isUnlocked = true
  · rw [if_pos hunlocked] at hcheck ⊢
    rw [outcome_bind_of_ok hcheck, outcome_bind_of_ok (get_apply s)]
  · rw [if_neg hunlocked] at hcheck ⊢
    rw [outcome_bind_of_error hcheck]

omit [DecidableEq ContractId] [ContractIdText ContractId] in
/-- Two nodes in the same phase answer such a handler alike if they do when unlocked. -/
theorem ReadsAs.outcome_checked (h : s.ReadsAs now s')
    {f : ServedNode ContractId Wallet →
      Fallible (Exit APIError) (ServedNode ContractId Wallet) (ReadReply Answer)}
    (hf : (outcome (f s') s').1.map ReadReply.terms = (outcome (f s) s).1.map ReadReply.terms) :
    (outcome (checkUnlocked >>= fun _ => get >>= f) s').1.map ReadReply.terms =
      (outcome (checkUnlocked >>= fun _ => get >>= f) s).1.map ReadReply.terms := by
  have hunlocked : s'.isUnlocked = s.isUnlocked := by rw [isUnlocked, isUnlocked, h.app]
  rw [ServedNode.outcome_checked, ServedNode.outcome_checked, hunlocked, h.app]
  split
  · exact hf
  · rfl

omit [DecidableEq ContractId] in
/-- What an unlocked node lists. -/
theorem outcome_listing (env : ReadEnv ContractId Answer Wallet)
    (s : ServedNode ContractId Wallet) :
    (outcome (onStores (listSides now (iterate s.node.stores.takerSwaps env.takerOrder)
        (iterate s.node.stores.makerSwaps env.makerOrder)) >>= fun sides =>
          pure (ReadReply.ofSides sides : ReadReply Answer)) s).1 =
      ReadReply.ofSides <$> do
        let taker ← (iterate s.node.stores.takerSwaps env.takerOrder).mapM (shownSwap now)
        let maker ← (iterate s.node.stores.makerSwaps env.makerOrder).mapM (shownSwap now)
        return (taker, maker) := by
  rw [outcome_bind_pure, onStores, outcome_zoom]
  exact congrArg (Except.map _) (outcome_listSides (Stores.copiedFrom_iterate _ true _)
    (Stores.copiedFrom_iterate _ false _))

theorem ReadsAs.listSwaps (h : s.ReadsAs now s') (env : ReadEnv ContractId Answer Wallet) :
    (outcome (handle env now .listSwaps) s').1.map ReadReply.terms =
      (outcome (handle env now .listSwaps) s).1.map ReadReply.terms := by
  have htaker := mapM_shownSwap_alike h.stores true env.takerOrder
  have hmaker := mapM_shownSwap_alike h.stores false env.makerOrder
  simp only [if_true, Bool.false_eq_true, if_false] at htaker hmaker
  refine h.outcome_checked ?_
  calc
    _ = _ := congrArg (Except.map ReadReply.terms) (outcome_listing env s')
    _ = _ := ReadReply.map_terms_ofSides _ _
    _ = _ := by rw [htaker, hmaker]
    _ = _ := (ReadReply.map_terms_ofSides _ _).symm
    _ = _ := congrArg (Except.map ReadReply.terms) (outcome_listing env s).symm

omit [DecidableEq ContractId] in
/-- What an unlocked node answers of a swap that is there. -/
theorem outcome_gotten {ofTaker : Bool} {paymentHash : PaymentHash} {swap : SwapData ContractId}
    (hswap : s.node.stores.swap? ofTaker paymentHash = some swap) :
    (outcome (onStores (listSwap now ofTaker paymentHash swap) >>= fun shown =>
        pure (.swap shown : ReadReply Answer)) s).1 =
      (shownSwap now (paymentHash, swap)).map .swap := by
  have hthere : (s.node.stores.swap? ofTaker paymentHash).isSome := by rw [hswap]; rfl
  rw [outcome_bind_pure, onStores, outcome_zoom]
  exact congrArg (Except.map _) (outcome_listSwap hthere)

theorem ReadsAs.getSwap (h : s.ReadsAs now s') (env : ReadEnv ContractId Answer Wallet)
    (text : String) (ofTaker : Bool) :
    (outcome (handle env now (.getSwap text ofTaker)) s').1.map ReadReply.terms =
      (outcome (handle env now (.getSwap text ofTaker)) s).1.map ReadReply.terms := by
  refine h.outcome_checked ?_
  cases hparse : (parsePaymentHash text : Except (Exit APIError) PaymentHash) with
  | error e => rfl
  | ok paymentHash =>
    rw [outcome_bind_of_ok (attempt_ok paymentHash s),
      outcome_bind_of_ok (attempt_ok paymentHash s')]
    cases hswap : s.node.stores.swap? ofTaker paymentHash with
    | none =>
      have hswap' : s'.node.stores.swap? ofTaker paymentHash = none := h.stores.swap?_none hswap
      rw [outcome_bind_of_error (hswap' ▸ expect_none _ s'),
        outcome_bind_of_error (hswap ▸ expect_none _ s)]
    | some swap =>
      obtain ⟨swap', hswap', hreads⟩ := h.stores.swap? hswap
      rw [outcome_bind_of_ok (hswap' ▸ expect_some swap' _ s'),
        outcome_gotten hswap', outcome_bind_of_ok (hswap ▸ expect_some swap _ s),
        outcome_gotten hswap, ReadReply.map_terms_swap, ReadReply.map_terms_swap]
      exact congrArg (Except.map ReadReply.swap) (shownTerms_alike hreads paymentHash).symm

/-- What a node shows of its swaps does not depend on which read-only requests it has
served before: the swaps that are listed, their terms and their statuses, and the
refusals and panics, are those of a node that has served none of them. -/
theorem swaps_read_alike {rs rs' : List (Reading ContractId Answer Wallet)}
    (hrs : ∀ r ∈ rs, r.time ≤ now) (hrs' : ∀ r ∈ rs', r.time ≤ now)
    (env : ReadEnv ContractId Answer Wallet) (s : ServedNode ContractId Wallet) :
    ((outcome (handle env now .listSwaps) (Mealy.final read s rs)).1.map ReadReply.terms =
        (outcome (handle env now .listSwaps) (Mealy.final read s rs')).1.map ReadReply.terms) ∧
      ∀ text ofTaker,
        (outcome (handle env now (.getSwap text ofTaker)) (Mealy.final read s rs)).1.map
            ReadReply.terms =
          (outcome (handle env now (.getSwap text ofTaker)) (Mealy.final read s rs')).1.map
            ReadReply.terms := by
  have h := readsAs_run hrs s
  have h' := readsAs_run hrs' s
  exact ⟨(h.listSwaps env).trans (h'.listSwaps env).symm,
    fun text ofTaker => (h.getSwap env text ofTaker).trans (h'.getSwap env text ofTaker).symm⟩

/-- The swap of a taker that was valid until 200 is listed at 300 and then at 400. -/
theorem read_alike_at_400 :
    (outcome (handle idleEnv 400 .listSwaps)
        (Mealy.final read takerWithSwap [⟨idleEnv, 300, .listSwaps⟩])).1.map ReadReply.terms =
      (outcome (handle idleEnv 400 .listSwaps)
        (Mealy.final read takerWithSwap ([] : List (Reading ℕ Unit Unit)))).1.map
          ReadReply.terms :=
  (swaps_read_alike (by simp) (by simp) idleEnv takerWithSwap).1

end ServedNode

end RgbLightningNode
