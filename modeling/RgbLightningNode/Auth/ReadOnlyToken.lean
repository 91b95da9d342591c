import RgbLightningNode.Routes.ReadOnly
import RgbLightningNode.Runs.SwapWrites

/-!
# What a read-only token can change

A read-only token is let through to the read-only operations, and none of those
writes to a store, but for the two that list swaps: a swap whose time has run
out is stored with a new status.
-/

namespace RgbLightningNode

open Fallible

variable {ContractId Answer Wallet : Type}

/-! ### Listing swaps -/

namespace SwapData

/-- The time of the swap has run out, and its status does not say so yet. -/
def Due (now : Nat) (swap : SwapData ContractId) : Prop :=
  swap.status = .waiting ∧ swap.swapInfo.expiry < now ∨
    swap.status = .pending ∧ ∃ initiatedAt, swap.initiatedAt = some initiatedAt ∧
      initiatedAt + 86400 < now

/-- A pending swap has the time of its start. Listing one without it is a panic. -/
def Started (swap : SwapData ContractId) : Prop :=
  swap.status = .pending → swap.initiatedAt ≠ none

/-- No swap of a listing is due, up to the one at which the listing panics. -/
def NoneDue (now : Nat) : List (SwapData ContractId) → Prop
  | [] => True
  | swap :: swaps => ¬swap.Due now ∧ (swap.Started → NoneDue now swaps)

variable {now : Nat} {swap : SwapData ContractId}

theorem noneDue_append {xs ys : List (SwapData ContractId)} :
    NoneDue now (xs ++ ys) ↔ NoneDue now xs ∧ ((∀ x ∈ xs, x.Started) → NoneDue now ys) := by
  induction xs with
  | nil => simp [NoneDue]
  | cons x xs ih =>
    simp only [List.cons_append, NoneDue, ih, List.forall_mem_cons]
    tauto

theorem listedStatus_of_due (h : swap.Due now) :
    ∃ status, listedStatus now swap = .ok status ∧ status ≠ swap.status := by
  obtain ⟨hwaiting, hexpired⟩ | ⟨hpending, initiatedAt, hinit, hlate⟩ := h
  · exact ⟨.expired, by simp [listedStatus, hwaiting, hexpired], by simp [hwaiting]⟩
  · exact ⟨.failed, by simp [listedStatus, hpending, hinit, hlate], by simp [hpending]⟩

theorem listedStatus_of_not_due (h : ¬swap.Due now) (hstarted : swap.Started) :
    listedStatus now swap = .ok swap.status := by
  simp only [Due, not_or, not_and, not_exists] at h
  obtain ⟨hwaiting, hpending⟩ := h
  unfold listedStatus
  rw [if_neg (fun hw => hwaiting hw.1 hw.2)]
  split
  · rename_i hp
    split
    · rename_i hinit
      exact absurd hinit (hstarted hp)
    · rename_i initiatedAt hinit
      rw [if_neg (hpending hp initiatedAt hinit)]
  · rfl

theorem listedStatus_of_not_started (h : ¬swap.Started) :
    listedStatus now swap = .error (.panic none unwrapNone) := by
  obtain ⟨hpending, hinit⟩ := Classical.not_imp.mp h
  simp [listedStatus, hpending, not_not.mp hinit]

end SwapData

namespace Stores

/-- Some swap of `s` has another status in `t`, or is gone. -/
def Moved (s t : Stores ContractId) : Prop :=
  ∃ ofTaker paymentHash swap, s.swap? ofTaker paymentHash = some swap ∧
    (t.swap? ofTaker paymentHash).map SwapData.status ≠ some swap.status

theorem Moved.ne {s t : Stores ContractId} (h : Moved s t) : t ≠ s := by
  rintro rfl
  obtain ⟨ofTaker, paymentHash, swap, hswap, hstatus⟩ := h
  rw [hswap] at hstatus
  exact hstatus rfl

variable {s t : Stores ContractId} {now : Nat} {ofTaker : Bool} {paymentHash : PaymentHash}
  {swap : SwapData ContractId}

/-- A due swap does not have its former status when it has been listed. -/
theorem status_after_mapSwap (hdue : swap.Due now) :
    ((after (mapSwap now paymentHash swap ofTaker) t).swap? ofTaker paymentHash).map
      SwapData.status ≠ some swap.status := by
  obtain ⟨status, hlisted, hne⟩ := SwapData.listedStatus_of_due hdue
  have hchange := changesBy_mapSwap now paymentHash swap ofTaker t
  rw [listedWrite, hlisted] at hchange
  simp only [hne, if_false] at hchange
  have hnew := hchange.here
  rw [Stored, if_neg (listedStatus_ne_waiting hlisted hne)] at hnew
  rw [hnew, Option.map_map]
  intro hstatus
  obtain ⟨old, -, hold⟩ := Option.map_eq_some_iff.mp hstatus
  exact hne ((SwapData.withStatus_status old status now).symm.trans hold)

theorem moved_mapSwap_of_due (hswap : s.swap? ofTaker paymentHash = some swap)
    (hdue : swap.Due now) : Moved s (after (mapSwap now paymentHash swap ofTaker) t) :=
  ⟨ofTaker, paymentHash, swap, hswap, status_after_mapSwap hdue⟩

theorem mapSwap_of_not_due (hdue : ¬swap.Due now) (hstarted : swap.Started) :
    mapSwap now paymentHash swap ofTaker t = .ok () t := by
  rw [mapSwap, SwapData.listedStatus_of_not_due hdue hstarted, bind_of_ok (attempt_ok _ t)]
  simp

theorem mapSwap_of_not_started (hstarted : ¬swap.Started) :
    mapSwap now paymentHash swap ofTaker t = .error (.panic none unwrapNone) t := by
  rw [mapSwap, SwapData.listedStatus_of_not_started hstarted, bind_of_error (attempt_error _ t)]

/-- A swap that has moved does not get its status back from a copy. -/
theorem Moved.mapSwap (hswap : s.swap? ofTaker paymentHash = some swap) (h : Moved s t) :
    Moved s (after (mapSwap now paymentHash swap ofTaker) t) := by
  by_cases hdue : swap.Due now
  · exact moved_mapSwap_of_due hswap hdue
  · by_cases hstarted : swap.Started
    · rwa [after_of_ok (mapSwap_of_not_due hdue hstarted)]
    · rwa [after_of_error (mapSwap_of_not_started hstarted)]

/-- Listing one swap leaves the stores as they were if and only if it is not due. -/
theorem after_mapSwap_eq_iff (hswap : s.swap? ofTaker paymentHash = some swap) :
    after (mapSwap now paymentHash swap ofTaker) s = s ↔ ¬swap.Due now := by
  constructor
  · intro hsame hdue
    exact (moved_mapSwap_of_due hswap hdue).ne hsame
  · intro hdue
    by_cases hstarted : swap.Started
    · exact after_of_ok (mapSwap_of_not_due hdue hstarted)
    · exact after_of_error (mapSwap_of_not_started hstarted)

section Listings

variable [ContractIdText ContractId] {copies taker maker : List (PaymentHash × SwapData ContractId)}

/-- The copies a listing goes through are swaps of `s`. -/
def CopiedFrom (s : Stores ContractId) (ofTaker : Bool)
    (copies : List (PaymentHash × SwapData ContractId)) : Prop :=
  ∀ copy ∈ copies, s.swap? ofTaker copy.1 = some copy.2

omit [ContractIdText ContractId] in
theorem copiedFrom_iterate (s : Stores ContractId) (ofTaker : Bool) (order : List PaymentHash) :
    CopiedFrom s ofTaker
      (iterate (if ofTaker then s.takerSwaps else s.makerSwaps) order) := by
  intro copy hcopy
  obtain ⟨hash, -, hhash⟩ := List.mem_filterMap.mp hcopy
  obtain ⟨swap, hswap, rfl⟩ := Option.map_eq_some_iff.mp hhash
  exact hswap

theorem after_listSwap (t : Stores ContractId) :
    after (listSwap now ofTaker paymentHash swap) t =
      after (mapSwap now paymentHash swap ofTaker) t := by
  refine after_bind_of_keeps (fun _ => ?_) t
  exact .bind (.attempt _) fun _ => .pure _

theorem listSwap_of_not_due (ofTaker : Bool) (paymentHash : PaymentHash)
    (t : Stores ContractId) (hdue : ¬swap.Due now) (hstarted : swap.Started) :
    listSwap now ofTaker paymentHash swap t = .ok (swap.listed paymentHash swap.status) t := by
  rw [listSwap, bind_of_ok (mapSwap_of_not_due hdue hstarted),
    SwapData.listedStatus_of_not_due hdue hstarted, bind_of_ok (attempt_ok _ t)]
  rfl

theorem listSwap_of_not_started (hstarted : ¬swap.Started) :
    listSwap now ofTaker paymentHash swap t = .error (.panic none unwrapNone) t := by
  rw [listSwap, bind_of_error (mapSwap_of_not_started hstarted)]

/-- What a listing does after its first swap. -/
theorem after_listSwapsOf_cons (now : ℕ) (ofTaker : Bool) (paymentHash : PaymentHash)
    (swap : SwapData ContractId) (copies : List (PaymentHash × SwapData ContractId))
    (t : Stores ContractId) :
    after (listSwapsOf now ofTaker ((paymentHash, swap) :: copies)) t =
        after (mapSwap now paymentHash swap ofTaker) t ∨
      after (listSwapsOf now ofTaker ((paymentHash, swap) :: copies)) t =
        after (listSwapsOf now ofTaker copies)
          (after (mapSwap now paymentHash swap ofTaker) t) := by
  rw [← after_listSwap, listSwapsOf]
  cases h : listSwap now ofTaker paymentHash swap t with
  | ok listed t' =>
    rw [after_bind_of_ok h, after_of_ok h]
    exact .inr (after_bind_of_keeps (fun _ => .pure _) t')
  | error e t' =>
    rw [after_bind_of_error h, after_of_error h]
    exact .inl rfl

theorem Moved.listSwapsOf (hcopies : CopiedFrom s ofTaker copies) (h : Moved s t) :
    Moved s (after (listSwapsOf now ofTaker copies) t) := by
  induction copies generalizing t with
  | nil => exact h
  | cons copy copies ih =>
    obtain ⟨hcopy, hcopies⟩ := List.forall_mem_cons.mp hcopies
    obtain hfirst | hrest := after_listSwapsOf_cons now ofTaker copy.1 copy.2 copies t
    · rw [hfirst]
      exact h.mapSwap hcopy
    · rw [hrest]
      exact ih hcopies (h.mapSwap hcopy)

/-- A listing with nothing due leaves the stores unchanged: it goes through all swaps, or
panics at one of them. -/
theorem listSwapsOf_of_noneDue (ofTaker : Bool)
    (h : SwapData.NoneDue now (copies.map Prod.snd)) (t : Stores ContractId) :
    (∃ swaps, listSwapsOf now ofTaker copies t = .ok swaps t ∧
        ∀ swap ∈ copies.map Prod.snd, swap.Started) ∨
      ∃ e, listSwapsOf now ofTaker copies t = .error e t ∧
        ¬∀ swap ∈ copies.map Prod.snd, swap.Started := by
  induction copies with
  | nil => exact .inl ⟨[], rfl, by simp⟩
  | cons copy copies ih =>
    obtain ⟨paymentHash, swap⟩ := copy
    obtain ⟨hdue, hrest⟩ := h
    by_cases hstarted : swap.Started
    · have hfirst := listSwap_of_not_due ofTaker paymentHash t hdue hstarted
      obtain ⟨swaps, hok, hall⟩ | ⟨e, herror, hnot⟩ := ih (hrest hstarted)
      · refine .inl ⟨swap.listed paymentHash swap.status :: swaps, ?_, ?_⟩
        · rw [RgbLightningNode.listSwapsOf, bind_of_ok hfirst, bind_of_ok hok]
          rfl
        · exact List.forall_mem_cons.mpr ⟨hstarted, hall⟩
      · refine .inr ⟨e, ?_, fun hall => hnot (List.forall_mem_cons.mp hall).2⟩
        rw [RgbLightningNode.listSwapsOf, bind_of_ok hfirst, bind_of_error herror]
    · refine .inr ⟨.panic none unwrapNone, ?_,
        fun hall => hstarted (List.forall_mem_cons.mp hall).1⟩
      rw [RgbLightningNode.listSwapsOf, bind_of_error (listSwap_of_not_started hstarted)]

/-- A listing with a due swap changes its status. -/
theorem moved_listSwapsOf (hcopies : CopiedFrom s ofTaker copies)
    (h : ¬SwapData.NoneDue now (copies.map Prod.snd)) (t : Stores ContractId) :
    Moved s (after (listSwapsOf now ofTaker copies) t) := by
  induction copies with
  | nil => exact absurd trivial h
  | cons copy copies ih =>
    obtain ⟨paymentHash, swap⟩ := copy
    obtain ⟨hcopy, hcopies⟩ := List.forall_mem_cons.mp hcopies
    by_cases hdue : swap.Due now
    · -- the rest of the listing does not put it back
      have hmoved := moved_mapSwap_of_due (t := t) hcopy hdue
      obtain hfirst | hrest := after_listSwapsOf_cons now ofTaker paymentHash swap copies t
      · rwa [hfirst]
      · rw [hrest]
        exact hmoved.listSwapsOf hcopies
    · obtain ⟨hstarted, hrest⟩ : swap.Started ∧ ¬SwapData.NoneDue now (copies.map Prod.snd) := by
        by_contra hno
        exact h ⟨hdue, fun hstarted => not_not.mp fun hrest => hno ⟨hstarted, hrest⟩⟩
      have hfirst := listSwap_of_not_due ofTaker paymentHash t hdue hstarted
      rw [RgbLightningNode.listSwapsOf, after_bind_of_ok hfirst,
        after_bind_of_keeps fun _ => .pure _]
      exact ih hcopies hrest

/-- Listing both sides leaves the stores unchanged if and only if no listed swap is due. -/
theorem after_listSides_eq_iff (htaker : CopiedFrom s true taker)
    (hmaker : CopiedFrom s false maker) :
    after (listSides now taker maker) s = s ↔
      SwapData.NoneDue now (taker.map Prod.snd ++ maker.map Prod.snd) := by
  rw [SwapData.noneDue_append, listSides]
  by_cases htakerDue : SwapData.NoneDue now (taker.map Prod.snd)
  · rw [and_iff_right htakerDue]
    obtain ⟨swaps, hok, hall⟩ | ⟨e, herror, hnot⟩ :=
      listSwapsOf_of_noneDue true htakerDue s
    · rw [after_bind_of_ok hok, after_bind_of_keeps fun _ => .pure _, forall_prop_of_true hall]
      constructor
      · intro hsame
        by_contra hmakerDue
        exact (moved_listSwapsOf hmaker hmakerDue s).ne hsame
      · intro hmakerDue
        obtain ⟨swaps, hok, -⟩ | ⟨e, herror, -⟩ :=
          listSwapsOf_of_noneDue false hmakerDue s
        · exact after_of_ok hok
        · exact after_of_error herror
    · rw [after_bind_of_error herror]
      exact iff_of_true rfl fun hall => absurd hall hnot
  · refine iff_of_false ?_ fun h => htakerDue h.1
    have hmoved := moved_listSwapsOf htaker htakerDue s
    cases hlist : RgbLightningNode.listSwapsOf now true taker s with
    | ok swaps t =>
      rw [after_of_ok hlist] at hmoved
      rw [after_bind_of_ok hlist, after_bind_of_keeps fun _ => .pure _]
      exact (hmoved.listSwapsOf hmaker).ne
    | error e t =>
      rw [after_of_error hlist] at hmoved
      rw [after_bind_of_error hlist]
      exact hmoved.ne

end Listings

end Stores

/-! ### The requests -/

/-- What the node has stored, in memory and on disk. -/
structure StoredState (ContractId : Type) where
  stores : Stores ContractId
  peers : List PublicKey
  channelPeerData : List String
  revokedTokens : Finset (List UInt8)
  revokedTokensFile : Option (List Char)

/-- What a request asks for. -/
inductive Operation where
  | read (req : ReadRequest)
  /-- A request that is answered before its handler runs, for its body or its method. -/
  | rejected (path : String) (e : APIError)
  /-- A request for none of the read-only operations. -/
  | other (path : String) (h : path ∉ readOnlyOps)

def Operation.path : Operation → String
  | .read req => req.path
  | .rejected path _ => path
  | .other path _ => path

/-- Every read-only operation has a handler here, and no other path does. -/
theorem mem_readOnlyOps_iff {path : String} :
    path ∈ readOnlyOps ↔ ∃ req : ReadRequest, req.path = path := by
  have hall : readOnlyOps = ([.assetBalance "", .assetMetadata "", .btcBalance true,
      .checkIndexerUrl "", .checkProxyEndpoint "", .decodeLnInvoice "", .decodeRgbInvoice "",
      .estimateFee 0, .getAssetMedia "", .getChannelId "", .getPayment "", .getSwap "" true,
      .invoiceStatus "", .listAssets [], .listChannels, .listPayments, .listPeers, .listSwaps,
      .listTransactions true, .listTransfers "", .listUnspents true, .networkInfo,
      .nodeInfo] : List ReadRequest).map ReadRequest.path := rfl
  constructor
  · intro h
    rw [hall] at h
    obtain ⟨req, -, hreq⟩ := List.mem_map.mp h
    exact ⟨req, hreq⟩
  · rintro ⟨req, rfl⟩
    cases req <;> simp [ReadRequest.path, readOnlyOps]

abbrev ServedReply (Answer : Type) := Except StatusCode (Except (Exit APIError) (ReadReply Answer))

namespace ServedNode

def stored (s : ServedNode ContractId Wallet) : StoredState ContractId where
  stores := s.node.stores
  peers := s.peers
  channelPeerData := s.channelPeerData
  revokedTokens := s.auth.revokedTokens
  revokedTokensFile := s.revokedTokensFile

def isUnlocked (s : ServedNode ContractId Wallet) : Bool :=
  !s.app.changingState && s.app.unlockedAppState.isSome

/-! ### What the handlers keep -/

variable {env : ReadEnv ContractId Answer Wallet} {now : Nat}
  {s : ServedNode ContractId Wallet}

theorem keeps_checkUnlocked :
    Keeps stored (checkUnlocked : Fallible (Exit APIError) (ServedNode ContractId Wallet) Unit) :=
  .bind .get fun _ => .bind (.attempt _) fun _ => .attempt _

/-- The wallet changes itself only. -/
theorem keeps_callWallet (env : ReadEnv ContractId Answer Wallet) (call : WalletCall ContractId) :
    Keeps stored (callWallet env call) :=
  .bind .get fun _ => .bind (.modify fun _ => rfl) fun _ => .attempt _

theorem keeps_askWallet (env : ReadEnv ContractId Answer Wallet) (call : WalletCall ContractId) :
    Keeps stored (askWallet env call) :=
  .bind keeps_checkUnlocked fun _ => .bind (keeps_callWallet env call) fun _ => .pure _

/-- A handler that computes its answer from the unlocked node. -/
theorem keeps_look {α β : Type} (f : ServedNode ContractId Wallet → Except (Exit APIError) α)
    (g : ServedNode ContractId Wallet → α → β) :
    Keeps stored (do
      checkUnlocked
      let s ← get
      let a ← attempt (f s)
      return g s a : Fallible (Exit APIError) (ServedNode ContractId Wallet) β) :=
  .bind keeps_checkUnlocked fun _ => .bind .get fun _ => .bind (.attempt _) fun _ => .pure _

/-- A handler that does not look at the node. -/
theorem keeps_answer {α β : Type} (x : Except (Exit APIError) α) (g : α → β) :
    Keeps stored (do
      let a ← attempt x
      return g a : Fallible (Exit APIError) (ServedNode ContractId Wallet) β) :=
  .bind (.attempt _) fun _ => .pure _

theorem checkUnlocked_apply (s : ServedNode ContractId Wallet) :
    (checkUnlocked : Fallible (Exit APIError) (ServedNode ContractId Wallet) Unit) s =
      if s.isUnlocked then .ok () s
      else .error (.err (if s.app.changingState then .changingState else .lockedNode)) s := by
  obtain ⟨⟨unlocked, services, changing⟩, _⟩ := s
  cases changing <;> cases unlocked <;> rfl

theorem checkUnlocked_eq_ok_iff {s t : ServedNode ContractId Wallet} :
    (checkUnlocked : Fallible (Exit APIError) (ServedNode ContractId Wallet) Unit) s = .ok () t ↔
      s.isUnlocked = true ∧ t = s := by
  rw [checkUnlocked_apply]
  split
  · rename_i hunlocked
    simp [hunlocked, eq_comm]
  · rename_i hlocked
    simp [hlocked]

/-- A handler that runs its program on the node once the check has passed. -/
theorem stored_after_checked_iff {α : Type} {P : Prop}
    {f : ServedNode ContractId Wallet → Fallible (Exit APIError) (ServedNode ContractId Wallet) α}
    (h : (after (f s) s).stored = s.stored ↔ P) :
    (after (checkUnlocked >>= fun _ => get >>= f) s).stored = s.stored ↔
      (s.isUnlocked = true → P) := by
  have hcheck := checkUnlocked_apply s
  by_cases hunlocked : s.isUnlocked = true
  · rw [if_pos hunlocked] at hcheck
    rw [after_bind_of_ok hcheck, after_bind_of_ok (get_apply s), h, forall_prop_of_true hunlocked]
  · rw [if_neg hunlocked] at hcheck
    rw [after_bind_of_error hcheck]
    exact iff_of_true rfl fun hu => absurd hu hunlocked

/-- A program of the stores keeps what is stored if and only if it keeps the stores. -/
theorem stored_after_onStores_iff {α : Type}
    (x : Fallible (Exit APIError) (Stores ContractId) α) :
    (after (onStores x) s).stored = s.stored ↔ after x s.node.stores = s.node.stores := by
  rw [onStores, after_zoom]
  constructor
  · exact fun h => congrArg StoredState.stores h
  · intro h
    rw [stored, stored, h]

variable [DecidableEq ContractId] [ContractIdText ContractId]

/-- All handlers but the two that list swaps keep what is stored. -/
theorem keeps_handle (req : ReadRequest) (hget : ∀ text ofTaker, req ≠ .getSwap text ofTaker)
    (hlist : req ≠ .listSwaps) : Keeps stored (handle env now req) := by
  cases req with
  | assetBalance assetId =>
    exact .bind keeps_checkUnlocked fun _ => .bind (.attempt _) fun _ =>
      .bind (keeps_callWallet env _) fun _ => .bind .get fun _ => .pure _
  | assetMetadata assetId =>
    exact .bind (.attempt _) fun _ => .bind keeps_checkUnlocked fun _ =>
      .bind (keeps_callWallet env _) fun _ => .pure _
  | listAssets filterAssetSchemas =>
    exact .bind keeps_checkUnlocked fun _ => .bind (keeps_callWallet env _) fun _ =>
      .bind .get fun _ => .pure _
  | btcBalance | estimateFee | listTransactions | listTransfers | listUnspents =>
    exact keeps_askWallet env _
  | checkIndexerUrl | checkProxyEndpoint | decodeLnInvoice | decodeRgbInvoice =>
    exact keeps_answer _ _
  | getAssetMedia | getPayment | invoiceStatus | listChannels | listPayments =>
    exact keeps_look _ _
  | getChannelId text =>
    exact .bind (.attempt _) fun _ => .bind keeps_checkUnlocked fun _ => .bind .get fun _ =>
      .bind (.expect _ _) fun _ => .pure _
  | getSwap text ofTaker => exact absurd rfl (hget text ofTaker)
  | listSwaps => exact absurd rfl hlist
  | networkInfo => exact .bind keeps_checkUnlocked fun _ => .pure _
  | listPeers | nodeInfo =>
    exact .bind keeps_checkUnlocked fun _ => .bind .get fun _ => .pure _

/-- The request reads no swap whose new status it would store. -/
def NothingDue (env : ReadEnv ContractId Answer Wallet) (now : Nat)
    (s : ServedNode ContractId Wallet) : ReadRequest → Prop
  | .listSwaps => s.isUnlocked = true →
    SwapData.NoneDue now ((iterate s.node.stores.takerSwaps env.takerOrder).map Prod.snd ++
      (iterate s.node.stores.makerSwaps env.makerOrder).map Prod.snd)
  | .getSwap text ofTaker => s.isUnlocked = true →
    ∀ paymentHash swap, parsePaymentHash text = .ok paymentHash →
      s.node.stores.swap? ofTaker paymentHash = some swap → ¬swap.Due now
  | _ => True

theorem stored_after_listSwaps_iff :
    (after (handle env now .listSwaps) s).stored = s.stored ↔ NothingDue env now s .listSwaps := by
  refine stored_after_checked_iff ?_
  rw [after_bind_of_keeps fun _ => .pure _, stored_after_onStores_iff]
  exact Stores.after_listSides_eq_iff (Stores.copiedFrom_iterate _ true _)
    (Stores.copiedFrom_iterate _ false _)

theorem stored_after_getSwap_iff (text : String) (ofTaker : Bool) :
    (after (handle env now (.getSwap text ofTaker)) s).stored = s.stored ↔
      NothingDue env now s (.getSwap text ofTaker) := by
  refine stored_after_checked_iff ?_
  cases hparse : (parsePaymentHash text : Except (Exit APIError) PaymentHash) with
  | error e =>
    rw [after_bind_of_error (attempt_error e s)]
    exact iff_of_true rfl fun _ _ h => nomatch h
  | ok paymentHash =>
    rw [after_bind_of_ok (attempt_ok paymentHash s)]
    have hsame : ∀ paymentHash', (.ok paymentHash : Except (Exit APIError) PaymentHash) =
        .ok paymentHash' → paymentHash' = paymentHash := fun _ h => (Except.ok.inj h).symm
    cases hswap : s.node.stores.swap? ofTaker paymentHash with
    | none =>
      rw [after_bind_of_error (hswap ▸ expect_none _ s)]
      refine iff_of_true rfl fun paymentHash' swap h hlookup => ?_
      rw [hsame paymentHash' h, hswap] at hlookup
      cases hlookup
    | some swap =>
      rw [after_bind_of_ok (hswap ▸ expect_some swap _ s), after_bind_of_keeps fun _ => .pure _,
        stored_after_onStores_iff, Stores.after_listSwap, Stores.after_mapSwap_eq_iff hswap]
      constructor
      · intro hdue paymentHash' swap' h hlookup
        rw [hsame paymentHash' h, hswap] at hlookup
        rwa [← Option.some.inj hlookup]
      · exact fun h => h paymentHash swap rfl hswap

/-- What a handler of a read-only operation keeps. -/
theorem stored_after_handle_iff (req : ReadRequest) :
    (after (handle env now req) s).stored = s.stored ↔ NothingDue env now s req := by
  by_cases hlist : req = .listSwaps
  · subst hlist
    exact stored_after_listSwaps_iff
  by_cases hget : ∃ text ofTaker, req = .getSwap text ofTaker
  · obtain ⟨text, ofTaker, rfl⟩ := hget
    exact stored_after_getSwap_iff text ofTaker
  · have hget : ∀ text ofTaker, req ≠ .getSwap text ofTaker := fun text ofTaker h =>
      hget ⟨text, ofTaker, h⟩
    refine iff_of_true (keeps_handle req hget hlist s) ?_
    unfold NothingDue
    split
    · exact absurd rfl hlist
    · exact absurd rfl (hget _ _)
    · trivial

/-! ### Requests with a read-only token -/

/-- Serve a request: the middleware, and the handler of the operation. What the
operations that are not read-only do is left open. -/
def serve (fromBase64 : String → RootKey → Option AuthToken)
    (env : ReadEnv ContractId Answer Wallet)
    (others : String → ServedNode ContractId Wallet →
      Except (Exit APIError) (ReadReply Answer) × ServedNode ContractId Wallet)
    (now : Nat) (s : ServedNode ContractId Wallet) (authorization : Option String)
    (op : Operation) : ServedReply Answer × ServedNode ContractId Wallet :=
  match conditionalAuthMiddleware fromBase64 s.auth now ⟨authorization, op.path⟩ with
  | .error code => (.error code, s)
  | .ok () =>
    match op with
    | .read req => (outcome (handle env now req) s).map .ok id
    | .rejected _ e => (.ok (.error (.err e)), s)
    | .other path _ => (others path s).map .ok id

variable {fromBase64 : String → RootKey → Option AuthToken} {authorization : Option String}
  {others : String → ServedNode ContractId Wallet →
    Except (Exit APIError) (ReadReply Answer) × ServedNode ContractId Wallet}

omit [DecidableEq ContractId] [ContractIdText ContractId] in
/-- A token whose only role is read-only admits to the read-only operations. -/
theorem mem_readOnlyOps_of_admitted {key : RootKey} {token : AuthToken} {op : String}
    (hkey : s.auth.rootPublicKey = some key)
    (htoken : AuthRequest.token fromBase64 key ⟨authorization, op⟩ = some token)
    (hroles : ∀ role, role ∈ token.facts.roles ↔ role = "read-only")
    (hadmitted : conditionalAuthMiddleware fromBase64 s.auth now ⟨authorization, op⟩ = .ok ()) :
    op ∈ readOnlyOps := by
  have hauth : s.auth = ⟨some key, s.auth.revokedTokens⟩ := by rw [← hkey]
  rw [hauth] at hadmitted
  obtain ⟨token', htoken', hcheck⟩ := conditionalAuthMiddleware_eq_ok_iff.mp hadmitted
  obtain rfl := Option.some.inj (htoken.symm.trans htoken')
  obtain ⟨-, -, hadmin | ⟨-, hop⟩ | ⟨hno, -⟩⟩ := checkToken_eq_ok_iff.mp hcheck
  · exact absurd ((hroles "admin").mp hadmin) (by decide)
  · exact hop
  · exact absurd ((hroles "read-only").mpr rfl) hno

/-- A request that is admitted with a token whose only role is read-only leaves what
is stored as it was if and only if it lists no swap whose time has run out. -/
theorem stored_serve_iff {key : RootKey} {token : AuthToken} {op : Operation}
    (hkey : s.auth.rootPublicKey = some key)
    (htoken : AuthRequest.token fromBase64 key ⟨authorization, op.path⟩ = some token)
    (hroles : ∀ role, role ∈ token.facts.roles ↔ role = "read-only")
    (hadmitted : conditionalAuthMiddleware fromBase64 s.auth now ⟨authorization, op.path⟩ =
      .ok ()) :
    (serve fromBase64 env others now s authorization op).2.stored = s.stored ↔
      ∀ req, op = .read req → NothingDue env now s req := by
  have hop := mem_readOnlyOps_of_admitted hkey htoken hroles hadmitted
  unfold serve
  rw [hadmitted]
  cases op with
  | read req =>
    change (outcome (handle env now req) s).2.stored = s.stored ↔ _
    rw [outcome_snd, stored_after_handle_iff]
    constructor
    · intro h req' hreq
      rwa [← Operation.read.inj hreq]
    · exact fun h => h req rfl
  | rejected path e => exact iff_of_true rfl fun _ h => nomatch h
  | other path hpath => exact absurd hop hpath

theorem readerId_ne_nil : ([1] : List UInt8) ≠ [] := List.cons_ne_nil 1 []

/-- A token with the one role. -/
def readerToken : AuthToken := ⟨⟨["read-only"], []⟩, ⟨[1], [], readerId_ne_nil⟩, []⟩

def readsReaderToken (text : String) (_ : RootKey) : Option AuthToken :=
  if text = "reader" then some readerToken else none

/-- An empty wallet, and a library that answers nothing. -/
def idleEnv : ReadEnv ℕ Unit Unit where
  wallet _ w := (.ok (), w)
  checkIndexerUrl _ := .ok ()
  checkProxyEndpoint _ := .ok ()
  bolt11FromStr _ := .error "invalid"
  invoiceDetails _ := ()
  invoiceExpired _ _ := false
  decodeRgbInvoice _ := .ok ()
  describeChannel _ := .ok ()
  networkInfo := ()
  nodeInfo := ()
  rgbPaymentInfo _ _ := .ok none
  mediaDir := ⟨fun _ => Vector.replicate 32 0, fun text => text, []⟩
  inboundOrder := []
  outboundOrder := []
  takerOrder := [⟨Vector.replicate 32 7⟩]
  makerOrder := []

/-- A taker has accepted a swap that is valid until 200. -/
def takerWithSwap : ServedNode ℕ Unit where
  app := ⟨some (), some (), false⟩
  node := ⟨(Stores.load ∅).addTakerSwap ⟨Vector.replicate 32 7⟩
    (SwapData.createFromSwapInfo ⟨1000, 5, none, some 1, 200⟩ 100), ⟨∅, ∅, []⟩, [], [], []⟩
  disk _ := none
  wallet := ()
  peers := []
  channelPeerData := []
  auth := ⟨some ⟨Vector.replicate 32 5⟩, ∅⟩
  revokedTokensFile := none

theorem readerToken_listswaps : AuthRequest.token readsReaderToken ⟨Vector.replicate 32 5⟩
    ⟨some "Bearer reader", "/listswaps"⟩ = some readerToken := by
  have hbearer : AuthRequest.bearer ⟨some "Bearer reader", "/listswaps"⟩ = some "reader" := by
    decide +kernel
  rw [AuthRequest.token, hbearer]
  rfl

theorem readerToken_roles (role : String) :
    role ∈ readerToken.facts.roles ↔ role = "read-only" := by
  simp [readerToken]

theorem stored_serve_before_expiry :
    (serve readsReaderToken idleEnv (fun _ s => (.ok .done, s)) 150 takerWithSwap
      (some "Bearer reader") (.read .listSwaps)).2.stored = takerWithSwap.stored := by
  refine (stored_serve_iff rfl readerToken_listswaps readerToken_roles (by decide +kernel)).mpr ?_
  intro req h
  obtain rfl := Operation.read.inj h
  intro _
  have hlisted : (iterate takerWithSwap.node.stores.takerSwaps idleEnv.takerOrder).map Prod.snd ++
      (iterate takerWithSwap.node.stores.makerSwaps idleEnv.makerOrder).map Prod.snd =
        [SwapData.createFromSwapInfo ⟨1000, 5, none, some 1, 200⟩ 100] := by decide +kernel
  rw [hlisted]
  refine ⟨?_, fun _ => trivial⟩
  rintro (⟨-, hlate⟩ | ⟨hpending, -⟩)
  · exact absurd hlate (by decide)
  · cases hpending

/-- Listing the swaps after the time of the one that waits writes that it has expired,
in memory and on disk. -/
theorem reader_writes :
    ¬∀ (fromBase64 : String → RootKey → Option AuthToken) (env : ReadEnv ℕ Unit Unit)
      (others : String → ServedNode ℕ Unit →
        Except (Exit APIError) (ReadReply Unit) × ServedNode ℕ Unit)
      (now : Nat) (s : ServedNode ℕ Unit) (authorization : Option String) (op : Operation)
      (key : RootKey) (token : AuthToken), s.auth.rootPublicKey = some key →
      AuthRequest.token fromBase64 key ⟨authorization, op.path⟩ = some token →
      (∀ role, role ∈ token.facts.roles ↔ role = "read-only") →
      conditionalAuthMiddleware fromBase64 s.auth now ⟨authorization, op.path⟩ = .ok () →
      (serve fromBase64 env others now s authorization op).2.stored = s.stored := by
  intro h
  have hsame := h readsReaderToken idleEnv (fun _ s => (.ok .done, s)) 300 takerWithSwap
    (some "Bearer reader") (.read .listSwaps) ⟨Vector.replicate 32 5⟩ readerToken rfl
    readerToken_listswaps readerToken_roles (by decide +kernel)
  have hexpired : (((serve readsReaderToken idleEnv (fun _ s => (.ok .done, s)) 300 takerWithSwap
      (some "Bearer reader") (.read .listSwaps)).2.stored.stores.swap? true
        ⟨Vector.replicate 32 7⟩).map SwapData.status,
      ((Stores.load (serve readsReaderToken idleEnv (fun _ s => (.ok .done, s)) 300 takerWithSwap
        (some "Bearer reader") (.read .listSwaps)).2.stored.stores.fsStore).swap? true
          ⟨Vector.replicate 32 7⟩).map SwapData.status) = (some .expired, some .expired) := by
    decide +kernel
  rw [hsame] at hexpired
  exact absurd hexpired (by decide +kernel)

end ServedNode

end RgbLightningNode
