import RgbLightningNode.Routes.ReadOnly
import RgbLightningNode.Runs.WriteThrough

/-!
# Payments are found for good

The list of payments, the search for one by its hash and the status of an
invoice are three views of the same two maps. Whatever has changed the maps
before, they agree with each other, and a payment that has been listed once is
listed after all that follows, restarts included.
-/

namespace RgbLightningNode

open Fallible

variable {ContractId : Type}

theorem PaymentHash.hex_inj {p q : PaymentHash} : p.hex = q.hex ↔ p = q := by
  refine ⟨fun h => ?_, fun h => h ▸ rfl⟩
  have hbytes := Vector.toList_inj.mp (hexStr_injective h)
  cases p
  cases q
  exact congrArg PaymentHash.mk hbytes

/-- What a payment is listed under. -/
def ListedPayment.key (p : ListedPayment) : String × Bool := (p.paymentHash, p.inbound)

/-- The payment of a list that a hash stands for: the inbound one, and the
outbound one where there is no inbound one. -/
def FoundIn (payments : List ListedPayment) (hash : String) (p : ListedPayment) : Prop :=
  p ∈ payments ∧ p.paymentHash = hash ∧
    (p.inbound = true ∨ ∀ q ∈ payments, q.paymentHash = hash → q.inbound = false)

/-- What an invoice is said to be when its payment is listed with this status. -/
def HTLCStatus.ofInvoice (expired : Bool) : HTLCStatus → InvoiceStatus
  | .pending => if expired then .expired else .pending
  | .succeeded => .succeeded
  | .failed => .failed

/-- The record of a payment in one direction; an outbound one has the hash for
its id. -/
def Stores.paymentRecord (s : Stores ContractId) (paymentHash : PaymentHash) :
    (inbound : Bool) → Option PaymentInfo
  | true => s.inboundPayments.lookup paymentHash
  | false => s.outboundPayments.lookup ⟨paymentHash.bytes⟩

/-! ### What is recorded stays recorded -/

namespace Stores

/-- Every payment that has a record still has one. -/
def KeepsPayments (s s' : Stores ContractId) : Prop :=
  (∀ k ∈ s.inboundPayments, k ∈ s'.inboundPayments) ∧
    ∀ k ∈ s.outboundPayments, k ∈ s'.outboundPayments

variable {s s' s'' : Stores ContractId}

theorem KeepsPayments.refl (s : Stores ContractId) : s.KeepsPayments s :=
  ⟨fun _ => id, fun _ => id⟩

theorem KeepsPayments.trans (h : s.KeepsPayments s') (h' : s'.KeepsPayments s'') :
    s.KeepsPayments s'' :=
  ⟨fun k hk => h'.1 k (h.1 k hk), fun k hk => h'.2 k (h.2 k hk)⟩

theorem KeepsPayments.record (h : s.KeepsPayments s') {paymentHash : PaymentHash}
    {inbound : Bool} {info : PaymentInfo} (hl : s.paymentRecord paymentHash inbound = some info) :
    ∃ info', s'.paymentRecord paymentHash inbound = some info' := by
  cases inbound with
  | true => exact Finmap.mem_iff.mp (h.1 _ (Finmap.mem_of_lookup_eq_some hl))
  | false => exact Finmap.mem_iff.mp (h.2 _ (Finmap.mem_of_lookup_eq_some hl))

theorem keepsPayments_insertInbound (s : Stores ContractId) (k : PaymentHash) (info : PaymentInfo) :
    s.KeepsPayments (s.saveInboundPayments (s.inboundPayments.insert k info)) :=
  ⟨fun _ hk => Finmap.mem_insert.mpr (.inr hk), fun _ => id⟩

theorem keepsPayments_insertOutbound (s : Stores ContractId) (k : PaymentId) (info : PaymentInfo) :
    s.KeepsPayments (s.saveOutboundPayments (s.outboundPayments.insert k info)) :=
  ⟨fun _ => id, fun _ hk => Finmap.mem_insert.mpr (.inr hk)⟩

/-- The sweep at the start marks records and takes none away. -/
theorem keepsPayments_failOutboundPendingPayments (order recent : List PaymentId)
    (now : PaymentId → Nat) (s : Stores ContractId) :
    s.KeepsPayments (s.failOutboundPendingPayments order recent now) := by
  refine ⟨fun k hk => ?_, fun k hk => ?_⟩
  · obtain heq | ⟨payments, heq⟩ := failOutboundPendingPayments_eq order recent now s
    · rwa [heq]
    · rwa [heq]
  · obtain ⟨info, hl⟩ := Finmap.mem_iff.mp hk
    rw [Finmap.mem_iff, outboundPayments_failOutboundPendingPayments]
    obtain hsame | ⟨info', -, -, -, hfailed⟩ :=
      lookup_failPending recent now order s.outboundPayments false k
    · exact ⟨info, hsame.trans hl⟩
    · exact ⟨_, hfailed⟩

theorem WriteThrough.keepsPayments_step (h : s.WriteThrough) (op : StoreOp ContractId) :
    s.KeepsPayments (Stores.step s op).2 := by
  cases op with
  | addMakerSwap | addTakerSwap | addChannelId => exact ⟨fun _ => id, fun _ => id⟩
  | updateMakerSwapStatus =>
    refine after_of_unchanged (.refl s) (fun _ s' hx => ?_) fun _ _ hx =>
      updateMakerSwapStatus_error hx
    obtain ⟨swap, -, -, rfl⟩ := updateMakerSwapStatus_eq_ok_iff.mp hx
    exact ⟨fun _ => id, fun _ => id⟩
  | updateTakerSwapStatus =>
    refine after_of_unchanged (.refl s) (fun _ s' hx => ?_) fun _ _ hx =>
      updateTakerSwapStatus_error hx
    obtain ⟨swap, -, -, rfl⟩ := updateTakerSwapStatus_eq_ok_iff.mp hx
    exact ⟨fun _ => id, fun _ => id⟩
  | addInboundPayment => exact keepsPayments_insertInbound _ _ _
  | upsertInboundPayment paymentHash =>
    simp only [Stores.step, upsertInboundPayment]
    split <;> exact keepsPayments_insertInbound _ _ _
  | addOutboundPayment =>
    refine after_of_unchanged (.refl s) (fun _ s' hx => ?_) fun _ _ hx =>
      addOutboundPayment_error hx
    obtain ⟨-, rfl⟩ := addOutboundPayment_eq_ok_iff.mp hx
    exact keepsPayments_insertOutbound _ _ _
  | updateOutboundPayment =>
    refine after_of_unchanged (.refl s) (fun _ s' hx => ?_) fun _ _ hx =>
      updateOutboundPayment_error hx
    obtain ⟨info, -, -, rfl⟩ := updateOutboundPayment_eq_ok_iff.mp hx
    exact keepsPayments_insertOutbound _ _ _
  | updateOutboundPaymentStatus =>
    refine after_of_unchanged (.refl s) (fun _ s' hx => ?_) fun _ _ hx =>
      updateOutboundPaymentStatus_error hx
    obtain ⟨info, -, rfl⟩ := updateOutboundPaymentStatus_eq_ok_iff.mp hx
    exact keepsPayments_insertOutbound _ _ _
  | failOutboundPendingPayments => exact keepsPayments_failOutboundPendingPayments _ _ _ _
  | deleteChannelId order channelId =>
    simp only [Stores.step, deleteChannelId]
    split <;> exact ⟨fun _ => id, fun _ => id⟩
  | restart =>
    -- what is loaded is what was written
    simp only [Stores.step, h.load_eq]
    exact .refl s

theorem WriteThrough.keepsPayments_run (h : s.WriteThrough) (ops : List (StoreOp ContractId)) :
    s.KeepsPayments (Mealy.final Stores.step s ops) := by
  have hrun : (Mealy.final Stores.step s ops).WriteThrough ∧
      s.KeepsPayments (Mealy.final Stores.step s ops) :=
    Mealy.invariant_final (I := fun t => t.WriteThrough ∧ s.KeepsPayments t)
      (C := fun _ _ => True)
      (fun _ op h _ => ⟨h.1.step op, h.2.trans (h.1.keepsPayments_step op)⟩) ⟨h, .refl s⟩
      (Mealy.along_of_forall (fun _ _ => trivial) _)
  exact hrun.2

end Stores

/-! ### The views agree -/

namespace ReadEnv

variable {Answer Wallet : Type} [ContractIdText ContractId]

/-- The two maps are iterated in the orders of the environment: every payment
comes, and comes once. -/
structure Iterates (env : ReadEnv ContractId Answer Wallet) (s : Stores ContractId) : Prop where
  inbound_nodup : env.inboundOrder.Nodup
  mem_inbound : ∀ k, k ∈ env.inboundOrder ↔ k ∈ s.inboundPayments
  outbound_nodup : env.outboundOrder.Nodup
  mem_outbound : ∀ k, k ∈ env.outboundOrder ↔ k ∈ s.outboundPayments

variable {env : ReadEnv ContractId Answer Wallet} {s : Stores ContractId}
  {payments : List ListedPayment} {p : ListedPayment} {text : String}

/-- A payment is listed under its hash and direction, with the status it has. -/
theorem key_of_listPayment {paymentHash : PaymentHash} {inbound : Bool} {info : PaymentInfo}
    (h : env.listPayment paymentHash inbound info = .ok p) :
    p.key = (paymentHash.hex, inbound) ∧ p.status = info.status := by
  obtain ⟨rgbInfo, -, h⟩ := except_bind_eq_ok_iff.mp h
  obtain rfl := Except.ok.inj h
  exact ⟨rfl, rfl⟩

/-- What is listed: every record, as the payment-info files describe it. -/
theorem mem_listPayments (hi : env.Iterates s) (h : env.listPayments s = .ok payments) :
    p ∈ payments ↔ ∃ paymentHash inbound info,
      s.paymentRecord paymentHash inbound = some info ∧
        env.listPayment paymentHash inbound info = .ok p := by
  obtain ⟨listedIn, hin, h⟩ := except_bind_eq_ok_iff.mp h
  obtain ⟨listedOut, hout, h⟩ := except_bind_eq_ok_iff.mp h
  obtain rfl := Except.ok.inj h
  rw [List.mem_append, mem_iff_of_mapM hin, mem_iff_of_mapM hout]
  simp only [Prod.exists, mem_iterate hi.mem_inbound, mem_iterate hi.mem_outbound]
  constructor
  · rintro (⟨paymentHash, info, hl, hp⟩ | ⟨paymentId, info, hl, hp⟩)
    · exact ⟨paymentHash, true, info, hl, hp⟩
    · exact ⟨⟨paymentId.bytes⟩, false, info, hl, hp⟩
  · rintro ⟨paymentHash, inbound, info, hl, hp⟩
    cases inbound with
    | true => exact .inl ⟨paymentHash, info, hl, hp⟩
    | false => exact .inr ⟨⟨paymentHash.bytes⟩, info, hl, hp⟩

/-- A payment that is listed has the record it is listed from. -/
theorem record_of_listed (hi : env.Iterates s) (h : env.listPayments s = .ok payments)
    (hp : p ∈ payments) {paymentHash : PaymentHash} (hhash : p.paymentHash = paymentHash.hex) :
    ∃ info, s.paymentRecord paymentHash p.inbound = some info ∧
      env.listPayment paymentHash p.inbound info = .ok p := by
  obtain ⟨other, inbound, info, hl, hlist⟩ := (mem_listPayments hi h).mp hp
  obtain ⟨hhex, rfl⟩ := Prod.mk.inj (key_of_listPayment hlist).1
  obtain rfl := PaymentHash.hex_inj.mp (hhash.symm.trans hhex)
  exact ⟨info, hl, hlist⟩

/-- A list that has been answered has every record on it. -/
theorem listed_of_record (hi : env.Iterates s) (h : env.listPayments s = .ok payments)
    {paymentHash : PaymentHash} {inbound : Bool} {info : PaymentInfo}
    (hl : s.paymentRecord paymentHash inbound = some info) :
    ∃ p ∈ payments, env.listPayment paymentHash inbound info = .ok p := by
  obtain ⟨listedIn, hin, hrest⟩ := except_bind_eq_ok_iff.mp h
  obtain ⟨listedOut, hout, -⟩ := except_bind_eq_ok_iff.mp hrest
  cases inbound with
  | true =>
    obtain ⟨p, hp⟩ := mapM_eq_ok hin _ ((mem_iterate hi.mem_inbound).mpr hl)
    exact ⟨p, (mem_listPayments hi h).mpr ⟨paymentHash, true, info, hl, hp⟩, hp⟩
  | false =>
    obtain ⟨p, hp⟩ := mapM_eq_ok hout _ ((mem_iterate hi.mem_outbound).mpr hl)
    exact ⟨p, (mem_listPayments hi h).mpr ⟨paymentHash, false, info, hl, hp⟩, hp⟩

/-- The hashes a direction lists its payments under. -/
theorem keys_of_mapM {K : Type} (hashOf : K → PaymentHash) {inbound : Bool}
    {entries : List (K × PaymentInfo)}
    (h : (entries.mapM fun e => env.listPayment (hashOf e.1) inbound e.2) = .ok payments) :
    payments.map ListedPayment.key =
      (entries.map Prod.fst).map fun k => ((hashOf k).hex, inbound) := by
  have hall := forall₂_of_mapM h
  clear h
  induction hall with
  | nil => rfl
  | cons hp _ ih => rw [List.map_cons, (key_of_listPayment hp).1, ih, List.map_cons, List.map_cons]

/-- No payment is listed twice. -/
theorem nodup_listPayments (hi : env.Iterates s) (h : env.listPayments s = .ok payments) :
    (payments.map ListedPayment.key).Nodup := by
  obtain ⟨listedIn, hin, h⟩ := except_bind_eq_ok_iff.mp h
  obtain ⟨listedOut, hout, h⟩ := except_bind_eq_ok_iff.mp h
  obtain rfl := Except.ok.inj h
  rw [List.map_append, keys_of_mapM id hin,
    keys_of_mapM (fun id : PaymentId => ⟨id.bytes⟩) hout, keys_iterate hi.mem_inbound,
    keys_iterate hi.mem_outbound]
  refine List.Nodup.append (hi.inbound_nodup.map ?_) (hi.outbound_nodup.map ?_) ?_
  · intro k k' hk
    exact PaymentHash.hex_inj.mp (congrArg Prod.fst hk)
  · intro k k' hk
    have hbytes := PaymentHash.hex_inj.mp (congrArg Prod.fst hk)
    cases k
    cases k'
    exact congrArg PaymentId.mk (PaymentHash.mk.inj hbytes)
  -- the two directions differ in the second component
  · intro key hkey hkey'
    obtain ⟨k, -, rfl⟩ := List.mem_map.mp hkey
    obtain ⟨k', -, hk'⟩ := List.mem_map.mp hkey'
    cases congrArg Prod.snd hk'

/-- The search takes the inbound record, and the outbound one where there is none. -/
theorem getPayment_eq (env : ReadEnv ContractId Answer Wallet) (text : String)
    (s : Stores ContractId) : env.getPayment text s =
      (parsePaymentHash text >>= fun requestedPh =>
        match s.paymentRecord requestedPh true with
        | some info => env.listPayment requestedPh true info
        | none =>
          match s.paymentRecord requestedPh false with
          | some info => env.listPayment requestedPh false info
          | none => .error (.err (.paymentNotFound text))) := rfl

/-- The search returns a payment for a hash if and only if the list has it under the hash. -/
theorem getPayment_eq_ok_iff (hi : env.Iterates s) (h : env.listPayments s = .ok payments) :
    env.getPayment text s = .ok p ↔
      ∃ requestedPh, parsePaymentHash text = .ok requestedPh ∧
        FoundIn payments requestedPh.hex p := by
  rw [getPayment_eq, except_bind_eq_ok_iff]
  refine exists_congr fun requestedPh => and_congr_right fun _ => ?_
  constructor
  · intro hget
    cases hin : s.paymentRecord requestedPh true with
    | some info =>
      simp only [hin] at hget
      obtain ⟨hhash, hdir⟩ := Prod.mk.inj (key_of_listPayment hget).1
      exact ⟨(mem_listPayments hi h).mpr ⟨_, _, _, hin, hget⟩, hhash, .inl hdir⟩
    | none =>
      cases hout : s.paymentRecord requestedPh false with
      | none =>
        simp only [hin, hout] at hget
        cases hget
      | some info =>
        simp only [hin, hout] at hget
        obtain ⟨hhash, -⟩ := Prod.mk.inj (key_of_listPayment hget).1
        refine ⟨(mem_listPayments hi h).mpr ⟨_, _, _, hout, hget⟩, hhash, .inr ?_⟩
        intro q hq hqhash
        obtain ⟨info', hl, -⟩ := record_of_listed hi h hq hqhash
        by_contra hne
        rw [Bool.not_eq_false] at hne
        rw [hne, hin] at hl
        cases hl
  · rintro ⟨hp, hhash, hfirst⟩
    obtain ⟨info, hl, hlist⟩ := record_of_listed hi h hp hhash
    cases hdir : p.inbound with
    | true =>
      rw [hdir] at hl hlist
      simp only [hl, hlist]
    | false =>
      -- an inbound record of the hash would be on the list
      have hin : s.paymentRecord requestedPh true = none := by
        by_contra hsome
        obtain ⟨info', hl'⟩ := Option.ne_none_iff_exists'.mp hsome
        obtain ⟨q, hq, hqlist⟩ := listed_of_record hi h hl'
        obtain ⟨hqhash, hqdir⟩ := Prod.mk.inj (key_of_listPayment hqlist).1
        have hnot := hfirst.resolve_left (by simp [hdir]) q hq hqhash
        rw [hqdir] at hnot
        cases hnot
      rw [hdir] at hl hlist
      simp only [hin, hl, hlist]

/-- The search answers that there is no payment if and only if none is listed under the hash. -/
theorem getPayment_notFound_iff (hi : env.Iterates s) (h : env.listPayments s = .ok payments) :
    env.getPayment text s = .error (.err (.paymentNotFound text)) ↔
      ∃ requestedPh, parsePaymentHash text = .ok requestedPh ∧
        ∀ p ∈ payments, p.paymentHash ≠ requestedPh.hex := by
  have hlisted : ∀ {requestedPh inbound info}, s.paymentRecord requestedPh inbound = some info →
      ∃ p ∈ payments, p.paymentHash = requestedPh.hex ∧
        env.listPayment requestedPh inbound info = .ok p := by
    intro requestedPh inbound info hl
    obtain ⟨p, hp, hlist⟩ := listed_of_record hi h hl
    exact ⟨p, hp, congrArg Prod.fst (key_of_listPayment hlist).1, hlist⟩
  rw [getPayment_eq, except_bind_eq_error_iff]
  constructor
  · rintro (hparse | ⟨requestedPh, hparse, hget⟩)
    · rw [parsePaymentHash] at hparse
      split at hparse <;> cases hparse
    · refine ⟨requestedPh, hparse, fun p hp hhash => ?_⟩
      obtain ⟨info, hl, hlist⟩ := record_of_listed hi h hp hhash
      cases hin : s.paymentRecord requestedPh true with
      | some info' =>
        obtain ⟨q, -, -, hq⟩ := hlisted hin
        simp only [hin, hq] at hget
        cases hget
      | none =>
        cases hdir : p.inbound with
        | true =>
          rw [hdir, hin] at hl
          cases hl
        | false =>
          rw [hdir] at hl hlist
          simp only [hin, hl, hlist] at hget
          cases hget
  · rintro ⟨requestedPh, hparse, hnone⟩
    have hnot : ∀ inbound, s.paymentRecord requestedPh inbound = none := by
      intro inbound
      by_contra hsome
      obtain ⟨info, hl⟩ := Option.ne_none_iff_exists'.mp hsome
      obtain ⟨p, hp, hhash, -⟩ := hlisted hl
      exact hnone p hp hhash
    exact .inr ⟨requestedPh, hparse, by simp only [hnot]⟩

/-- The status of an invoice is the one its payment is listed with. -/
theorem invoiceStatus_eq_ok_iff (hi : env.Iterates s) (h : env.listPayments s = .ok payments)
    {now : Nat} {status : InvoiceStatus} :
    env.invoiceStatus now text s = .ok status ↔
      ∃ invoice, env.bolt11FromStr text = .ok invoice ∧
        ∃ p ∈ payments, p.key = (invoice.paymentHash.hex, true) ∧
          status = p.status.ofInvoice (env.invoiceExpired invoice now) := by
  rw [invoiceStatus]
  cases hparse : env.bolt11FromStr text with
  | error e => simp
  | ok invoice =>
    have hstatus : (∃ p ∈ payments, p.key = (invoice.paymentHash.hex, true) ∧
        status = p.status.ofInvoice (env.invoiceExpired invoice now)) ↔
        ∃ info, s.inboundPayments.lookup invoice.paymentHash = some info ∧
          status = info.status.ofInvoice (env.invoiceExpired invoice now) := by
      constructor
      · rintro ⟨p, hp, hkey, rfl⟩
        obtain ⟨hhash, hdir⟩ := Prod.mk.inj hkey
        obtain ⟨info, hl, hlist⟩ := record_of_listed hi h hp hhash
        rw [hdir] at hl
        exact ⟨info, hl, by rw [(key_of_listPayment hlist).2]⟩
      · rintro ⟨info, hl, rfl⟩
        have hrecord : s.paymentRecord invoice.paymentHash true = some info := hl
        obtain ⟨p, hp, hlist⟩ := listed_of_record hi h hrecord
        obtain ⟨hkey, hsame⟩ := key_of_listPayment hlist
        exact ⟨p, hp, hkey, by rw [hsame]⟩
    simp only [Except.ok.injEq, exists_eq_left']
    rw [hstatus]
    cases s.inboundPayments.lookup invoice.paymentHash with
    | none => simp
    | some info =>
      cases hs : info.status <;> simp [hs, HTLCStatus.ofInvoice, eq_comm (a := status)]

end ReadEnv

/-! ### The views over time -/

variable {Answer Wallet : Type} [ContractIdText ContractId]

/-- The views agree with the list of payments: no payment is listed twice, the
search finds under a hash exactly what is listed there, and an invoice has the
status its payment is listed with. -/
structure ReadEnv.ViewsAgree (env : ReadEnv ContractId Answer Wallet) (s : Stores ContractId)
    (payments : List ListedPayment) : Prop where
  once : (payments.map ListedPayment.key).Nodup
  getPayment : ∀ text p, env.getPayment text s = .ok p ↔
    ∃ requestedPh, parsePaymentHash text = .ok requestedPh ∧ FoundIn payments requestedPh.hex p
  notFound : ∀ text, env.getPayment text s = .error (.err (.paymentNotFound text)) ↔
    ∃ requestedPh, parsePaymentHash text = .ok requestedPh ∧
      ∀ p ∈ payments, p.paymentHash ≠ requestedPh.hex
  invoiceStatus : ∀ now text status, env.invoiceStatus now text s = .ok status ↔
    ∃ invoice, env.bolt11FromStr text = .ok invoice ∧
      ∃ p ∈ payments, p.key = (invoice.paymentHash.hex, true) ∧
        status = p.status.ofInvoice (env.invoiceExpired invoice now)

open Stores in
/-- At any point of any run the views agree, and what is listed there stays
listed, whatever follows. -/
theorem payments_found_for_good {fs : HashMap String (Persisted ContractId)}
    {ops later : List (StoreOp ContractId)} {s s' : Stores ContractId}
    {env env' : ReadEnv ContractId Answer Wallet} {payments payments' : List ListedPayment}
    (hfs : Written fs) (hs : Mealy.final Stores.step (load fs) ops = s)
    (hs' : Mealy.final Stores.step s later = s') (hi : env.Iterates s) (hi' : env'.Iterates s')
    (h : env.listPayments s = .ok payments) (h' : env'.listPayments s' = .ok payments') :
    env.ViewsAgree s payments ∧ ∀ p ∈ payments, ∃ q ∈ payments', q.key = p.key := by
  refine ⟨⟨ReadEnv.nodup_listPayments hi h, fun _ _ => ReadEnv.getPayment_eq_ok_iff hi h,
    fun _ => ReadEnv.getPayment_notFound_iff hi h,
    fun _ _ _ => ReadEnv.invoiceStatus_eq_ok_iff hi h⟩, fun p hp => ?_⟩
  have hwritten : s.WriteThrough := hs ▸ (writeThrough_run hfs ops).1
  have hkeeps : s.KeepsPayments s' := hs' ▸ hwritten.keepsPayments_run later
  obtain ⟨paymentHash, inbound, info, hl, hlist⟩ := (ReadEnv.mem_listPayments hi h).mp hp
  obtain ⟨info', hl'⟩ := hkeeps.record hl
  obtain ⟨q, hq, hqlist⟩ := ReadEnv.listed_of_record hi' h' hl'
  exact ⟨q, hq, (ReadEnv.key_of_listPayment hqlist).1.trans
    (ReadEnv.key_of_listPayment hlist).1.symm⟩

/-- A library that knows no invoice, and payments that move no tokens, all
under one hash. -/
def oneHashEnv : ReadEnv ℕ Unit Unit where
  wallet _ w := (.ok (), w)
  checkIndexerUrl _ := .ok ()
  checkProxyEndpoint _ := .ok ()
  bolt11FromStr _ := .error "invalid"
  invoiceDetails _ := ()
  invoiceExpired _ _ := false
  decodeRgbInvoice _ := .ok ()
  describeChannel _ := .ok ()
  networkInfo := ()
  nodeInfo := ()
  rgbPaymentInfo _ _ := .ok none
  mediaDir := ⟨fun _ => Vector.replicate 32 0, fun text => text, []⟩
  inboundOrder := [⟨Vector.replicate 32 7⟩]
  outboundOrder := [⟨Vector.replicate 32 7⟩]
  takerOrder := []
  makerOrder := []

def pendingInfo : PaymentInfo :=
  ⟨none, none, .pending, some 3000, 100, 100, ⟨Vector.replicate 33 2⟩⟩

/-- A payment is sent and an invoice issued under the hash. -/
def bothWays : List (StoreOp ℕ) :=
  [.addOutboundPayment ⟨Vector.replicate 32 7⟩ pendingInfo,
    .addInboundPayment ⟨Vector.replicate 32 7⟩ pendingInfo]

/-- The payment is made, and the node starts again. -/
def paidAndRestarted : List (StoreOp ℕ) :=
  [.updateOutboundPayment ⟨Vector.replicate 32 7⟩ .succeeded none 110, .restart]

def bothListed : List ListedPayment :=
  [pendingInfo.listed (none : Option (UInt64 × ℕ)) ⟨Vector.replicate 32 7⟩ true,
    pendingInfo.listed (none : Option (UInt64 × ℕ)) ⟨Vector.replicate 32 7⟩ false]

theorem mem_insert_empty {K V : Type} [DecidableEq K] {k a : K} {v : V} :
    k ∈ (∅ : HashMap K V).insert a v ↔ k = a := by
  rw [Finmap.mem_insert, or_iff_left Finmap.notMem_empty]

theorem iterates_bothWays :
    oneHashEnv.Iterates (Mealy.final Stores.step (Stores.load ∅) bothWays) where
  inbound_nodup := List.nodup_singleton _
  mem_inbound _ := List.mem_singleton.trans mem_insert_empty.symm
  outbound_nodup := List.nodup_singleton _
  mem_outbound _ := List.mem_singleton.trans mem_insert_empty.symm

theorem iterates_paidAndRestarted :
    oneHashEnv.Iterates (Mealy.final Stores.step
      (Mealy.final Stores.step (Stores.load ∅) bothWays) paidAndRestarted) where
  inbound_nodup := List.nodup_singleton _
  mem_inbound _ := List.mem_singleton.trans mem_insert_empty.symm
  outbound_nodup := List.nodup_singleton _
  mem_outbound _ := List.mem_singleton.trans
    ((Finmap.mem_insert.trans (or_congr_right mem_insert_empty)).trans or_self_iff).symm

theorem bothListed_after_restart :
    oneHashEnv.ViewsAgree (Mealy.final Stores.step (Stores.load ∅) bothWays) bothListed ∧
      ∀ p ∈ bothListed, ∃ q ∈ [pendingInfo.listed (none : Option (UInt64 × ℕ))
          ⟨Vector.replicate 32 7⟩ true,
        PaymentInfo.listed (none : Option (UInt64 × ℕ)) ⟨Vector.replicate 32 7⟩ false
          { pendingInfo with status := .succeeded, updatedAt := 110 }], q.key = p.key :=
  payments_found_for_good Stores.written_empty rfl rfl iterates_bothWays iterates_paidAndRestarted
    rfl rfl

end RgbLightningNode
