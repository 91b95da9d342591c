import RgbLightningNode.Channels.OutputSpender

/-!
# What a sweep moves

The sweeper adds up, contract by contract, the tokens of the outputs of closed
channels. Each contract gets one more output of the transaction, to a recipient of
its own.
-/

namespace RgbLightningNode

open Fallible

variable {D ContractId P Tx : Type}

/-- The transfer info of the output's transaction, if it speaks of tokens. -/
def SweepIo.tokens (io : SweepIo D ContractId P Tx) (descriptor : SpendableOutputDescriptor D) :
    List (RgbTransferInfo ContractId) :=
  match io.readRgbTransferInfo s!"{descriptor.outpoint.txid}_transfer_info" with
  | some (.ok info) => if info.rgbAmount = 0 then [] else [info]
  | _ => []

/-- The transfer infos of a list of outputs. Outputs of one transaction each bring its
transfer info once more. -/
def SweepIo.carried (io : SweepIo D ContractId P Tx)
    (descriptors : List (SpendableOutputDescriptor D)) : List (RgbTransferInfo ContractId) :=
  descriptors.flatMap io.tokens

variable [DecidableEq ContractId]

/-- How many tokens of the contract the transfer infos speak of. -/
def tokensOf (contractId : ContractId) (infos : List (RgbTransferInfo ContractId)) : Nat :=
  ((infos.filter fun info => info.contractId = contractId).map
    fun info => info.rgbAmount.toNat).sum

theorem tokensOf_concat_self (info : RgbTransferInfo ContractId)
    (infos : List (RgbTransferInfo ContractId)) :
    tokensOf info.contractId (infos ++ [info]) =
      tokensOf info.contractId infos + info.rgbAmount.toNat := by
  simp [tokensOf]

theorem tokensOf_concat_of_ne {contractId : ContractId} {info : RgbTransferInfo ContractId}
    (h : info.contractId ≠ contractId) (infos : List (RgbTransferInfo ContractId)) :
    tokensOf contractId (infos ++ [info]) = tokensOf contractId infos := by
  simp [tokensOf, h]

theorem tokensOf_eq_zero {contractId : ContractId} {infos : List (RgbTransferInfo ContractId)}
    (h : contractId ∉ infos.map RgbTransferInfo.contractId) : tokensOf contractId infos = 0 := by
  have hnone : infos.filter (fun info => info.contractId = contractId) = [] := by
    refine List.filter_eq_nil_iff.mpr fun info hinfo => ?_
    rw [decide_eq_true_eq]
    rintro rfl
    exact h (List.mem_map_of_mem hinfo)
  rw [tokensOf, hnone]
  rfl

namespace SweepPlan

variable (overflowChecks : Bool) (proxyEndpoint : String)

/-- The plan moves exactly the tokens that the transfer infos speak of: one output for
each contract, behind the outputs asked for and in the order of the plan, with the
whole amount for a recipient of its own. The indices start at 0 whatever outputs were
asked for. -/
structure Accounts (io : SweepIo D ContractId P Tx) (outputs : List TxOut)
    (infos : List (RgbTransferInfo ContractId)) (plan : SweepPlan ContractId) : Prop where
  vanilla : plan.vanillaDescriptor = infos.isEmpty
  once : (plan.assetInfo.map SweptAsset.contractId).Nodup
  contracts : ∀ contractId, contractId ∈ plan.assetInfo.map SweptAsset.contractId ↔
    contractId ∈ infos.map RgbTransferInfo.contractId
  vouts : plan.assetInfo.map SweptAsset.vout =
    (List.range plan.assetInfo.length).map (· % 2 ^ 32)
  vout : MachineInt.Holds 32 overflowChecks plan.assetInfo.length plan.vout
  amounts : ∀ asset ∈ plan.assetInfo,
    MachineInt.Holds 64 overflowChecks (tokensOf asset.contractId infos) asset.amtRgb
  paid : ∃ scripts : List ScriptBuf,
    plan.assetInfo.map (fun asset => io.scriptBufFromRecipientId asset.recipientId) =
        scripts.map some ∧
      plan.txouts = outputs ++ scripts.map fun script => ⟨dustLimitMsat / 1000, script⟩

/-- The tokens of each contract go to the output of their own recipient. -/
def PaysRecipients (io : SweepIo D ContractId P Tx) (plan : SweepPlan ContractId) : Prop :=
  ∀ asset ∈ plan.assetInfo, ∃ script, io.scriptBufFromRecipientId asset.recipientId = some script ∧
    plan.txouts[asset.vout]? = some ⟨dustLimitMsat / 1000, script⟩

variable {overflowChecks proxyEndpoint} {io : SweepIo D ContractId P Tx}
  {wallet : SweepWallet ContractId P} {outputs : List TxOut} {txid : String}
  {infos : List (RgbTransferInfo ContractId)} {info : RgbTransferInfo ContractId}
  {plan plan' : SweepPlan ContractId} {asset : SweptAsset ContractId}

theorem accounts_start (io : SweepIo D ContractId P Tx) (outputs : List TxOut) :
    Accounts overflowChecks io outputs [] ⟨0, true, outputs, []⟩ where
  vanilla := rfl
  once := List.nodup_nil
  contracts _ := Iff.rfl
  vouts := rfl
  vout := MachineInt.holds_of_lt (Nat.two_pow_pos 32)
  amounts := List.forall_mem_nil _
  paid := ⟨[], rfl, (List.append_nil _).symm⟩

omit [DecidableEq ContractId] in
theorem isEmpty_concat (infos : List (RgbTransferInfo ContractId))
    (info : RgbTransferInfo ContractId) : (infos ++ [info]).isEmpty = false := by
  simp

/-! ### One more transfer info -/

theorem find_eq_some {contractId : ContractId} (h : plan.find contractId = some asset) :
    asset ∈ plan.assetInfo ∧ asset.contractId = contractId := by
  refine ⟨List.mem_of_find?_eq_some h, ?_⟩
  simpa using List.find?_some h

theorem find_eq_none_iff {contractId : ContractId} :
    plan.find contractId = none ↔ contractId ∉ plan.assetInfo.map SweptAsset.contractId := by
  rw [find, List.find?_eq_none]
  simp

/-- A contract that the plan knows already gets more tokens, and nothing else changes. -/
theorem Accounts.addAmount (h : Accounts overflowChecks io outputs infos plan)
    (hfind : plan.find info.contractId = some asset)
    (hadd : SweepPlan.addAmount overflowChecks info asset { plan with vanillaDescriptor := false } =
      .ok plan') : Accounts overflowChecks io outputs (infos ++ [info]) plan' := by
  obtain ⟨hmem, hasset⟩ := find_eq_some hfind
  obtain ⟨amtRgb, hamt, hplan⟩ := except_bind_eq_ok_iff.mp hadd
  obtain rfl := Except.ok.inj hplan
  -- whatever is read of the assets besides the amount stays
  have hsame : ∀ {β : Type} (f : SweptAsset ContractId → β)
      (_ : ∀ (other : SweptAsset ContractId) (amt : Nat), f { other with amtRgb := amt } = f other),
      (plan.assetInfo.map fun other =>
        if other.contractId = info.contractId then { other with amtRgb := amtRgb }
        else other).map f = plan.assetInfo.map f := by
    intro β f hf
    rw [List.map_map]
    refine List.map_congr_left fun other _ => ?_
    simp only [Function.comp]
    split
    · exact hf other amtRgb
    · rfl
  refine ⟨(isEmpty_concat infos info).symm, ?_, fun contractId => ?_, ?_, ?_, ?_, ?_⟩
  · rw [hsame _ fun _ _ => rfl]
    exact h.once
  · rw [hsame _ fun _ _ => rfl, h.contracts, List.map_append, List.mem_append]
    refine (or_iff_left_of_imp fun hc => ?_).symm
    obtain rfl : contractId = info.contractId := by simpa using hc
    exact (h.contracts _).mp (hasset ▸ List.mem_map_of_mem hmem)
  · rw [hsame _ fun _ _ => rfl, List.length_map]
    exact h.vouts
  · rw [List.length_map]
    exact h.vout
  · intro other hother
    obtain ⟨old, hold, rfl⟩ := List.mem_map.mp hother
    split
    · rename_i hc
      have hheld := h.amounts asset hmem
      rw [hasset] at hheld
      simp only [hc, tokensOf_concat_self]
      exact hheld.add hamt
    · rename_i hc
      rw [tokensOf_concat_of_ne fun he => hc he.symm]
      exact h.amounts old hold
  · rw [hsame _ fun _ _ => rfl]
    exact h.paid

/-- A contract that is new to the plan gets an output of its own. -/
theorem Accounts.addAsset (h : Accounts overflowChecks io outputs infos plan)
    (hfind : plan.find info.contractId = none)
    (hadd : SweepPlan.addAsset overflowChecks proxyEndpoint io wallet info
      { plan with vanillaDescriptor := false } = .ok plan') :
    Accounts overflowChecks io outputs (infos ++ [info]) plan' := by
  have hnew : info.contractId ∉ plan.assetInfo.map SweptAsset.contractId :=
    find_eq_none_iff.mp hfind
  obtain ⟨recipientId, -, hadd⟩ := except_bind_eq_ok_iff.mp hadd
  obtain ⟨script, hscript, hadd⟩ := except_bind_eq_ok_iff.mp hadd
  obtain ⟨vout, hvout, hplan⟩ := except_bind_eq_ok_iff.mp hadd
  obtain rfl := Except.ok.inj hplan
  refine ⟨(isEmpty_concat infos info).symm, ?_, fun contractId => ?_, ?_, ?_, ?_, ?_⟩
  · rw [List.map_append, List.map_singleton]
    exact List.Nodup.append h.once (List.nodup_singleton _) (by simpa using hnew)
  · simp only [List.map_append, List.mem_append, h.contracts]
    rfl
  · simp only [List.map_append, List.length_append, List.length_singleton, List.range_succ,
      h.vouts]
    rw [List.map_singleton, List.map_singleton, h.vout.1]
  · rw [List.length_append]
    exact h.vout.add hvout
  · intro other hother
    rcases List.mem_append.mp hother with hold | hlast
    · have hne : info.contractId ≠ other.contractId := fun he =>
        hnew (he ▸ List.mem_map_of_mem hold)
      rw [tokensOf_concat_of_ne hne]
      exact h.amounts other hold
    · obtain rfl := List.mem_singleton.mp hlast
      have hzero : tokensOf info.contractId infos = 0 :=
        tokensOf_eq_zero fun hc => hnew ((h.contracts _).mpr hc)
      rw [tokensOf_concat_self, hzero, Nat.zero_add]
      exact MachineInt.holds_of_lt info.rgbAmount.toNat_lt
  · obtain ⟨scripts, hscripts, htxouts⟩ := h.paid
    refine ⟨scripts ++ [script], ?_, ?_⟩
    · rw [List.map_append, List.map_append, hscripts, List.map_singleton, List.map_singleton,
        orPanic_eq_ok_iff.mp hscript]
    · simp only [htxouts, List.map_append, List.append_assoc]
      rfl

theorem Accounts.addColored (h : Accounts overflowChecks io outputs infos plan)
    (hadd : plan.addColored overflowChecks proxyEndpoint io wallet txid info = .ok plan') :
    Accounts overflowChecks io outputs (infos ++ [info]) plan' := by
  obtain ⟨_, -, hadd⟩ := except_bind_eq_ok_iff.mp hadd
  obtain ⟨closingHeight, -, hadd⟩ := except_bind_eq_ok_iff.mp hadd
  obtain ⟨failed, -, hadd⟩ := except_bind_eq_ok_iff.mp hadd
  split at hadd
  · cases hadd
  · split at hadd
    · rename_i hfind
      exact h.addAmount hfind hadd
    · rename_i hfind
      exact h.addAsset hfind hadd

theorem Accounts.addDescriptor {descriptor : SpendableOutputDescriptor D}
    (h : Accounts overflowChecks io outputs infos plan)
    (hadd : plan.addDescriptor overflowChecks proxyEndpoint io wallet descriptor = .ok plan') :
    Accounts overflowChecks io outputs (infos ++ io.tokens descriptor) plan' := by
  unfold SweepPlan.addDescriptor at hadd
  unfold SweepIo.tokens
  cases hfound : io.readRgbTransferInfo s!"{descriptor.outpoint.txid}_transfer_info" with
  | none =>
    simp only [hfound] at hadd ⊢
    obtain rfl := Except.ok.inj hadd
    rwa [List.append_nil]
  | some found =>
    cases found with
    | error message =>
      simp only [hfound] at hadd
      cases hadd
    | ok info =>
      simp only [hfound] at hadd ⊢
      by_cases hzero : info.rgbAmount = 0
      · rw [if_pos hzero] at hadd ⊢
        obtain rfl := Except.ok.inj hadd
        rwa [List.append_nil]
      · rw [if_neg hzero] at hadd ⊢
        exact h.addColored hadd

/-- The outputs of a sweep, one after another. -/
theorem Accounts.foldlM {descriptors : List (SpendableOutputDescriptor D)}
    (h : Accounts overflowChecks io outputs infos plan)
    (hplan : descriptors.foldlM (SweepPlan.addDescriptor overflowChecks proxyEndpoint io wallet)
      plan = .ok plan') :
    Accounts overflowChecks io outputs (infos ++ io.carried descriptors) plan' := by
  induction descriptors generalizing infos plan with
  | nil =>
    obtain rfl := Except.ok.inj hplan
    rwa [SweepIo.carried, List.flatMap_nil, List.append_nil]
  | cons descriptor descriptors ih =>
    rw [List.foldlM_cons] at hplan
    obtain ⟨next, hnext, hplan⟩ := except_bind_eq_ok_iff.mp hplan
    rw [SweepIo.carried, List.flatMap_cons, ← List.append_assoc]
    exact ih (h.addDescriptor hnext) hplan

/-- A plan for outputs without tokens adds no output. -/
theorem Accounts.txouts_of_nil (h : Accounts overflowChecks io outputs [] plan) :
    plan.txouts = outputs := by
  have hnone : plan.assetInfo = [] := by
    refine List.eq_nil_iff_forall_not_mem.mpr fun asset hasset => ?_
    cases (h.contracts asset.contractId).mp (List.mem_map_of_mem hasset)
  obtain ⟨scripts, hscripts, htxouts⟩ := h.paid
  rw [hnone, List.map_nil, eq_comm, List.map_eq_nil_iff] at hscripts
  rw [htxouts, hscripts, List.map_nil, List.append_nil]

/-- Where no other output was asked for, and as long as the indices fit a `u32`, the
outputs of the recipients are at the indices that the tokens are assigned to. -/
theorem Accounts.paysRecipients (h : Accounts overflowChecks io [] infos plan)
    (hfits : plan.assetInfo.length ≤ 2 ^ 32) : plan.PaysRecipients io := by
  intro asset hasset
  obtain ⟨i, hi, rfl⟩ := List.getElem_of_mem hasset
  obtain ⟨scripts, hscripts, htxouts⟩ := h.paid
  have hvout : plan.assetInfo[i].vout = i := by
    have hget := congrArg (·[i]?) h.vouts
    simp only [List.getElem?_map, List.getElem?_range hi, List.getElem?_eq_getElem hi,
      Option.map_some, Option.some.injEq] at hget
    rw [hget, Nat.mod_eq_of_lt (hi.trans_le hfits)]
  have hlen : i < scripts.length := by
    have hlength := congrArg List.length hscripts
    rw [List.length_map, List.length_map] at hlength
    exact hlength ▸ hi
  refine ⟨scripts[i], ?_, ?_⟩
  · have hget := congrArg (·[i]?) hscripts
    simpa only [List.getElem?_map, List.getElem?_eq_getElem hi, List.getElem?_eq_getElem hlen,
      Option.map_some, Option.some.injEq] using hget
  · rw [htxouts, hvout, List.nil_append, List.getElem?_map, List.getElem?_eq_getElem hlen,
      Option.map_some]

/-! ### The whole sweep -/

/-- The consignment has been posted for the recipient of its contract's output, whose
index is one more than in the plan because of the commitment output. -/
def Posted (io : SweepIo D ContractId P Tx) (closingTxid : String)
    (plan : SweepPlan ContractId) (consignment : RgbTransfer ContractId) : Prop :=
  ∃ asset ∈ plan.assetInfo, asset.contractId = consignment.contractId ∧
    ∃ proxyUrl, io.proxyUrl = some proxyUrl ∧
      io.postConsignment proxyUrl asset.recipientId s!"consignment_{closingTxid}" closingTxid
        (some ((asset.vout + 1) % 2 ^ 32)) = true

theorem posted_of_ok {closingTxid : String} {consignments : List (RgbTransfer ContractId)}
    (h : plan.postConsignments overflowChecks io closingTxid consignments = .ok ()) :
    ∀ consignment ∈ consignments, plan.Posted io closingTxid consignment := by
  induction consignments with
  | nil => exact List.forall_mem_nil _
  | cons consignment consignments ih =>
    rw [postConsignments] at h
    obtain ⟨asset, hasset, h⟩ := except_bind_eq_ok_iff.mp h
    obtain ⟨vout, hvout, h⟩ := except_bind_eq_ok_iff.mp h
    dsimp only at h
    split at h
    · cases h
    obtain ⟨proxyUrl, hproxy, h⟩ := except_bind_eq_ok_iff.mp h
    split at h
    · cases h
    rename_i hpost
    split at h
    · cases h
    obtain ⟨hmem, hcontract⟩ := find_eq_some (orPanic_eq_ok_iff.mp hasset)
    refine List.forall_mem_cons.mpr ⟨⟨asset, hmem, hcontract, proxyUrl,
      orPanic_eq_ok_iff.mp hproxy, ?_⟩, ih h⟩
    rw [← (MachineInt.add_eq_ok_iff.mp hvout).1]
    simpa using hpost

/-- The transaction has been made from the plan, and its consignments are posted. -/
def Made (io : SweepIo D ContractId P Tx) (wallet : SweepWallet ContractId P)
    (descriptors : List (SpendableOutputDescriptor D)) (changeDestinationScript : ScriptBuf)
    (locktime : Option Nat) (plan : SweepPlan ContractId) (tx : Tx) : Prop :=
  ∃ consignments,
    plan.coloredTx io wallet descriptors changeDestinationScript locktime =
        .ok (tx, consignments) ∧
      ∀ consignment ∈ consignments, plan.Posted io (io.computeTxid tx) consignment

end SweepPlan

/-- What a sweep of outputs that were not swept before answers, whatever the wallet
adapter does: a plain transaction, which is not kept, or one made from a plan that
accounts for all tokens, which is. A sweep that asks for no other outputs pays each
recipient the tokens of its contract. -/
theorem sweep_accounts {overflowChecks : Bool} {proxyEndpoint : String}
    {io : SweepIo D ContractId P Tx} {wallet : SweepWallet ContractId P}
    {descriptors : List (SpendableOutputDescriptor D)} {outputs : List TxOut}
    {changeDestinationScript : ScriptBuf} {feerateSatPer1000Weight : Nat}
    {locktime : Option Nat} {s t : SweeperTxes Tx} {tx : Tx}
    (hnew : s.txes.lookup (io.hash descriptors) = none)
    (h : spendUnlocked overflowChecks proxyEndpoint io wallet descriptors outputs
      changeDestinationScript feerateSatPer1000Weight locktime s = .ok tx t) :
    (io.carried descriptors = [] ∧ t = s ∧
        io.keysManagerSpend descriptors outputs changeDestinationScript feerateSatPer1000Weight
          locktime = .ok tx) ∨
      (io.carried descriptors ≠ [] ∧
        t = ⟨s.txes.insert (io.hash descriptors) tx, s.txes.insert (io.hash descriptors) tx⟩ ∧
        ∃ plan : SweepPlan ContractId,
          plan.Accounts overflowChecks io outputs (io.carried descriptors) ∧
          (outputs = [] → plan.assetInfo.length ≤ 2 ^ 32 → plan.PaysRecipients io) ∧
          plan.Made io wallet descriptors changeDestinationScript locktime tx) := by
  rw [spendUnlocked, bind_of_ok (get_apply s)] at h
  simp only [hnew] at h
  obtain ⟨plan, hplan, h⟩ := attempt_bind_eq_ok_iff.mp h
  have haccounts : plan.Accounts overflowChecks io outputs (io.carried descriptors) :=
    (SweepPlan.accounts_start io outputs).foldlM hplan
  rw [haccounts.vanilla] at h
  cases hcarried : io.carried descriptors with
  | nil =>
    rw [hcarried] at haccounts h
    obtain ⟨hspend, rfl⟩ := attempt_eq_ok_iff.mp h
    rw [haccounts.txouts_of_nil] at hspend
    exact .inl ⟨rfl, rfl, except_mapError_eq_ok_iff.mp hspend⟩
  | cons info infos =>
    rw [hcarried] at haccounts h
    obtain ⟨⟨spendingTx, consignments⟩, htx, h⟩ := attempt_bind_eq_ok_iff.mp h
    obtain ⟨s₁, hruntime, h⟩ := unit_bind_eq_ok_iff.mp h
    obtain ⟨⟨⟩, hposts, h⟩ := attempt_bind_eq_ok_iff.mp h
    rw [bind_of_ok (modify_apply _ s₁)] at h
    obtain ⟨s₂, hwrite, h⟩ := unit_bind_eq_ok_iff.mp h
    rw [bind_of_ok (modify_apply _ s₂)] at h
    obtain ⟨rfl, rfl⟩ := EStateM.Result.ok.inj h
    obtain ⟨-, rfl⟩ := ensure_eq_ok_iff.mp hruntime
    obtain ⟨-, rfl⟩ := ensure_eq_ok_iff.mp hwrite
    have hpays : outputs = [] → plan.assetInfo.length ≤ 2 ^ 32 → plan.PaysRecipients io := by
      rintro rfl
      exact haccounts.paysRecipients
    exact .inr ⟨List.cons_ne_nil _ _, rfl, plan, haccounts, hpays, consignments, htx,
      SweepPlan.posted_of_ok hposts⟩

/-! ### Three channels -/

/-- The outputs of three closed channels, two of them with tokens of contract 1. -/
def threeChannels : List (SpendableOutputDescriptor Unit) :=
  [.delayedPaymentOutput ⟨"aa", 0⟩ (), .staticPaymentOutput ⟨"bb", 1⟩ (),
    .staticOutput ⟨"cc", 0⟩ ()]

/-- Everything works out. -/
def threeChannelsIo : SweepIo Unit ℕ Unit String where
  hash descriptors := descriptors.length
  readRgbTransferInfo name :=
    if name = "aa_transfer_info" then some (.ok ⟨1, 600⟩)
    else if name = "bb_transfer_info" then some (.ok ⟨2, 5⟩)
    else if name = "cc_transfer_info" then some (.ok ⟨1, 7⟩)
    else none
  scriptBufFromRecipientId _ := some ⟨[0, 20]⟩
  keysManagerSpend _ _ _ _ _ := .ok "plain"
  createSpendableOutputsPsbt _ _ _ _ _ := some ()
  reparse := some
  signSpendableOutputsPsbt _ := some
  extractTx _ := .ok "swept"
  computeTxid _ := "dd"
  inRuntime := true
  saveConsignment _ _ := true
  proxyUrl := some "http://proxy"
  postConsignment _ _ _ _ _ := true
  removeConsignment _ := true
  writeTxes := true

/-- A wallet that colours whatever it is given. -/
def coloringWallet : SweepWallet ℕ Unit where
  getTxHeight _ := .ok (some 100)
  updateWitnesses _ _ := .ok []
  witnessReceive _ := .ok "recipient"
  colorPsbtAndConsume psbt info := .ok (psbt, info.assetInfoMap.map fun asset => ⟨asset.1⟩)

theorem threeChannels_swept :
    spendUnlocked true "rpc://proxy" threeChannelsIo coloringWallet threeChannels [] ⟨[]⟩ 253
        none ⟨∅, ∅⟩ =
      .ok "swept" ⟨(∅ : HashMap ℕ String).insert 3 "swept",
        (∅ : HashMap ℕ String).insert 3 "swept"⟩ :=
  rfl

/-- The 607 tokens of contract 1 and the 5 of contract 2 are accounted for, and paid. -/
theorem threeChannels_accounts :
    ∃ plan : SweepPlan ℕ,
      plan.Accounts true threeChannelsIo [] [⟨1, 600⟩, ⟨2, 5⟩, ⟨1, 7⟩] ∧
        plan.PaysRecipients threeChannelsIo ∧
        plan.Made threeChannelsIo coloringWallet threeChannels ⟨[]⟩ none "swept" := by
  have hcarried : threeChannelsIo.carried threeChannels = [⟨1, 600⟩, ⟨2, 5⟩, ⟨1, 7⟩] := rfl
  rcases sweep_accounts rfl threeChannels_swept with ⟨hnone, -⟩ | ⟨-, -, hplan⟩
  · rw [hcarried] at hnone
    cases hnone
  · rw [hcarried] at hplan
    obtain ⟨plan, haccounts, hpays, hmade⟩ := hplan
    have hthree : plan.assetInfo.length ≤ 3 := by
      rw [← List.length_map SweptAsset.contractId]
      exact (haccounts.once.subperm fun _ hmem => (haccounts.contracts _).mp hmem).length_le
    exact ⟨plan, haccounts, hpays rfl (hthree.trans (by decide)), hmade⟩

end RgbLightningNode
