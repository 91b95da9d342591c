import RgbLightningNode.Adapter.Funding

/-!
# Which output is taken for the channel

The completion of a funding looks for the channel output by its value; the
Lightning library knows it by its script. The two agree unless another output
is at least as large.
-/

namespace RgbLightningNode

open Fallible LastArgmax

/-- The index of the output that pays the channel script. -/
def channelVout (script : ScriptBuf) (output : List TxOut) : Option Nat :=
  output.findIdx? fun out => out.scriptPubkey = script

/-- Nothing spendable before the channel output is larger than the channel, and
everything spendable behind it is smaller. -/
def ChangeFits (capacity : Nat) (before behind : List TxOut) : Prop :=
  (∀ out ∈ before, out.scriptPubkey.isOpReturn = false → out.value ≤ capacity) ∧
    ∀ out ∈ behind, out.scriptPubkey.isOpReturn = false → out.value < capacity

theorem spendable_append_cons {before behind : List TxOut} {channel : TxOut}
    (hc : channel.scriptPubkey.isOpReturn = false) :
    (before ++ channel :: behind).zipIdx.filter (fun out => !out.1.scriptPubkey.isOpReturn) =
      before.zipIdx.filter (fun out => !out.1.scriptPubkey.isOpReturn) ++
        (channel, before.length) :: (behind.zipIdx (before.length + 1)).filter
          (fun out => !out.1.scriptPubkey.isOpReturn) := by
  simp [List.zipIdx_append, List.zipIdx_cons, hc]

theorem forall_spendable_iff {P : Nat → Prop} (output : List TxOut) (k : Nat) :
    (∀ out ∈ (output.zipIdx k).filter (fun out => !out.1.scriptPubkey.isOpReturn),
        P out.1.value) ↔
      ∀ out ∈ output, out.scriptPubkey.isOpReturn = false → P out.value := by
  conv_rhs => rw [← List.zipIdx_map_fst k output]
  simp only [List.mem_filter, List.forall_mem_map, and_imp, Bool.not_eq_true']

/-- The channel output is found exactly when the change fits. -/
theorem fundingVout_append_cons_iff {before behind : List TxOut} (channel : TxOut)
    (hc : channel.scriptPubkey.isOpReturn = false) :
    fundingVout (before ++ channel :: behind) = some before.length ↔
      ChangeFits channel.value before behind := by
  -- behind the channel output the indices are larger, so the pair does not come again
  have hbehind : (channel, before.length) ∉ (behind.zipIdx (before.length + 1)).filter
      (fun out => !out.1.scriptPubkey.isOpReturn) := by
    intro h
    have := List.le_snd_of_mem_zipIdx (List.mem_of_mem_filter h)
    simp only at this
    omega
  have hfound := lastArgmax_append_cons_iff (fun out : TxOut × Nat => out.1.value)
    (before.zipIdx.filter fun out => !out.1.scriptPubkey.isOpReturn) hbehind
  rw [forall_spendable_iff (P := fun v => v ≤ channel.value),
    forall_spendable_iff (P := fun v => v < channel.value)] at hfound
  rw [ChangeFits, ← hfound, fundingVout, spendable_append_cons hc, Option.map_eq_some_iff]
  constructor
  · rintro ⟨⟨out, i⟩, h, rfl⟩
    have hmem := mem_of_lastArgmax h
    rw [← spendable_append_cons hc] at hmem
    have hout := List.mk_mem_zipIdx_iff_getElem?.mp (List.mem_of_mem_filter hmem)
    obtain rfl : channel = out := by simpa using hout
    exact h
  · exact fun h => ⟨_, h, rfl⟩

/-- The channel output is where the script is, when only one output has it. -/
theorem channelVout_append_cons {before behind : List TxOut} (channel : TxOut)
    (hone : (before ++ channel :: behind).countP
      (fun out => out.scriptPubkey = channel.scriptPubkey) = 1) :
    channelVout channel.scriptPubkey (before ++ channel :: behind) = some before.length := by
  have hbefore : ∀ out ∈ before, out.scriptPubkey ≠ channel.scriptPubkey := by
    simp only [List.countP_append, List.countP_cons, decide_true, if_true] at hone
    have hzero : before.countP (fun out => out.scriptPubkey = channel.scriptPubkey) = 0 := by
      omega
    simpa using List.countP_eq_zero.mp hzero
  rw [channelVout, List.findIdx?_append,
    List.findIdx?_eq_none_iff.mpr fun out ho => by simpa using hbefore out ho]
  simp [List.findIdx?_cons]

/-! ### The transactions a funding can have -/

variable {Txid : Type}

/-- What the wallet library promises about its builder: one output pays the
recipient, at most one more returns the change, in any order, and addresses
lead to spendable scripts. -/
structure BuilderLaw (io : SendBeginIo Txid) : Prop where
  picks : ∀ script amount feeRate unspendable psbt,
    io.finish ⟨[(script, amount)], feeRate, unspendable⟩ = .ok psbt →
      ∃ change : Option TxOut, psbt.output.Perm (⟨amount, script⟩ :: change.toList) ∧
        ∀ out ∈ change, out.scriptPubkey ≠ script ∧ out.scriptPubkey.isOpReturn = false
  address : ∀ text script, io.address text = .ok script → script.isOpReturn = false

/-- A funding that is built pays the channel script once, with its capacity. -/
theorem sendBegin_output {io : SendBeginIo Txid} (hlaw : BuilderLaw io) {assetId : String}
    {recipient : Recipient} {script : ScriptBuf} {capacity feeRate : Nat} {w w' : FundingWorld}
    {psbt : Psbt Txid} (hs : io.address recipient.recipientId = .ok script)
    (ha : recipient.witnessAmountSat = some capacity)
    (h : sendBegin io [(assetId, [recipient])] feeRate w = .ok psbt w') :
    (⟨capacity, script⟩ : TxOut) ∈ psbt.output ∧
      psbt.output.countP (fun out => out.scriptPubkey = script) = 1 := by
  obtain ⟨stateHash, built, unspendable, hp, rfl⟩ : ∃ stateHash built unspendable,
      io.finish ⟨[(script, capacity)], feeRate, unspendable⟩ = .ok built ∧
        psbt = { built with output := built.output ++ [⟨0, .newOpReturn stateHash⟩] } := by
    obtain ⟨amountSat, tx, ha', htx, rfl, -⟩ := sendBegin_of_ok h
    obtain rfl := Option.some.inj (ha.symm.trans ha')
    obtain ⟨occupied, hscript, -, -, hbuilt⟩ := BuilderIo.contractTx_of_ok htx
    obtain rfl := Except.ok.inj (hs.symm.trans hscript)
    exact ⟨_, _, _, (BuilderIo.recipientTx_eq_ok_iff.mp hbuilt).2, rfl⟩
  obtain ⟨change, hperm, hchange⟩ := hlaw.picks script capacity feeRate unspendable built hp
  have hne : ScriptBuf.newOpReturn stateHash ≠ script := by
    rintro rfl
    simpa using hlaw.address _ _ hs
  have hzero : change.toList.countP (fun out => out.scriptPubkey = script) = 0 := by
    rw [List.countP_eq_zero]
    intro out ho
    simpa using (hchange out (Option.mem_toList.mp ho)).1
  refine ⟨List.mem_append_left _ (hperm.mem_iff.mpr (List.mem_cons_self ..)), ?_⟩
  rw [List.countP_append, hperm.countP_eq, List.countP_cons, hzero]
  simp [hne]

/-- The output the completion takes is the channel's if and only if the change
fits. -/
theorem fundingVout_eq_channelVout_iff {io : SendBeginIo Txid} (hlaw : BuilderLaw io)
    {assetId : String} {recipient : Recipient} {script : ScriptBuf} {capacity feeRate : Nat}
    {w w' : FundingWorld} {psbt : Psbt Txid}
    (hs : io.address recipient.recipientId = .ok script)
    (ha : recipient.witnessAmountSat = some capacity)
    (h : sendBegin io [(assetId, [recipient])] feeRate w = .ok psbt w') :
    fundingVout psbt.output = channelVout script psbt.output ↔
      ∀ before behind, psbt.output = before ++ ⟨capacity, script⟩ :: behind →
        ChangeFits capacity before behind := by
  obtain ⟨hmem, hone⟩ := sendBegin_output hlaw hs ha h
  have hc := hlaw.address _ _ hs
  constructor
  · intro heq before behind houtput
    rw [houtput] at heq hone
    rw [channelVout_append_cons ⟨capacity, script⟩ hone] at heq
    exact (fundingVout_append_cons_iff ⟨capacity, script⟩ hc).mp heq
  · intro hfits
    obtain ⟨before, behind, houtput⟩ := List.append_of_mem hmem
    rw [houtput] at hone ⊢
    rw [channelVout_append_cons ⟨capacity, script⟩ hone]
    exact (fundingVout_append_cons_iff ⟨capacity, script⟩ hc).mpr
      (hfits before behind houtput)

/-! ### A change output larger than the channel -/

/-- A wallet of one output, whose builder returns a change of 900000 behind every
recipient. -/
def largeChange : SendBeginIo Nat where
  toBuilderIo := { oneOutput false [] with
    address := fun _ => .ok ⟨[0, 32, 7]⟩
    stateHash := fun _ => .ok [1, 2, 3]
    finish := fun request =>
      if ∃ r ∈ request.recipients, r.1 = ⟨[81, 32, 5]⟩ then .error "unexpected recipient"
      else .ok ⟨[⟨170, 1⟩], request.recipients.map (fun r => ⟨r.2, r.1⟩) ++
        [⟨900000, ⟨[81, 32, 5]⟩⟩]⟩ }
  write := .ok ()

def smallChannel : Recipient := ⟨"address of the channel", some 50000, .fungible 690⟩

theorem largeChange_law : BuilderLaw largeChange := by
  refine ⟨fun script amount feeRate unspendable psbt h => ?_, fun text script h => ?_⟩
  · simp only [largeChange] at h
    split at h
    · cases h
    · rename_i hnone
      have hne : script ≠ ⟨[81, 32, 5]⟩ := fun heq => hnone ⟨_, List.mem_singleton_self _, heq⟩
      obtain rfl := Except.ok.inj h
      refine ⟨some ⟨900000, ⟨[81, 32, 5]⟩⟩, List.Perm.refl _, fun out ho => ?_⟩
      obtain rfl := Option.some.inj ho
      exact ⟨hne.symm, rfl⟩
  · obtain rfl := Except.ok.inj h
    rfl

/-- The rule at a channel of 50000 and a change of 900000. -/
theorem fundingVout_of_largeChange :
    fundingVout [⟨50000, ⟨[0, 32, 7]⟩⟩, ⟨900000, ⟨[81, 32, 5]⟩⟩, ⟨0, .newOpReturn [1, 2, 3]⟩] =
        channelVout ⟨[0, 32, 7]⟩
          [⟨50000, ⟨[0, 32, 7]⟩⟩, ⟨900000, ⟨[81, 32, 5]⟩⟩, ⟨0, .newOpReturn [1, 2, 3]⟩] ↔
      ∀ before behind,
        [⟨50000, ⟨[0, 32, 7]⟩⟩, ⟨900000, ⟨[81, 32, 5]⟩⟩, ⟨0, .newOpReturn [1, 2, 3]⟩] =
            before ++ (⟨50000, ⟨[0, 32, 7]⟩⟩ : TxOut) :: behind →
          ChangeFits 50000 before behind :=
  fundingVout_eq_channelVout_iff largeChange_law
    (show largeChange.address smallChannel.recipientId = .ok ⟨[0, 32, 7]⟩ from rfl) rfl
    (show sendBegin largeChange [("asset", [smallChannel])] 7 ⟨.missing, .missing, false, []⟩ =
      .ok ⟨[⟨170, 1⟩], _⟩ _ from rfl)

/-- The completion takes the change output for the channel. -/
theorem takes_change_for_channel :
    ¬∀ (io : SendBeginIo Nat) (assetId : String) (recipient : Recipient) (script : ScriptBuf)
      (capacity feeRate : Nat) (w w' : FundingWorld) (psbt : Psbt Nat), BuilderLaw io →
      io.address recipient.recipientId = .ok script →
      recipient.witnessAmountSat = some capacity →
      sendBegin io [(assetId, [recipient])] feeRate w = .ok psbt w' →
      fundingVout psbt.output = channelVout script psbt.output := by
  intro hall
  have h := hall largeChange "asset" smallChannel ⟨[0, 32, 7]⟩ 50000 7
    ⟨.missing, .missing, false, []⟩ _ _ largeChange_law rfl rfl rfl
  exact absurd h (by decide)

end RgbLightningNode
