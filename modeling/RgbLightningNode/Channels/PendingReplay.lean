import RgbLightningNode.Channels.TransferDetails

/-!
# ChannelPending delivered again

The library may deliver ChannelPending once more after its handler has returned Ok.
The PSBT is kept, so the completion runs again, on the shared file of details and
with the lock that another open may hold by then.
-/

namespace RgbLightningNode

open Fallible SerdeJson

variable {ContractId : Type}

/-- The completion of a funding without colour. Every error of the broadcast is
an error of the completion. -/
def sendBtcEnd (broadcast : Except String Unit) : SignedPsbt → Except (Exit String) String
  | .invalid e => .error (.err s!"Invalid PSBT: {e}")
  | .unfinished e => .error (.err s!"Failed to extract TX from PSBT: {e}")
  | .signed tx => do
    withContext "Failed to broadcast TX" broadcast
    return tx.txid

theorem sendBtcEnd_error (e : String) (psbt : SignedPsbt) :
    ∃ exit, sendBtcEnd (.error e) psbt = .error exit := by
  cases psbt with
  | invalid e' => exact ⟨_, rfl⟩
  | unfinished e' => exact ⟨_, rfl⟩
  | signed tx => exact ⟨_, rfl⟩

/-- The outcome of a delivery of ChannelPending. -/
inductive Delivery where
  | handled
  /-- The event is asked for again. -/
  | replay
  /-- The channel is coloured, and its completion reads the details. -/
  | reads (details : TransferDetails)
  deriving DecidableEq

/-- ChannelPending, up to the details that send_end reads. -/
def Channels.deliver (w : Channels ContractId) (id : ChannelId)
    (read broadcast : Except String Unit) (psbt : SignedPsbt) : Delivery :=
  match w.own id with
  | some ⟨_, some _, true, _, _⟩ =>
    match readTransferDetails read w.wallet.pendingRgbTransfer with
    | .ok details => .reads details
    | .error _ => .replay
  | some ⟨_, none, true, _, _⟩ =>
    match sendBtcEnd broadcast psbt with
    | .ok _ => .handled
    | .error _ => .replay
  -- without a PSBT the channel is not this node's
  | _ => .handled

/-- The network knows the transaction, and the PSBT has an output to fund. -/
def Known (broadcast : Except String Unit) (psbt : SignedPsbt) : Prop :=
  (∃ e, broadcast = .error e ∧ alreadyKnown e = true) ∧ ∃ out, fundingOutput psbt = .ok out

/-- The channels, with the one for whose own funding the file of details was
written last (none when a request's trial was), and those whose ChannelPending
has been answered with Ok. -/
structure CompletedChannels (ContractId : Type) where
  node : Channels ContractId
  author : Option ChannelId
  done : ChannelId → Bool

namespace CompletedChannels

def new (wallet : FundingWorld) : CompletedChannels ContractId :=
  ⟨.new wallet, none, fun _ => false⟩

variable [ContractIdText ContractId]

def authorAfter (s : CompletedChannels ContractId) (x : ChannelStep) : Option ChannelId :=
  match x with
  | .trial .. =>
    match s.node.opening, (s.node.step x).2.opening with
    | .checked (some _) _, .begun _ => none
    | _, _ => s.author
  | .fundingGenerationReady id .. =>
    match s.node.own id, (s.node.step x).2.own id with
    | some ⟨.unfunded, some _, _, _, _⟩, some ⟨.generating, _, _, _, _⟩ => some id
    | _, _ => s.author
  | _ => s.author

omit [ContractIdText ContractId] in
/-- The channel whose ChannelPending is answered with Ok in a step. -/
def answered (s : CompletedChannels ContractId) : ChannelStep → Option ChannelId
  | .completeSend id io psbt =>
    match s.node.own id with
    | some ⟨_, _, _, some details, _⟩ =>
      match completeSend io psbt details s.node.wallet with
      | .ok .. => some id
      | .error .. => none
    | _ => none
  | .completeBtc id =>
    match s.node.own id with
    | some ⟨_, none, true, _, _⟩ => some id
    | _ => none
  | _ => none

def step (s : CompletedChannels ContractId) (x : ChannelStep) :
    Option TransferDetails × CompletedChannels ContractId :=
  ((s.node.step x).1,
    ⟨(s.node.step x).2, s.authorAfter x, fun id => s.done id || s.answered x = some id⟩)

/-- A ChannelPending that has been answered with Ok and is handled once more, with a
transaction that the network knows: it is answered with Ok again, reads no other channel's
details, and leaves the lock, which its own open has released, unchanged. -/
def Idempotent (s : CompletedChannels ContractId) (x : ChannelStep) : Prop :=
  match x with
  | .channelPending id read => s.done id = true → ∀ broadcast psbt, Known broadcast psbt →
      (∀ details, s.node.deliver id read broadcast psbt = .reads details → s.author = some id) ∧
        s.node.deliver id read broadcast psbt ≠ .replay
  | .completeSend id io psbt => s.done id = true → Known io.broadcast psbt →
      ∀ ch details, s.node.own id = some ch → ch.reading = some details →
        (∃ txid wallet, completeSend io psbt details s.node.wallet = .ok txid wallet) ∧
        ((s.node.step x).2.wallet.pendingRgbTransfer = s.node.wallet.pendingRgbTransfer ∨
          s.author = some id) ∧
        (s.node.rgbSendLock = true → (s.node.step x).2.rgbSendLock = true)
  | _ => True

/-- When a ChannelPending is handled once more, the channel's info file is there, and the
file of details holds those of its own funding, which the first completion did not remove;
and at its end no open holds the lock, and no other details are in the file. -/
def LeftBehind (s : CompletedChannels ContractId) : ChannelStep → Prop
  | .channelPending id read => s.done id = true →
      (∃ ch, s.node.own id = some ch ∧ ch.rgbInfo.isSome) ∧ s.author = some id ∧
        s.node.wallet.pendingRgbTransfer ≠ .missing ∧ read = .ok ()
  | .completeSend id io psbt => s.done id = true → Known io.broadcast psbt →
      ∀ ch, s.node.own id = some ch → ch.reading.isSome →
        s.node.rgbSendLock = false ∧
          (s.node.wallet.pendingRgbTransfer = .missing ∨ io.removeDetails = false ∨
            s.author = some id)
  | _ => True

end CompletedChannels

/-! ### One delivery -/

/-- An answer of the network for a known transaction. -/
theorem known_of_output {psbt : SignedPsbt} (out : FundingOutput)
    (h : fundingOutput psbt = .ok out) :
    Known (.error "Transaction already in utxo set") psbt :=
  ⟨⟨_, rfl, by decide +kernel⟩, out, h⟩

/-- With a known transaction a completion is done, and has moved nothing. -/
theorem completeSend_of_known {io : SendEndIo} {psbt : SignedPsbt} (h : Known io.broadcast psbt)
    (details : TransferDetails) (w : FundingWorld) :
    ∃ txid, completeSend io psbt details w = .ok txid (removeDetails io w) := by
  obtain ⟨⟨e, hb, hknown⟩, out, hout⟩ := h
  have hmove : broadcastAndMove io details out w = .ok () w := by
    simp only [broadcastAndMove, hb, hknown, if_true]
    rfl
  refine ⟨out.txid, ?_⟩
  rw [completeSend, hout, bind_of_ok (attempt_ok out w), bind_of_ok hmove,
    bind_of_ok (modify_apply _ w)]
  rfl

/-- Removing the details changes the file when it is there and can be removed. -/
theorem pending_removeDetails_iff (io : SendEndIo) (w : FundingWorld) :
    (removeDetails io w).pendingRgbTransfer = w.pendingRgbTransfer ↔
      w.pendingRgbTransfer = .missing ∨ io.removeDetails = false := by
  unfold removeDetails
  split
  · rename_i hremove
    rw [hremove]
    exact ⟨fun h => .inl h.symm, fun h => (h.resolve_right (by decide)).symm⟩
  · rename_i hremove
    exact iff_of_true rfl (.inr (Bool.eq_false_iff.mpr hremove))

namespace CompletedChannels

variable {s : CompletedChannels ContractId} {id : ChannelId}

/-- The file holds the details of a funding, or nothing after a completion. -/
def Readable (s : CompletedChannels ContractId) : Prop :=
  s.node.wallet.pendingRgbTransfer = .missing ∨
    ∃ details, readTransferDetails (.ok ()) s.node.wallet.pendingRgbTransfer = .ok details

/-- A second delivery reads no other channel's details and does not ask for a third one if
and only if the channel is coloured and the file can be read and holds its own details. -/
theorem deliver_again_iff {ch : OwnChannel ContractId} (hch : s.node.own id = some ch)
    (hpsbt : ch.psbt = true) (hreadable : s.author = some id → s.Readable)
    (read : Except String Unit) :
    (∀ broadcast psbt, Known broadcast psbt →
      (∀ details, s.node.deliver id read broadcast psbt = .reads details → s.author = some id) ∧
        s.node.deliver id read broadcast psbt ≠ .replay) ↔
      (∃ ch, s.node.own id = some ch ∧ ch.rgbInfo.isSome) ∧ s.author = some id ∧
        s.node.wallet.pendingRgbTransfer ≠ .missing ∧ read = .ok () := by
  obtain ⟨phase, rgbInfo, psbt, reading, begun⟩ := ch
  obtain rfl : psbt = true := hpsbt
  have hknown : Known (.error "Transaction already in utxo set")
      (.signed ⟨"f00d", [⟨1, ⟨[]⟩⟩]⟩) := known_of_output ⟨"f00d", 0⟩ (by decide +kernel)
  simp only [Channels.deliver, hch]
  constructor
  · intro h
    obtain ⟨hreads, hreplay⟩ := h _ _ hknown
    cases rgbInfo with
    | none =>
      -- without colour the known transaction is an error
      obtain ⟨exit, hexit⟩ := sendBtcEnd_error "Transaction already in utxo set"
        (.signed ⟨"f00d", [⟨1, ⟨[]⟩⟩]⟩)
      simp only [hexit] at hreplay
      exact absurd rfl hreplay
    | some rgbInfo =>
      cases hread : readTransferDetails read s.node.wallet.pendingRgbTransfer with
      | error exit =>
        simp only [hread] at hreplay
        exact absurd rfl hreplay
      | ok details =>
        simp only [hread] at hreads
        refine ⟨⟨_, rfl, rfl⟩, hreads details rfl, fun hmissing => ?_, readTransferDetails_io hread⟩
        rw [hmissing] at hread
        exact Channels.readTransferDetails_missing _ _ hread
  · rintro ⟨⟨ch', hch', hcolored⟩, hauthor, hthere, rfl⟩ broadcast psbt -
    obtain rfl := Option.some.inj hch'
    obtain ⟨rgbInfo, rfl⟩ := Option.isSome_iff_exists.mp hcolored
    obtain ⟨details, hread⟩ := (hreadable hauthor).resolve_left hthere
    simp only [hread]
    refine ⟨fun _ _ => hauthor, ?_⟩
    intro h
    cases h

variable [ContractIdText ContractId]

theorem completeSend_again {io : SendEndIo} {psbt : SignedPsbt} {ch : OwnChannel ContractId}
    {details : TransferDetails} (hch : s.node.own id = some ch)
    (hreading : ch.reading = some details) (hknown : Known io.broadcast psbt) :
    (s.node.step (.completeSend id io psbt)).2.wallet = removeDetails io s.node.wallet ∧
      (s.node.step (.completeSend id io psbt)).2.rgbSendLock = false := by
  obtain ⟨phase, rgbInfo, hasPsbt, reading, begun⟩ := ch
  obtain rfl : reading = some details := hreading
  obtain ⟨txid, hok⟩ := completeSend_of_known hknown details s.node.wallet
  simp only [Channels.step, hch, Channels.runCompleteSend, hok]
  exact ⟨rfl, rfl⟩

/-- The completion that follows is Ok; what it must not do is to remove the details
and release the lock of another. -/
theorem idempotent_completeSend_iff (io : SendEndIo) (psbt : SignedPsbt) :
    s.Idempotent (.completeSend id io psbt) ↔ s.LeftBehind (.completeSend id io psbt) := by
  refine imp_congr_right fun _ => imp_congr_right fun hknown => forall_congr' fun ch => ?_
  constructor
  · intro h hch hreading
    obtain ⟨details, hdetails⟩ := Option.isSome_iff_exists.mp hreading
    obtain ⟨-, hfile, hlock⟩ := h details hch hdetails
    obtain ⟨hwallet, hfree⟩ := completeSend_again hch hdetails hknown
    rw [hwallet, pending_removeDetails_iff, or_assoc] at hfile
    rw [hfree] at hlock
    exact ⟨Bool.eq_false_iff.mpr fun hheld => absurd (hlock hheld) (by decide), hfile⟩
  · intro h details hch hdetails
    obtain ⟨hfree, hfile⟩ := h hch (by rw [hdetails]; rfl)
    obtain ⟨hwallet, -⟩ := completeSend_again hch hdetails hknown
    obtain ⟨txid, hok⟩ := completeSend_of_known hknown details s.node.wallet
    rw [hwallet, pending_removeDetails_iff, or_assoc]
    refine ⟨⟨txid, _, hok⟩, hfile, fun hheld => ?_⟩
    rw [hfree] at hheld
    cases hheld

end CompletedChannels

/-! ### The PSBT is kept -/

/-- There is a channel with a PSBT. -/
def Channels.HasPsbt (w : Channels ContractId) (id : ChannelId) : Prop :=
  ∃ ch, w.own id = some ch ∧ ch.psbt = true

/-- Every PSBT stays, and details are read with a PSBT only. -/
structure Channels.KeepsPsbt (w w' : Channels ContractId) : Prop where
  stays : ∀ id, w.HasPsbt id → w'.HasPsbt id
  reading : ∀ id ch', w'.own id = some ch' → ch'.reading.isSome →
    w.HasPsbt id ∨ ∃ ch, w.own id = some ch ∧ ch.reading.isSome

namespace Channels

variable {w w' : Channels ContractId}

theorem KeepsPsbt.of_own_eq (h : w'.own = w.own) : KeepsPsbt w w' := by
  refine ⟨fun id hid => ?_, fun id ch' hch' hr => .inr ⟨ch', ?_, hr⟩⟩
  · rw [HasPsbt, h]
    exact hid
  · rw [← h]
    exact hch'

theorem keepsPsbt_update {id : ChannelId} {f : OwnChannel ContractId → OwnChannel ContractId}
    {lock : Bool} {opening : Opening ContractId} {wallet : FundingWorld}
    (hpsbt : ∀ ch, ch.psbt = true → (f ch).psbt = true)
    (hreading : ∀ ch, w.own id = some ch → (f ch).reading.isSome → ch.reading.isSome ∨
      ch.psbt = true) :
    KeepsPsbt w (Channels.update id f
      { w with rgbSendLock := lock, opening := opening, wallet := wallet }) := by
  constructor
  · rintro id' ⟨ch, hch, hp⟩
    by_cases hid : id' = id
    · subst hid
      exact ⟨f ch, by rw [own_update, if_pos rfl, hch]; rfl, hpsbt ch hp⟩
    · exact ⟨ch, by rw [own_update, if_neg hid, hch], hp⟩
  · intro id' ch' hch' hr
    obtain ⟨rfl, ch, hch, rfl⟩ | hch' := own_update_cases hch'
    · obtain hr | hp := hreading ch hch hr
      · exact .inr ⟨ch, hch, hr⟩
      · exact .inl ⟨ch, hch, hp⟩
    · exact .inr ⟨ch', hch', hr⟩

theorem keepsPsbt_runCreateChannel (rgbInfo : Option (RgbInfo ContractId))
    (answer : Option ChannelId) : KeepsPsbt w (w.runCreateChannel rgbInfo answer) := by
  unfold runCreateChannel
  cases answer with
  | none => exact .of_own_eq rfl
  | some id =>
    simp only
    split
    · exact .of_own_eq rfl
    · rename_i hfree
      constructor
      · rintro id' ⟨ch, hch, hp⟩
        -- the id of the new channel had none
        have hne : id' ≠ id := by
          rintro rfl
          rw [hch] at hfree
          exact hfree rfl
        exact ⟨ch, (Function.update_of_ne hne ..).trans hch, hp⟩
      · intro id' ch' hch' hr
        by_cases hid : id' = id
        · subst hid
          simp only [Function.update_self, Option.some.injEq] at hch'
          rw [← hch'] at hr
          cases hr
        · simp only [Function.update_of_ne hid] at hch'
          exact .inr ⟨ch', hch', hr⟩

theorem keepsPsbt_restart : KeepsPsbt w { w with
    rgbSendLock := false
    opening := .idle
    own := fun id => (w.own id).map OwnChannel.restarted } := by
  constructor
  · rintro id ⟨ch, hch, hp⟩
    refine ⟨ch.restarted, ?_, hp⟩
    simp only [hch, Option.map_some]
  · intro id ch' hch' hr
    obtain ⟨ch, -, rfl⟩ := Option.map_eq_some_iff.mp hch'
    cases hr

variable [ContractIdText ContractId]

theorem keepsPsbt_runSendBegin (id : ChannelId) (io : SendBeginIo String) (recipientId : String)
    (amountSat : Nat) (rgbInfo : RgbInfo ContractId) :
    KeepsPsbt w (w.runSendBegin id io recipientId amountSat rgbInfo) := by
  unfold runSendBegin
  split
  · exact .of_own_eq rfl
  · split
    · exact keepsPsbt_update (fun _ hp => hp) fun _ _ hr => .inl hr
    · exact .of_own_eq rfl

omit [ContractIdText ContractId] in
theorem keepsPsbt_runFundingGenerated (id : ChannelId) (answer : FundingAnswer) :
    KeepsPsbt w (w.runFundingGenerated id answer) := by
  cases answer with
  | registered => exact keepsPsbt_update (fun _ _ => rfl) fun _ _ hr => .inl hr
  | _ => exact keepsPsbt_update (fun _ hp => hp) fun _ _ hr => .inl hr

omit [ContractIdText ContractId] in
theorem keepsPsbt_runCompleteSend (id : ChannelId) (io : SendEndIo) (psbt : SignedPsbt)
    (details : TransferDetails) : KeepsPsbt w (w.runCompleteSend id io psbt details) := by
  unfold runCompleteSend
  split <;> exact keepsPsbt_update (fun _ hp => hp) fun _ _ hr => by cases hr

theorem keepsPsbt_step (x : ChannelStep) : KeepsPsbt w (w.step x).2 := by
  cases x with
  | openChannel channelIds req balance =>
    simp only [step, runOpenChannel]
    split
    · split <;> exact .of_own_eq rfl
    · exact .of_own_eq rfl
  | trial io schema recipientId =>
    simp only [step, runTrial]
    split
    · split
      · exact .of_own_eq rfl
      · split <;> exact .of_own_eq rfl
    · exact .of_own_eq rfl
    · exact .of_own_eq rfl
  | createChannel answer =>
    simp only [step]
    split
    · exact keepsPsbt_runCreateChannel ..
    · exact .of_own_eq rfl
  | writeInfo =>
    simp only [step]
    split
    · exact keepsPsbt_update (fun _ hp => hp) fun _ _ hr => .inl hr
    · exact .of_own_eq rfl
    · exact .of_own_eq rfl
  | fundingGenerationReady id io recipientId amountSat =>
    simp only [step]
    split
    · exact keepsPsbt_runSendBegin ..
    · exact keepsPsbt_update (fun _ hp => hp) fun _ _ hr => .inl hr
    · exact .of_own_eq rfl
  | fundingGenerated id answer =>
    simp only [step]
    split
    · exact keepsPsbt_runFundingGenerated ..
    · exact .of_own_eq rfl
  | channelPending id read =>
    simp only [step]
    split
    · rename_i hch
      split
      · refine keepsPsbt_update (fun _ hp => hp) fun ch hch' _ => .inr ?_
        obtain rfl := Option.some.inj (hch'.symm.trans hch)
        rfl
      · exact .of_own_eq rfl
    · exact .of_own_eq rfl
  | completeSend id io psbt =>
    simp only [step]
    split
    · exact keepsPsbt_runCompleteSend ..
    · exact .of_own_eq rfl
  | completeBtc id =>
    simp only [step]
    split
    · exact keepsPsbt_update (fun _ hp => hp) fun _ _ hr => .inl hr
    · exact .of_own_eq rfl
  | channelClosed id removesInfo =>
    exact keepsPsbt_update (fun _ hp => hp) fun _ _ hr => .inl hr
  | discardFunding id =>
    exact keepsPsbt_update (fun _ hp => hp) fun _ _ hr => .inl hr
  | restart => exact keepsPsbt_restart
  | _ =>
    simp only [step]
    split <;> exact .of_own_eq rfl

end Channels

/-! ### The details are kept -/

theorem readTransferDetails_of_json (contractId : String) {amount : Nat} (h : amount < 2 ^ 64)
    (btcAmountSat : Nat) :
    readTransferDetails (.ok ()) (.doc (transferDetailsJson contractId amount btcAmountSat)) =
      .ok ⟨contractId, amount⟩ := by
  have hamount : orErr (Value.num amount).asU64 "Missing rgb_amount in transfer details" =
      .ok amount := orErr_eq_ok_iff.mpr (if_pos h)
  change (do
    let amount ← orErr (Value.num amount).asU64 "Missing rgb_amount in transfer details"
    return ⟨contractId, amount⟩ : Except (Exit String) TransferDetails) = _
  rw [hamount]
  rfl

/-- What a funding assigns fits the file. -/
theorem rgbAmount_of_schemaAssignment {ε : Type} {schema : AssetSchema} {amount : UInt64}
    {assignment : Assignment}
    (h : schemaAssignment (ε := ε) schema amount.toNat = .ok assignment) :
    assignment.rgbAmount < 2 ^ 64 := by
  cases schema with
  | ifa => cases h
  | uda =>
    obtain rfl := Except.ok.inj h
    decide
  | _ =>
    obtain rfl := Except.ok.inj h
    exact amount.toNat_lt

namespace CompletedChannels

variable [ContractIdText ContractId] {s : CompletedChannels ContractId}

/-- A step leaves the file and its author, removes the file, writes a trial's
details, or those of a channel's own funding. -/
def Rewrites (s : CompletedChannels ContractId) (x : ChannelStep) : Prop :=
  ((s.step x).2.node.wallet.pendingRgbTransfer = s.node.wallet.pendingRgbTransfer ∧
      (s.step x).2.author = s.author) ∨
    (s.step x).2.author = none ∨ (s.step x).2.Readable

theorem rewrites_trial (io : SendBeginIo String) (schema : AssetSchema) (recipientId : String) :
    s.Rewrites (.trial io schema recipientId) := by
  simp only [Rewrites, step, authorAfter, Channels.step]
  cases ho : s.node.opening with
  | checked colored cap =>
    cases colored with
    | none => exact .inl ⟨rfl, rfl⟩
    | some info =>
      obtain ⟨contractId, amt⟩ := info
      simp only [Channels.runTrial]
      split
      · exact .inl ⟨rfl, rfl⟩
      · split
        · exact .inr (.inl rfl)
        · rename_i herror
          rw [sendBegin_of_error herror]
          exact .inl ⟨rfl, rfl⟩
  | _ => exact .inl ⟨rfl, rfl⟩

/-- A funding that is begun leaves details that can be read. -/
theorem rewrites_fundingGenerationReady (id : ChannelId) (io : SendBeginIo String)
    (recipientId : String) (amountSat : Nat) :
    s.Rewrites (.fundingGenerationReady id io recipientId amountSat) := by
  simp only [Rewrites, step, authorAfter, Channels.step]
  split
  · rename_i hch
    simp only [hch, Channels.runSendBegin]
    split
    · simp only [hch]
      exact .inl ⟨trivial, trivial⟩
    · rename_i hassign
      split
      · rename_i hok
        obtain ⟨btcAmountSat, _, -, -, -, rfl⟩ := sendBegin_of_ok hok
        exact .inr (.inr (.inr ⟨_, readTransferDetails_of_json _
          (rgbAmount_of_schemaAssignment hassign) _⟩))
      · rename_i herror
        rw [sendBegin_of_error herror]
        simp only [hch]
        exact .inl ⟨trivial, trivial⟩
  · rename_i hch
    simp only [hch]
    exact .inl ⟨rfl, trivial⟩
  · rename_i hcolored _
    refine .inl ⟨rfl, ?_⟩
    split
    · rename_i hch _
      exact (hcolored _ _ _ _ hch).elim
    · rfl

theorem rewrites_completeSend (id : ChannelId) (io : SendEndIo) (psbt : SignedPsbt) :
    s.Rewrites (.completeSend id io psbt) := by
  simp only [Rewrites, step, authorAfter, Channels.step]
  split
  · rename_i details _ _
    have hpending := pending_after_completeSend io psbt details s.node.wallet
    simp only [Channels.runCompleteSend]
    split
    all_goals
      rename_i hresult
      simp only [after, hresult] at hpending
      obtain hsame | hmissing := hpending
      · exact .inl ⟨hsame, trivial⟩
      · exact .inr (.inr (.inl hmissing))
  · exact .inl ⟨rfl, trivial⟩

theorem rewrites_step (x : ChannelStep) : s.Rewrites x := by
  cases x with
  | trial io schema recipientId => exact rewrites_trial ..
  | fundingGenerationReady id io recipientId amountSat => exact rewrites_fundingGenerationReady ..
  | completeSend id io psbt => exact rewrites_completeSend ..
  | openChannel channelIds req balance =>
    refine .inl ⟨?_, rfl⟩
    simp only [step, Channels.step, Channels.runOpenChannel]
    split
    · split <;> rfl
    · rfl
  | createChannel answer =>
    refine .inl ⟨?_, rfl⟩
    simp only [step, Channels.step]
    split
    · cases answer with
      | none => rfl
      | some id =>
        simp only [Channels.runCreateChannel]
        split <;> rfl
    · rfl
  | fundingGenerated id answer =>
    refine .inl ⟨?_, rfl⟩
    simp only [step, Channels.step]
    split
    · cases answer <;> rfl
    · rfl
  | channelPending id read =>
    refine .inl ⟨?_, rfl⟩
    simp only [step, Channels.step]
    split
    · split <;> rfl
    · rfl
  | channelClosed id removesInfo => exact .inl ⟨rfl, rfl⟩
  | discardFunding id => exact .inl ⟨rfl, rfl⟩
  | restart => exact .inl ⟨rfl, rfl⟩
  | _ =>
    refine .inl ⟨?_, rfl⟩
    simp only [step, Channels.step]
    split <;> rfl

end CompletedChannels

/-! ### Runs -/

namespace CompletedChannels

/-- A channel that reads details has a PSBT, and so has one that is done. -/
structure Inv (s : CompletedChannels ContractId) : Prop where
  reading : ∀ id ch, s.node.own id = some ch → ch.reading.isSome → s.node.HasPsbt id
  done : ∀ id, s.done id = true → s.node.HasPsbt id
  readable : ∀ id, s.author = some id → s.Readable

variable [ContractIdText ContractId] {s : CompletedChannels ContractId}

omit [ContractIdText ContractId] in
/-- Only a channel with a PSBT is answered with Ok. -/
theorem Inv.answered (h : s.Inv) (x : ChannelStep) {id : ChannelId}
    (hid : s.answered x = some id) : s.node.HasPsbt id := by
  cases x with
  | completeSend id' io psbt =>
    simp only [CompletedChannels.answered] at hid
    split at hid
    · rename_i hch
      split at hid
      · obtain rfl := Option.some.inj hid
        exact h.reading _ _ hch rfl
      · cases hid
    · cases hid
  | completeBtc id' =>
    simp only [CompletedChannels.answered] at hid
    split at hid
    · rename_i hch
      obtain rfl := Option.some.inj hid
      exact ⟨_, hch, rfl⟩
    · cases hid
  | _ => cases hid

theorem inv_step (h : s.Inv) (x : ChannelStep) : Inv (s.step x).2 := by
  have hkeeps : Channels.KeepsPsbt s.node (s.node.step x).2 := Channels.keepsPsbt_step x
  refine ⟨fun id ch' hch' hr => hkeeps.stays id ?_, fun id hdone => hkeeps.stays id ?_,
    fun id hauthor => ?_⟩
  · obtain hp | ⟨ch, hch, hr⟩ := hkeeps.reading id ch' hch' hr
    · exact hp
    · exact h.reading id ch hch hr
  · obtain hdone | hanswered := (Bool.or_eq_true _ _).mp hdone
    · exact h.done id hdone
    · exact h.answered x (of_decide_eq_true hanswered)
  · obtain ⟨hfile, hsame⟩ | hnone | hreadable := rewrites_step (s := s) x
    · rw [Readable, hfile]
      exact h.readable id (hsame.symm.trans hauthor)
    · cases hnone.symm.trans hauthor
    · exact hreadable

omit [ContractIdText ContractId] in
theorem inv_new (wallet : FundingWorld) : (new wallet : CompletedChannels ContractId).Inv := by
  constructor
  · intro id ch hch
    cases hch
  · intro id hdone
    cases hdone
  · intro id hauthor
    cases hauthor

/-- Along a run every ChannelPending that has been answered with Ok can be handled
again exactly when the first completion has left the details behind. -/
theorem idempotent_run_iff (wallet : FundingWorld) (steps : List ChannelStep) :
    Mealy.Along step Idempotent (new wallet : CompletedChannels ContractId) steps ↔
      Mealy.Along step LeftBehind (new wallet : CompletedChannels ContractId) steps := by
  refine Mealy.along_iff_of_invariant (I := Inv) (fun s x h => ?_) (fun _ x h _ => inv_step h x)
    (inv_new wallet)
  cases x with
  | channelPending id read =>
    refine imp_congr_right fun hdone => ?_
    obtain ⟨ch, hch, hpsbt⟩ := h.done id hdone
    exact deliver_again_iff hch hpsbt (h.readable id) read
  | completeSend id io psbt => exact idempotent_completeSend_iff io psbt
  | _ => exact Iff.rfl

open Channels (channelOf600 emptyWallet fundChannel lifeOf600 requestAsset1 workingBegin)

/-- The whole life of a channel without colour. -/
def plainLife : List ChannelStep :=
  [.openChannel ∅ ⟨none, none, none, 50000, 0, true⟩ (.ok 0), .trial workingBegin .nia "none"] ++
    fundChannel channelOf600 ++ [.completeBtc channelOf600]

/-- A second open has written its details and taken the lock. -/
def secondOpen : List ChannelStep := requestAsset1 300 ++ [.setLock]

/-- A ChannelPending delivered again is asked for once more, without colour and
with, and in a second open it reads that one's details. -/
theorem delivered_again :
    ¬Mealy.Along step Idempotent (new emptyWallet : CompletedChannels ℕ)
        (plainLife ++ [.channelPending channelOf600 (.ok ())]) ∧
      ¬Mealy.Along step Idempotent (new emptyWallet : CompletedChannels ℕ)
        (lifeOf600 ++ [.channelPending channelOf600 (.ok ())]) ∧
      ¬Mealy.Along step Idempotent (new emptyWallet : CompletedChannels ℕ)
        (lifeOf600 ++ secondOpen ++ [.channelPending channelOf600 (.ok ())]) := by
  have hknown : Known (.error "Transaction already in utxo set")
      (.signed ⟨"f00d", [⟨50000, ⟨[0, 32]⟩⟩]⟩) :=
    known_of_output ⟨"f00d", 0⟩ (by decide +kernel)
  refine ⟨?_, ?_, ?_⟩
  · intro h
    obtain ⟨-, hplain, -⟩ := (Mealy.along_append ..).mp h
    obtain ⟨-, hreplay⟩ := hplain (by decide +kernel) _ _ hknown
    exact hreplay (by decide +kernel)
  · intro h
    obtain ⟨-, hcolored, -⟩ := (Mealy.along_append ..).mp h
    obtain ⟨-, hreplay⟩ := hcolored (by decide +kernel) _ _ hknown
    exact hreplay (by decide +kernel)
  · intro h
    obtain ⟨-, hother, -⟩ := (Mealy.along_append ..).mp h
    obtain ⟨hreads, -⟩ := hother (by decide +kernel) _ _ hknown
    exact absurd (hreads ⟨"1", 300⟩ (by decide +kernel)) (by decide +kernel)

end CompletedChannels

end RgbLightningNode
