import RgbLightningNode.Lib.Mealy
import RgbLightningNode.SwapString
import RgbLightningNode.Channels.Opening

/-!
# The transfer details of a channel

The details in the shared file are those of the one coloured channel whose open is
under way, as long as no second coloured request passes the lock before that
channel's ChannelPending has been handled.
-/

namespace RgbLightningNode

open Fallible SerdeJson

variable {ContractId : Type}

/-- The request under way is for a coloured channel. -/
def Opening.Colored : Opening ContractId → Prop
  | .idle => False
  | .checked colored _ => colored.isSome
  | .begun rgbInfo | .locked rgbInfo | .created _ rgbInfo => rgbInfo.isSome

namespace Channels

/-- What send_end reads for a channel is what the last send_begin for that
channel's own funding wrote. -/
def ReadsOwn [ContractIdText ContractId] (w : Channels ContractId) : ChannelStep → Prop
  | .channelPending id read => ∀ details, (w.step (.channelPending id read)).1 = some details →
      ∃ ch, w.own id = some ch ∧ ch.begun = some details
  | _ => True

def NoneOnItsWay (w : Channels ContractId) : Prop :=
  ∀ id ch, w.own id = some ch → ¬ch.OnItsWay

/-- No coloured request gets past the lock while a coloured channel is on its
way; the info file is there before the funding is generated; and a ChannelPending
that comes once more finds no details. -/
def Exclusive [ContractIdText ContractId] (w : Channels ContractId) : ChannelStep → Prop
  | .openChannel channelIds req balance => ∀ colored : ContractId × Nat, w.opening = .idle →
      openChannelChecks w.rgbSendLock channelIds req balance = .ok (some colored) → w.NoneOnItsWay
  | .fundingGenerationReady id _ _ _ => ∀ rgbInfo, w.opening ≠ .created id (some rgbInfo)
  | .channelPending id _ => ∀ ch, w.own id = some ch → ch.phase ≠ .funded →
      w.wallet.pendingRgbTransfer = .missing
  | _ => True

/-- At most one coloured channel is on its way, and none while a coloured request
is served; once its funding is begun, the file holds that channel's details. -/
structure Inv (w : Channels ContractId) : Prop where
  one : ∀ id id' ch ch', w.own id = some ch → w.own id' = some ch' → ch.OnItsWay → ch'.OnItsWay →
    id = id'
  free : w.opening.Colored → w.NoneOnItsWay
  file : ∀ id ch, w.own id = some ch → ch.OnItsWay → ch.phase ≠ .unfunded → ∀ details,
    readTransferDetails (.ok ()) w.wallet.pendingRgbTransfer = .ok details → ch.begun = some details
  fresh : ∀ id rgbInfo ch, w.opening = .created id (some rgbInfo) → w.own id = some ch →
    ch.phase = .unfunded ∨ ch.phase = .gone

variable {w : Channels ContractId}

/-! ### What is read from the file -/

/-- The details that a send_begin wrote are read back. -/
theorem readTransferDetails_json {contractId : String} {amount btcAmountSat : Nat}
    {details : TransferDetails} (h : readTransferDetails (.ok ())
      (.doc (transferDetailsJson contractId amount btcAmountSat)) = .ok details) :
    details = ⟨contractId, amount⟩ := by
  obtain ⟨v, hv, h⟩ := except_bind_eq_ok_iff.mp h
  obtain rfl := Except.ok.inj hv
  obtain ⟨c, hc, h⟩ := except_bind_eq_ok_iff.mp h
  obtain ⟨a, ha, h⟩ := except_bind_eq_ok_iff.mp h
  obtain rfl := Except.ok.inj h
  have hc := orErr_eq_ok_iff.mp hc
  have ha := orErr_eq_ok_iff.mp ha
  obtain rfl : contractId = c := Option.some.inj hc
  change (if amount < 2 ^ 64 then some amount else none) = some a at ha
  split at ha
  · obtain rfl := Option.some.inj ha
    rfl
  · cases ha

theorem readTransferDetails_missing (io : Except String Unit) (details : TransferDetails) :
    readTransferDetails io .missing ≠ .ok details := by
  intro h
  obtain ⟨v, hv, -⟩ := except_bind_eq_ok_iff.mp h
  cases hv

/-! ### Changes that keep the invariant -/

/-- A change after which no other channel is on its way, no other request is
coloured, and the file holds what it held or is gone. -/
structure StartsNothing (w w' : Channels ContractId) : Prop where
  own : ∀ id ch', w'.own id = some ch' → ch'.OnItsWay → ∃ ch, w.own id = some ch ∧ ch.OnItsWay ∧
    (ch'.phase ≠ .unfunded → ch.phase ≠ .unfunded ∧ ch'.begun = ch.begun)
  opening : w'.opening.Colored → w.opening.Colored
  pending : w'.wallet.pendingRgbTransfer = w.wallet.pendingRgbTransfer ∨
    w'.wallet.pendingRgbTransfer = .missing
  fresh : ∀ id rgbInfo ch', w'.opening = .created id (some rgbInfo) → w'.own id = some ch' →
    ch'.phase = .unfunded ∨ ch'.phase = .gone

theorem Inv.of_startsNothing {w' : Channels ContractId} (h : w.Inv) (hs : StartsNothing w w') :
    w'.Inv where
  one := fun id id' ch ch' hch hch' hway hway' => by
    obtain ⟨c, hc, hcway, -⟩ := hs.own id ch hch hway
    obtain ⟨c', hc', hcway', -⟩ := hs.own id' ch' hch' hway'
    exact h.one id id' c c' hc hc' hcway hcway'
  free := fun hcolored id ch hch hway => by
    obtain ⟨c, hc, hcway, -⟩ := hs.own id ch hch hway
    exact h.free (hs.opening hcolored) id c hc hcway
  file := fun id ch hch hway hphase details hread => by
    obtain ⟨c, hc, hcway, hsame⟩ := hs.own id ch hch hway
    obtain ⟨hcphase, hbegun⟩ := hsame hphase
    -- details that are removed are not read by anyone
    rcases hs.pending with hp | hp <;> rw [hp] at hread
    · exact hbegun.trans (h.file id c hc hcway hcphase details hread)
    · exact absurd hread (readTransferDetails_missing _ _)
  fresh := hs.fresh

theorem Inv.of_noneOnItsWay (h : w.NoneOnItsWay)
    (hfresh : ∀ id rgbInfo ch, w.opening = .created id (some rgbInfo) → w.own id = some ch →
      ch.phase = .unfunded ∨ ch.phase = .gone) : w.Inv where
  one := fun id _ ch _ hch _ hway => absurd hway (h id ch hch)
  free := fun _ => h
  file := fun id ch hch hway => absurd hway (h id ch hch)
  fresh := hfresh

theorem Inv.setLock (h : w.Inv) (b : Bool) : Inv { w with rgbSendLock := b } :=
  ⟨h.one, h.free, h.file, h.fresh⟩

theorem Inv.setOpening (h : w.Inv) {o : Opening ContractId} (ho : ¬o.Colored) :
    Inv { w with opening := o } := by
  refine h.of_startsNothing ⟨fun _ ch hch hway => ⟨ch, hch, hway, fun hp => ⟨hp, rfl⟩⟩,
    fun hc => absurd hc ho, .inl rfl, ?_⟩
  rintro id rgbInfo ch rfl
  exact absurd rfl ho

theorem Inv.setWallet (h : w.Inv) {wallet : FundingWorld}
    (hp : wallet.pendingRgbTransfer = w.wallet.pendingRgbTransfer ∨
      wallet.pendingRgbTransfer = .missing) : Inv { w with wallet := wallet } :=
  h.of_startsNothing ⟨fun _ ch hch hway => ⟨ch, hch, hway, fun hp => ⟨hp, rfl⟩⟩, id, hp, h.fresh⟩

theorem own_update (w : Channels ContractId) (id : ChannelId)
    (f : OwnChannel ContractId → OwnChannel ContractId) (id' : ChannelId) :
    (w.update id f).own id' = if id' = id then (w.own id).map f else w.own id' := by
  simp only [update, Function.update_apply]

/-- A channel after the change is the changed one, or one that was there. -/
theorem own_update_cases {id id' : ChannelId} {f : OwnChannel ContractId → OwnChannel ContractId}
    {ch' : OwnChannel ContractId} (h : (w.update id f).own id' = some ch') :
    (id' = id ∧ ∃ ch, w.own id = some ch ∧ f ch = ch') ∨ w.own id' = some ch' := by
  rw [own_update] at h
  split at h
  · rename_i heq
    exact .inl ⟨heq, Option.map_eq_some_iff.mp h⟩
  · exact .inr h

/-- A channel that is changed, and is on its way only if it was so before. -/
theorem Inv.update (h : w.Inv) {id : ChannelId} {f : OwnChannel ContractId → OwnChannel ContractId}
    (hway : ∀ ch, w.own id = some ch → (f ch).OnItsWay → ch.OnItsWay ∧
      ((f ch).phase ≠ .unfunded → ch.phase ≠ .unfunded ∧ (f ch).begun = ch.begun))
    (hfresh : ∀ ch rgbInfo, w.own id = some ch → w.opening = .created id (some rgbInfo) →
      ch.phase = .unfunded ∨ ch.phase = .gone → (f ch).phase = .unfunded ∨ (f ch).phase = .gone) :
    Inv (w.update id f) := by
  refine h.of_startsNothing ⟨fun id' ch' hch' hon => ?_, fun hc => hc, .inl rfl,
    fun id' rgbInfo ch' ho hch' => ?_⟩
  · obtain ⟨rfl, ch, hch, rfl⟩ | hch' := own_update_cases hch'
    · exact ⟨ch, hch, hway ch hch hon⟩
    · exact ⟨ch', hch', hon, fun hp => ⟨hp, rfl⟩⟩
  · obtain ⟨rfl, ch, hch, rfl⟩ | hch' := own_update_cases hch'
    · exact hfresh ch rgbInfo hch ho (h.fresh id' rgbInfo ch ho hch)
    · exact h.fresh id' rgbInfo ch' ho hch'

/-! ### One step -/

theorem OwnChannel.not_onItsWay_of_colorless {ch : OwnChannel ContractId} (h : ch.rgbInfo = none) :
    ¬ch.OnItsWay := by
  rintro ⟨hi, -⟩
  rw [h] at hi
  cases hi

variable [ContractIdText ContractId]

theorem Inv.openChannel (h : w.Inv) {channelIds : HashMap ChannelId ChannelId}
    {req : OpenChannelRequest} {balance : Except String Nat}
    (hx : w.Exclusive (.openChannel channelIds req balance)) :
    Inv (w.runOpenChannel channelIds req balance) := by
  unfold runOpenChannel
  split
  swap
  · exact h
  rename_i hidle
  rcases hc : openChannelChecks w.rgbSendLock channelIds req balance with e | _ | colored
  · exact h
  · exact h.setOpening (by simp [Opening.Colored])
  · exact .of_noneOnItsWay (hx colored hidle hc) (by simp)

theorem Inv.runTrial (hnone : w.NoneOnItsWay) (io : SendBeginIo String) (schema : AssetSchema)
    (recipientId : String) (contractId : ContractId) (amt cap : Nat) :
    Inv (w.runTrial io schema recipientId contractId amt cap) := by
  unfold Channels.runTrial
  split
  · exact .of_noneOnItsWay hnone (by simp)
  split <;> exact .of_noneOnItsWay hnone (by simp)

omit [ContractIdText ContractId] in
theorem Inv.runCreateChannel (h : w.Inv) {rgbInfo : Option (RgbInfo ContractId)}
    (ho : w.opening = .locked rgbInfo) (answer : Option ChannelId) :
    Inv (w.runCreateChannel rgbInfo answer) := by
  unfold Channels.runCreateChannel
  rcases answer with _ | id
  · exact (h.setLock false).setOpening (by simp [Opening.Colored])
  simp only
  split
  · exact h
  have hcolored : Opening.Colored (.created id rgbInfo) → w.opening.Colored := fun hc => by
    rw [ho]
    exact hc
  refine h.of_startsNothing ⟨fun id' ch' hch' hon => ?_, hcolored, .inl rfl, ?_⟩
  · by_cases heq : id' = id
    · -- the new channel has no info file yet
      subst heq
      simp only [Function.update_self] at hch'
      obtain rfl := Option.some.inj hch'
      exact absurd hon (OwnChannel.not_onItsWay_of_colorless rfl)
    · simp only [Function.update_of_ne heq] at hch'
      exact ⟨ch', hch', hon, fun hp => ⟨hp, rfl⟩⟩
  · intro id' rgbInfo' ch' ho' hch'
    obtain ⟨rfl, -⟩ := Opening.created.inj ho'
    simp only [Function.update_self] at hch'
    obtain rfl := Option.some.inj hch'
    exact .inl rfl

omit [ContractIdText ContractId] in
/-- The info file of a new channel makes it the one on its way. -/
theorem Inv.writeInfo (h : w.Inv) {id : ChannelId} {rgbInfo : RgbInfo ContractId}
    (ho : w.opening = .created id (some rgbInfo)) :
    Inv ({ w with opening := .idle }.update id fun ch => { ch with rgbInfo := some rgbInfo }) := by
  have hnone : w.NoneOnItsWay := h.free (by rw [ho]; rfl)
  have hown : ∀ id' ch', ({ w with opening := Opening.idle }.update id fun ch =>
      { ch with rgbInfo := some rgbInfo }).own id' = some ch' → ch'.OnItsWay →
        id' = id ∧ ch'.phase = .unfunded := by
    intro id' ch' hch' hon
    rw [own_update] at hch'
    split at hch'
    · obtain ⟨ch, hch, rfl⟩ := Option.map_eq_some_iff.mp hch'
      refine ⟨‹_›, (h.fresh id rgbInfo ch ho hch).resolve_right fun hgone => ?_⟩
      obtain ⟨-, hp | hp | hp⟩ := hon <;> exact absurd (hgone.symm.trans hp) (by decide)
    · exact absurd hon (hnone id' ch' hch')
  refine ⟨?_, fun hc => absurd hc (by simp [Channels.update, Opening.Colored]), ?_, ?_⟩
  · intro id₁ id₂ ch₁ ch₂ h₁ h₂ hon₁ hon₂
    exact (hown _ _ h₁ hon₁).1.trans (hown _ _ h₂ hon₂).1.symm
  · intro id' ch' hch' hon hphase
    exact absurd (hown _ _ hch' hon).2 hphase
  · intro id' rgbInfo' ch' ho'
    cases ho'

/-- A funding that is begun puts its own details into the file. -/
theorem Inv.runSendBegin (h : w.Inv) {id : ChannelId} {ch : OwnChannel ContractId}
    {rgbInfo : RgbInfo ContractId} (hch : w.own id = some ch) (hi : ch.rgbInfo = some rgbInfo)
    (hp : ch.phase = .unfunded) (io : SendBeginIo String) (recipientId : String) (amountSat : Nat) :
    Inv (w.runSendBegin id io recipientId amountSat rgbInfo) := by
  have hon : ch.OnItsWay := ⟨by rw [hi]; rfl, .inl hp⟩
  have hcolorless : ¬w.opening.Colored := fun hc => h.free hc id ch hch hon
  unfold Channels.runSendBegin
  split
  · exact h
  rename_i assignment hassign
  rcases hs : sendBegin io (recipientMap rgbInfo.contractId recipientId amountSat assignment)
    feeRate w.wallet with ⟨psbt, wallet⟩ | ⟨exit, wallet⟩
  swap
  · exact h.setWallet (.inl (by rw [sendBegin_of_error hs]))
  obtain ⟨_, _, hamount, -, -, rfl⟩ := sendBegin_of_ok hs
  -- the channel is the one on its way, so no other channel reads what is written now
  have hothers : ∀ id' ch', w.own id' = some ch' → ch'.OnItsWay → id' = id :=
    fun id' ch' hch' hon' => h.one id' id ch' ch hch' hch hon' hon
  have hown : ∀ id' ch', Channels.own (Channels.update id (fun ch => { ch with
      phase := .generating
      begun := some ⟨ContractIdText.toText rgbInfo.contractId, assignment.rgbAmount⟩ }) w) id' =
        some ch' → ch'.OnItsWay →
      id' = id ∧
        ch'.begun = some ⟨ContractIdText.toText rgbInfo.contractId, assignment.rgbAmount⟩ := by
    intro id' ch' hch' hon'
    rw [own_update] at hch'
    split at hch'
    · obtain ⟨c, -, rfl⟩ := Option.map_eq_some_iff.mp hch'
      exact ⟨‹_›, rfl⟩
    · exact absurd (hothers id' ch' hch' hon') ‹_›
  refine ⟨?_, fun hc => absurd hc hcolorless, ?_, ?_⟩
  · intro id₁ id₂ ch₁ ch₂ h₁ h₂ hon₁ hon₂
    exact (hown _ _ h₁ hon₁).1.trans (hown _ _ h₂ hon₂).1.symm
  · intro id' ch' hch' hon' _ details hread
    rw [(hown _ _ hch' hon').2, readTransferDetails_json hread]
  · intro id' rgbInfo' ch' ho'
    exact absurd (by rw [show w.opening = _ from ho']; rfl) hcolorless

omit [ContractIdText ContractId] in
/-- The answer to a funding transaction moves a channel on, or takes it away. -/
theorem Inv.runFundingGenerated (h : w.Inv) {id : ChannelId} {ch : OwnChannel ContractId}
    (hch : w.own id = some ch) (hp : ch.phase = .generating) (answer : FundingAnswer) :
    Inv (w.runFundingGenerated id answer) := by
  have hsame : ∀ ch', w.own id = some ch' → ch' = ch := fun ch' hch' =>
    Option.some.inj (hch'.symm.trans hch)
  cases answer with
  | replay =>
    refine h.update ?_ fun _ _ _ _ _ => .inl rfl
    rintro ch' hch' ⟨hi, -⟩
    obtain rfl := hsame ch' hch'
    exact ⟨⟨hi, .inr (.inl hp)⟩, fun hne => absurd rfl hne⟩
  | refused =>
    refine (h.setLock false).update ?_ fun _ _ _ _ _ => .inr rfl
    rintro ch' - ⟨-, hgone | hgone | hgone⟩ <;> cases hgone
  | registered =>
    refine h.update ?_ ?_
    · rintro ch' hch' ⟨hi, -⟩
      obtain rfl := hsame ch' hch'
      exact ⟨⟨hi, .inr (.inl hp)⟩, fun _ => ⟨by rw [hp]; decide, rfl⟩⟩
    · rintro ch' - hch' - hfresh
      obtain rfl := hsame ch' hch'
      rw [hp] at hfresh
      rcases hfresh with hfresh | hfresh <;> cases hfresh

/-- A channel whose ChannelPending has been handled is not on its way. -/
theorem handled_eq_of_onItsWay {phase : ChannelPhase}
    (h : phase.handled = .unfunded ∨ phase.handled = .generating ∨ phase.handled = .funded) :
    phase.handled = phase := by
  cases phase with
  | funded => rcases h with h | h | h <;> cases h
  | _ => rfl

omit [ContractIdText ContractId] in
/-- Handling a ChannelPending only takes channels off their way. -/
theorem Inv.handled (h : w.Inv) (id : ChannelId) (f : OwnChannel ContractId → OwnChannel ContractId)
    (hi : ∀ ch, (f ch).rgbInfo = ch.rgbInfo) (hp : ∀ ch, (f ch).phase = ch.phase.handled)
    (hb : ∀ ch, (f ch).begun = ch.begun) : Inv (w.update id f) := by
  refine h.update ?_ ?_
  · rintro ch - ⟨hcolored, hphase⟩
    rw [hi] at hcolored
    rw [hp] at hphase
    have heq := handled_eq_of_onItsWay hphase
    refine ⟨⟨hcolored, by rwa [heq] at hphase⟩, fun hne => ?_⟩
    rw [hp, heq] at hne
    exact ⟨hne, hb ch⟩
  · rintro ch - - - hfresh
    rw [hp]
    rcases hfresh with hfresh | hfresh <;> simp [hfresh, ChannelPhase.handled]

omit [ContractIdText ContractId] in
/-- Whatever a channel's completion answers, the file holds what it held or is
gone. -/
theorem Inv.runCompleteSend (h : w.Inv) (id : ChannelId) (io : SendEndIo) (psbt : SignedPsbt)
    (details : TransferDetails) : Inv (w.runCompleteSend id io psbt details) := by
  have hpending := pending_after_completeSend io psbt details w.wallet
  unfold Channels.runCompleteSend
  rcases hc : completeSend io psbt details w.wallet with ⟨txid, wallet⟩ | ⟨exit, wallet⟩
  · rw [after_of_ok hc] at hpending
    exact ((h.setWallet hpending).setLock false).handled id _ (fun _ => rfl) (fun _ => rfl)
      fun _ => rfl
  · rw [after_of_error hc] at hpending
    refine (h.setWallet hpending).update ?_ fun _ _ _ _ hfresh => hfresh
    exact fun ch _ hon => ⟨hon, fun hne => ⟨hne, rfl⟩⟩

omit [ContractIdText ContractId] in
theorem Inv.gone (h : w.Inv) (id : ChannelId) (f : OwnChannel ContractId → OwnChannel ContractId)
    (hp : ∀ ch, (f ch).phase = .gone) : Inv (w.update id f) := by
  refine h.update ?_ fun ch _ _ _ _ => .inr (hp ch)
  rintro ch - ⟨-, hphase⟩
  rw [hp] at hphase
  rcases hphase with hphase | hphase | hphase <;> cases hphase

omit [ContractIdText ContractId] in
/-- After a restart the channels on their way are those with a transaction. -/
theorem Inv.restart (h : w.Inv) : Inv { w with
    rgbSendLock := false
    opening := .idle
    own := fun id => (w.own id).map OwnChannel.restarted } := by
  refine h.of_startsNothing ⟨fun id ch' hch' hon => ?_, fun hc => hc.elim, .inl rfl,
    fun id rgbInfo ch' ho => by cases ho⟩
  obtain ⟨ch, hch, rfl⟩ := Option.map_eq_some_iff.mp hch'
  obtain ⟨hi, hphase⟩ := hon
  have hkept : ¬(ch.phase = .unfunded ∨ ch.phase = .generating) := fun hp => by
    simp [OwnChannel.restarted, hp] at hphase
  have hsame : ch.restarted.phase = ch.phase := if_neg hkept
  rw [hsame] at hphase ⊢
  exact ⟨ch, hch, ⟨hi, hphase⟩, fun hne => ⟨hne, rfl⟩⟩

/-- Every step that meets the condition keeps the invariant. -/
theorem inv_step (h : w.Inv) (s : ChannelStep) (hx : w.Exclusive s) : Inv (w.step s).2 := by
  cases s with
  | openChannel channelIds req balance => exact h.openChannel hx
  | refuse =>
    simp only [step]
    split
    · exact h.setOpening (by simp [Opening.Colored])
    · exact h
  | trial io schema recipientId =>
    simp only [step]
    split
    · rename_i ho
      exact .runTrial (h.free (by rw [ho]; rfl)) ..
    · exact h.setOpening (by simp [Opening.Colored])
    · exact h
  | setLock =>
    simp only [step]
    split
    · rename_i rgbInfo ho
      refine ⟨h.one, fun hc => h.free (by rw [ho]; exact hc), h.file, ?_⟩
      intro id rgbInfo' ch ho'
      cases ho'
    · exact h
  | createChannel answer =>
    simp only [step]
    split
    · exact h.runCreateChannel ‹_› answer
    · exact h
  | writeInfo =>
    simp only [step]
    split
    · exact h.writeInfo ‹_›
    · exact h.setOpening (by simp [Opening.Colored])
    · exact h
  | fundingGenerationReady id io recipientId amountSat =>
    simp only [step]
    split
    · exact h.runSendBegin ‹_› rfl rfl io recipientId amountSat
    · rename_i hch
      refine h.update ?_ ?_
      · rintro ch hch' hon
        obtain rfl := Option.some.inj (hch'.symm.trans hch)
        exact absurd hon (OwnChannel.not_onItsWay_of_colorless rfl)
      · intro ch rgbInfo _ ho
        exact absurd ho (hx rgbInfo)
    · exact h
  | fundingGenerated id answer =>
    simp only [step]
    split
    · exact h.runFundingGenerated ‹_› rfl answer
    · exact h
  | channelPending id read =>
    simp only [step]
    split
    · split
      · refine h.update ?_ fun _ _ _ _ hfresh => hfresh
        exact fun ch _ hon => ⟨hon, fun hne => ⟨hne, rfl⟩⟩
      · exact h
    · exact h
  | completeSend id io psbt =>
    simp only [step]
    split
    · exact h.runCompleteSend id io psbt _
    · exact h
  | completeBtc id =>
    simp only [step]
    split
    · exact (h.setLock false).handled id _ (fun _ => rfl) (fun _ => rfl) fun _ => rfl
    · exact h
  | channelClosed id removesInfo => exact h.gone id _ fun _ => rfl
  | discardFunding id => exact (h.setLock false).gone id _ fun _ => rfl
  | restart => exact h.restart

/-! ### Runs -/

/-- Under the invariant a completion reads what its own funding wrote. -/
theorem readsOwn_of_inv (h : w.Inv) (s : ChannelStep) (hx : w.Exclusive s) : w.ReadsOwn s := by
  cases s with
  | channelPending id read =>
    intro details hread
    simp only [step] at hread
    split at hread
    swap
    · cases hread
    rename_i phase rgbInfo reading begun hch
    split at hread
    swap
    · cases hread
    rename_i details' hfile
    obtain rfl := Option.some.inj hread
    rw [readTransferDetails_io hfile] at hfile
    refine ⟨_, hch, ?_⟩
    -- a channel on its way, or an event that is delivered once more
    by_cases hp : phase = .funded
    · exact h.file id _ hch ⟨rfl, .inr (.inr hp)⟩
        (fun hne => absurd (hp.symm.trans hne) (by decide)) details' hfile
    · rw [hx _ hch hp] at hfile
      exact absurd hfile (readTransferDetails_missing _ _)
  | _ => trivial

omit [ContractIdText ContractId] in
theorem inv_new (wallet : FundingWorld) : (Channels.new wallet : Channels ContractId).Inv :=
  .of_noneOnItsWay (fun _ _ hch => by cases hch) (fun _ _ _ ho => by cases ho)

/-- In every run in which no coloured request gets past the lock early, each
completion reads the details of its own channel. -/
theorem readsOwn_run (wallet : FundingWorld) {steps : List ChannelStep}
    (h : Mealy.Along step Exclusive (.new wallet : Channels ContractId) steps) :
    Mealy.Along step ReadsOwn (.new wallet : Channels ContractId) steps :=
  Mealy.along_of_invariant (fun _ s hi hx => inv_step hi s hx)
    (fun _ s hi hx => readsOwn_of_inv hi s hx) (inv_new wallet) h

/-- A channel comes from a request only. -/
theorem own_step_eq_none {id : ChannelId} {s : ChannelStep} (h : w.own id = none)
    (hs : s ≠ .createChannel (some id)) : (w.step s).2.own id = none := by
  have hupdate : ∀ (w' : Channels ContractId) id' f, w'.own id = none →
      (w'.update id' f).own id = none := by
    intro w' id' f h'
    rw [own_update]
    split
    · rename_i heq
      rw [← heq, h']
      rfl
    · exact h'
  cases s with
  | openChannel channelIds req balance =>
    simp only [step, runOpenChannel]
    split
    · split <;> exact h
    · exact h
  | trial io schema recipientId =>
    simp only [step, Channels.runTrial]
    split
    · split
      · exact h
      · split <;> exact h
    · exact h
    · exact h
  | createChannel answer =>
    simp only [step, Channels.runCreateChannel]
    split
    · split
      · exact h
      · rename_i id'
        split
        · exact h
        · refine (Function.update_of_ne (fun heq => hs ?_) ..).trans h
          rw [heq]
    · exact h
  | fundingGenerationReady id' io recipientId amountSat =>
    simp only [step, Channels.runSendBegin]
    split
    · split
      · exact h
      · split
        · exact hupdate _ id' _ h
        · exact h
    · exact hupdate _ id' _ h
    · exact h
  | fundingGenerated id' answer =>
    simp only [step]
    split
    · cases answer <;> exact hupdate _ id' _ h
    · exact h
  | channelPending id' read =>
    simp only [step]
    split
    · split
      · exact hupdate _ id' _ h
      · exact h
    · exact h
  | completeSend id' io psbt =>
    simp only [step, Channels.runCompleteSend]
    split
    · split <;> exact hupdate _ id' _ h
    · exact h
  | completeBtc id' =>
    simp only [step]
    split
    · exact hupdate _ id' _ h
    · exact h
  | channelClosed id' removesInfo => exact hupdate _ id' _ h
  | discardFunding id' => exact hupdate _ id' _ h
  | restart =>
    change (w.own id).map _ = none
    rw [h]
    rfl
  | _ =>
    simp only [step]
    split <;> first | exact h | exact hupdate _ _ _ h

theorem own_final_eq_none (wallet : FundingWorld) {id : ChannelId} {steps : List ChannelStep}
    (h : ∀ s ∈ steps, s ≠ .createChannel (some id)) :
    (Mealy.final step (.new wallet : Channels ContractId) steps).own id = none :=
  Mealy.invariant_final (I := fun w : Channels ContractId => w.own id = none)
    (C := fun _ s => s ≠ ChannelStep.createChannel (some id)) (fun _ _ => own_step_eq_none) rfl
    (Mealy.along_of_forall h _)

/-! ### Two coloured channels -/

theorem exclusive_openChannel (h : w.NoneOnItsWay) {channelIds : HashMap ChannelId ChannelId}
    {req : OpenChannelRequest} {balance : Except String Nat} :
    w.Exclusive (.openChannel channelIds req balance) := fun _ _ _ => h

theorem exclusive_fundingGenerationReady (h : w.opening = .idle) {id : ChannelId}
    {io : SendBeginIo String} {recipientId : String} {amountSat : Nat} :
    w.Exclusive (.fundingGenerationReady id io recipientId amountSat) :=
  fun _ ho => by cases h.symm.trans ho

theorem exclusive_channelPending {id : ChannelId}
    (h : (w.own id).map OwnChannel.phase = some .funded) {read : Except String Unit} :
    w.Exclusive (.channelPending id read) := fun ch hch hne => by
  rw [hch] at h
  exact absurd (Option.some.inj h) hne

def workingBegin : SendBeginIo String where
  walletLoaded := true
  address := fun _ => .ok ⟨[0, 32]⟩
  occupiedUtxos := .ok []
  stateHash := fun _ => .ok [1, 2]
  parseTxid := fun text => .ok (String.ofList text)
  parseOutPoint := fun _ => .error "no outpoint"
  nextAddress := fun _ => ⟨[0, 33]⟩
  finish := fun request => .ok ⟨[⟨"cafe", 0⟩], request.recipients.map fun r => ⟨r.2, r.1⟩⟩
  write := .ok ()

/-- A completion of a transaction that the network knows already. -/
def knownEnd : SendEndIo where
  readDetails := .ok ()
  broadcast := .error "Transaction already in utxo set"
  readState := .error "not read"
  state := .missing
  contractsManager := true
  parseContractId := fun _ => .ok ()
  derivationIndex := fun _ => .ok 0
  childKey := fun _ => .ok "02aa"
  signature := fun _ _ _ => .ok ()
  contractLoaded := fun _ => true
  transfer := fun _ => .ok ()
  saveState := .ok ()
  locked := ⟨.ok (), .ok (), .ok ()⟩
  now := 100
  removeDetails := true

/-- The steps of a coloured request up to the trial. -/
def requestAsset1 (amount : Nat) : List ChannelStep :=
  [.openChannel ∅ ⟨none, some "1", some amount, 50000, 0, true⟩ (.ok 1000),
    .trial workingBegin .nia "fake script"]

/-- The rest of the request and FundingGenerationReady of its channel. -/
def fundChannel (id : ChannelId) : List ChannelStep :=
  [.setLock, .createChannel (some id), .writeInfo,
    .fundingGenerationReady id workingBegin "channel script" 50000,
    .fundingGenerated id .registered]

def channelOf600 : ChannelId := ⟨Vector.replicate 32 1⟩

def channelOf300 : ChannelId := ⟨Vector.replicate 32 2⟩

def emptyWallet : FundingWorld := ⟨.missing, .missing, false, []⟩

/-- The whole life of the first channel's funding. -/
def lifeOf600 : List ChannelStep :=
  requestAsset1 600 ++ fundChannel channelOf600 ++
    [.channelPending channelOf600 (.ok ()),
      .completeSend channelOf600 knownEnd (.signed ⟨"f00d", [⟨50000, ⟨[0, 32]⟩⟩]⟩)]

/-- A second channel, up to its ChannelPending. -/
def lifeOf300 : List ChannelStep :=
  requestAsset1 300 ++ fundChannel channelOf300 ++ [.channelPending channelOf300 (.ok ())]

/-- The node stops before the first channel's ChannelPending is handled. -/
def secondAfterRestart : List ChannelStep :=
  requestAsset1 600 ++ fundChannel channelOf600 ++ [.restart] ++ requestAsset1 300 ++
    [.channelPending channelOf600 (.ok ())]

theorem noneOnItsWay_after_lifeOf600 : NoneOnItsWay
    (Mealy.final step (.new emptyWallet : Channels ℕ) lifeOf600) := by
  intro id ch hch hon
  by_cases hid : id = channelOf600
  · subst hid
    have hphase : ((Mealy.final step (.new emptyWallet : Channels ℕ) lifeOf600).own
        channelOf600).map OwnChannel.phase = some .finished := by decide +kernel
    rw [hch] at hphase
    obtain ⟨-, hp | hp | hp⟩ := hon <;>
      exact absurd (hp.symm.trans (Option.some.inj hphase)) (by decide)
  · have hnone : (Mealy.final step (.new emptyWallet : Channels ℕ) lifeOf600).own id = none :=
      own_final_eq_none emptyWallet
        (by simp [lifeOf600, requestAsset1, fundChannel, Ne.symm hid])
    rw [hnone] at hch
    cases hch

/-- Two coloured channels, one after the other. -/
theorem readsOwn_of_two_lives :
    Mealy.Along step ReadsOwn (.new emptyWallet : Channels ℕ) (lifeOf600 ++ lifeOf300) := by
  refine readsOwn_run emptyWallet ((Mealy.along_append ..).mpr ⟨?_, ?_⟩)
  · exact ⟨exclusive_openChannel (fun _ _ hch => by cases hch), trivial, trivial, trivial, trivial,
      exclusive_fundingGenerationReady (by decide +kernel), trivial,
      exclusive_channelPending (by decide +kernel), trivial, trivial⟩
  · exact ⟨exclusive_openChannel noneOnItsWay_after_lifeOf600, trivial, trivial, trivial, trivial,
      exclusive_fundingGenerationReady (by decide +kernel), trivial,
      exclusive_channelPending (by decide +kernel), trivial⟩

/-- The first channel's completion reads what the second request has written. -/
theorem reads_details_of_another :
    ¬∀ (wallet : FundingWorld) (steps : List ChannelStep),
      Mealy.Along step ReadsOwn (.new wallet : Channels ℕ) steps := by
  intro hall
  obtain ⟨-, -, -, -, -, -, -, -, -, -, hreads, -⟩ := hall emptyWallet secondAfterRestart
  obtain ⟨ch, hch, hbegun⟩ := hreads ⟨"1", 300⟩ (by decide +kernel)
  have hown : ((Mealy.final step (.new emptyWallet : Channels ℕ) (secondAfterRestart.take 10)).own
      channelOf600).bind OwnChannel.begun = some ⟨"1", 600⟩ := by decide +kernel
  change OwnChannel.begun ch = _ at hbegun
  have hsame := hown.symm.trans ((congrArg (·.bind OwnChannel.begun) hch).trans hbegun)
  exact absurd hsame (by decide)

end Channels

end RgbLightningNode
