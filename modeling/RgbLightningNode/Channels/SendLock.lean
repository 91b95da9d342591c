import RgbLightningNode.Channels.TransferDetails

/-!
# The lock on opens

A request takes the lock on opens just before the channel is created, and the
handlers of its events are to release it on every way the open can end.
-/

namespace RgbLightningNode

open Fallible

variable {ContractId : Type}

/-- The channel has been created, and its ChannelPending is still to come. -/
def OwnChannel.InProgress (ch : OwnChannel ContractId) : Prop :=
  ch.phase = .unfunded ∨ ch.phase = .generating ∨ ch.phase = .funded

namespace Channels

/-- A channel of this node is in progress, apart from `id`. -/
def OtherInProgress (w : Channels ContractId) (id : ChannelId) : Prop :=
  ∃ id' ch, id' ≠ id ∧ w.own id' = some ch ∧ ch.InProgress

/-- An open is in progress: its channel is, or its request is creating it. -/
def OpenInProgress (w : Channels ContractId) : Prop :=
  (∃ rgbInfo, w.opening = .locked rgbInfo) ∨ ∃ id ch, w.own id = some ch ∧ ch.InProgress

/-- The lock is held by an open in progress only. -/
def HeldByOpen (w : Channels ContractId) : Prop := w.rgbSendLock = true → w.OpenInProgress

variable {w w' : Channels ContractId}

/-- A change that takes no lock and ends no open. -/
structure EndsNoOpen (w w' : Channels ContractId) : Prop where
  lock : w'.rgbSendLock = true → w.rgbSendLock = true
  opens : w.OpenInProgress → w'.OpenInProgress

theorem HeldByOpen.of_endsNoOpen (h : w.HeldByOpen) (hw : EndsNoOpen w w') : w'.HeldByOpen :=
  fun hlock => hw.opens (h (hw.lock hlock))

theorem heldByOpen_of_released (h : w.rgbSendLock = false) : w.HeldByOpen := by
  intro hlock
  rw [h] at hlock
  cases hlock

theorem EndsNoOpen.refl (w : Channels ContractId) : EndsNoOpen w w := ⟨id, id⟩

/-- The request enters a stage from one without the lock. -/
theorem endsNoOpen_opening {o : Opening ContractId} {wallet : FundingWorld}
    (h : ∀ rgbInfo, w.opening ≠ .locked rgbInfo) :
    EndsNoOpen w { w with opening := o, wallet := wallet } := by
  refine ⟨id, ?_⟩
  rintro (⟨rgbInfo, hlocked⟩ | hown)
  · exact absurd hlocked (h rgbInfo)
  · exact .inr hown

/-- A channel that is in progress stays so when it is changed. -/
theorem endsNoOpen_update {id : ChannelId} {f : OwnChannel ContractId → OwnChannel ContractId}
    {wallet : FundingWorld}
    (hf : ∀ ch, w.own id = some ch → ch.InProgress → (f ch).InProgress) :
    EndsNoOpen w (Channels.update id f { w with wallet := wallet }) := by
  refine ⟨fun h => h, ?_⟩
  rintro (hlocked | ⟨id', ch, hch, hon⟩)
  · exact .inl hlocked
  · refine .inr ?_
    by_cases heq : id' = id
    · subst heq
      exact ⟨id', f ch, by rw [own_update, if_pos rfl, hch]; rfl, hf ch hch hon⟩
    · exact ⟨id', ch, by rw [own_update, if_neg heq, hch], hon⟩

theorem endsNoOpen_wallet (w : Channels ContractId) (wallet : FundingWorld) :
    EndsNoOpen w { w with wallet := wallet } :=
  ⟨fun h => h, fun h => h⟩

/-- The channel that is closed is in progress no more; all others are as they were. -/
theorem openInProgress_closed_iff {id : ChannelId}
    {f : OwnChannel ContractId → OwnChannel ContractId} (hf : ∀ ch, (f ch).phase = .gone) :
    (w.update id f).OpenInProgress ↔
      (∃ rgbInfo, w.opening = .locked rgbInfo) ∨ w.OtherInProgress id := by
  constructor
  · rintro (hlocked | ⟨id', ch, hch, hon⟩)
    · exact .inl hlocked
    · refine .inr ?_
      rw [own_update] at hch
      split at hch
      · obtain ⟨ch', -, rfl⟩ := Option.map_eq_some_iff.mp hch
        obtain hp | hp | hp := hon <;> exact absurd ((hf ch').symm.trans hp) (by decide)
      · exact ⟨id', ch, ‹_›, hch, hon⟩
  · rintro (hlocked | ⟨id', ch, hne, hch, hon⟩)
    · exact .inl hlocked
    · exact .inr ⟨id', ch, by rw [own_update, if_neg hne, hch], hon⟩

/-! ### The answer to a request -/

theorem checkTemporaryChannelId_ne (channelIds : HashMap ChannelId ChannelId)
    (text : Option String) :
    checkTemporaryChannelId channelIds text ≠ .error .openChannelInProgress := by
  intro h
  cases text with
  | none => cases h
  | some text =>
    obtain h | ⟨tmpChanId, -, h⟩ := except_bind_eq_error_iff.mp h
    · unfold checkChannelId at h
      split at h <;> cases h
    · split at h <;> cases h

variable [ContractIdText ContractId]

/-- Without the lock no request is told that an open is in progress. -/
theorem checkOpenChannel_released (channelIds : HashMap ChannelId ChannelId)
    (req : OpenChannelRequest) :
    (checkOpenChannel false channelIds req :
      Except APIError (Option ChannelId × Option (ContractId × Nat))) ≠
        .error .openChannelInProgress := by
  intro h
  obtain h | ⟨_, -, h⟩ := except_bind_eq_error_iff.mp h
  · exact checkTemporaryChannelId_ne channelIds _ h
  obtain h | ⟨_, -, h⟩ := except_bind_eq_error_iff.mp h
  · unfold coloredInfo at h
    grind
  obtain h | ⟨_, -, h⟩ := except_bind_eq_error_iff.mp h
  · unfold checkCapacity at h
    grind
  cases h

theorem openChannelChecks_released (channelIds : HashMap ChannelId ChannelId)
    (req : OpenChannelRequest) (balance : Except String Nat) :
    (openChannelChecks false channelIds req balance :
      Except APIError (Option (ContractId × Nat))) ≠ .error .openChannelInProgress := by
  intro h
  obtain h | ⟨⟨_, colored⟩, -, h⟩ := except_bind_eq_error_iff.mp h
  · exact checkOpenChannel_released channelIds req h
  cases colored with
  | none => cases h
  | some info =>
    obtain ⟨contractId, assetAmount⟩ := info
    simp only at h
    split at h
    · cases h
    · cases h
    · obtain h | ⟨_, -, h⟩ := except_bind_eq_error_iff.mp h
      · unfold checkSpendable at h
        split at h <;> cases h
      · cases h

/-! ### One step -/

/-- The lock is held by an open in progress, and without one no request is told
that there is one. -/
def LockJustified (w : Channels ContractId) : Prop :=
  w.HeldByOpen ∧ (¬w.OpenInProgress → ∀ channelIds req balance,
    (openChannelChecks w.rgbSendLock channelIds req balance :
      Except APIError (Option (ContractId × Nat))) ≠ .error .openChannelInProgress)

theorem lockJustified_iff : w.LockJustified ↔ w.HeldByOpen := by
  refine ⟨And.left, fun h => ⟨h, fun hnone channelIds req balance => ?_⟩⟩
  cases hlock : w.rgbSendLock with
  | true => exact absurd (h hlock) hnone
  | false => exact openChannelChecks_released channelIds req balance

/-- The channel that is closed is not the only open in progress while the lock is
held. -/
def ClosesAnother (w : Channels ContractId) : ChannelStep → Prop
  | .channelClosed id _ => w.rgbSendLock = true →
      (∃ rgbInfo, w.opening = .locked rgbInfo) ∨ w.OtherInProgress id
  | _ => True

theorem heldByOpen_closed_iff (id : ChannelId) (removesInfo : Bool) :
    (w.step (.channelClosed id removesInfo)).2.HeldByOpen ↔
      w.ClosesAnother (.channelClosed id removesInfo) :=
  imp_congr_right fun _ => openInProgress_closed_iff fun _ => rfl

theorem endsNoOpen_openChannel (channelIds : HashMap ChannelId ChannelId)
    (req : OpenChannelRequest) (balance : Except String Nat) :
    EndsNoOpen w (w.runOpenChannel channelIds req balance) := by
  unfold runOpenChannel
  split
  · rename_i hidle
    split
    · exact endsNoOpen_opening fun rgbInfo ho => by cases hidle.symm.trans ho
    · exact .refl w
  · exact .refl w

theorem endsNoOpen_runTrial {colored : Option (ContractId × Nat)} {cap : Nat}
    (ho : w.opening = .checked colored cap) (io : SendBeginIo String) (schema : AssetSchema)
    (recipientId : String) (contractId : ContractId) (amt : Nat) :
    EndsNoOpen w (w.runTrial io schema recipientId contractId amt cap) := by
  have hchecked : ∀ rgbInfo, w.opening ≠ .locked rgbInfo := fun rgbInfo hl => by
    cases ho.symm.trans hl
  unfold runTrial
  split
  · exact endsNoOpen_opening hchecked
  · split
    · exact endsNoOpen_opening hchecked
    · exact endsNoOpen_opening hchecked

omit [ContractIdText ContractId] in
theorem heldByOpen_runCreateChannel (h : w.HeldByOpen) (rgbInfo : Option (RgbInfo ContractId))
    (answer : Option ChannelId) : (w.runCreateChannel rgbInfo answer).HeldByOpen := by
  unfold runCreateChannel
  cases answer with
  | none => exact heldByOpen_of_released rfl
  | some id =>
    simp only
    split
    · exact h
    -- the new channel is in progress from now on
    · exact fun _ => .inr ⟨id, .new, Function.update_self .., .inl rfl⟩

theorem endsNoOpen_runSendBegin {id : ChannelId} (io : SendBeginIo String) (recipientId : String)
    (amountSat : Nat) (rgbInfo : RgbInfo ContractId) :
    EndsNoOpen w (w.runSendBegin id io recipientId amountSat rgbInfo) := by
  unfold runSendBegin
  split
  · exact .refl w
  · split
    · refine endsNoOpen_update ?_
      intro ch hch hon
      exact .inr (.inl rfl)
    · exact endsNoOpen_wallet w _

omit [ContractIdText ContractId] in
theorem heldByOpen_runFundingGenerated (h : w.HeldByOpen) (id : ChannelId)
    (answer : FundingAnswer) : (w.runFundingGenerated id answer).HeldByOpen := by
  cases answer with
  | replay => exact h.of_endsNoOpen (endsNoOpen_update fun _ _ _ => .inl rfl)
  | refused => exact heldByOpen_of_released rfl
  | registered => exact h.of_endsNoOpen (endsNoOpen_update fun _ _ _ => .inr (.inr rfl))

omit [ContractIdText ContractId] in
theorem heldByOpen_runCompleteSend (h : w.HeldByOpen) (id : ChannelId) (io : SendEndIo)
    (psbt : SignedPsbt) (details : TransferDetails) :
    (w.runCompleteSend id io psbt details).HeldByOpen := by
  unfold runCompleteSend
  split
  · exact heldByOpen_of_released rfl
  · refine h.of_endsNoOpen (endsNoOpen_update ?_)
    intro ch hch hon
    exact hon

/-- Only a ChannelClosed can leave the lock without an open. -/
theorem heldByOpen_step (h : w.HeldByOpen) (x : ChannelStep) :
    (w.step x).2.HeldByOpen ↔ w.ClosesAnother x := by
  have keeps : ∀ {w'}, EndsNoOpen w w' → (w'.HeldByOpen ↔ True) := fun hw =>
    iff_true_intro (h.of_endsNoOpen hw)
  cases x with
  | channelClosed id removesInfo => exact heldByOpen_closed_iff id removesInfo
  | openChannel channelIds req balance => exact keeps (endsNoOpen_openChannel ..)
  | refuse =>
    simp only [step]
    split
    · rename_i ho
      exact keeps (endsNoOpen_opening fun rgbInfo hl => by cases ho.symm.trans hl)
    · exact keeps (.refl w)
  | trial io schema recipientId =>
    simp only [step]
    split
    · exact keeps (endsNoOpen_runTrial ‹_› ..)
    · rename_i ho
      exact keeps (endsNoOpen_opening fun rgbInfo hl => by cases ho.symm.trans hl)
    · exact keeps (.refl w)
  | setLock =>
    simp only [step]
    split
    · exact iff_true_intro fun _ => .inl ⟨_, rfl⟩
    · exact keeps (.refl w)
  | createChannel answer =>
    simp only [step]
    split
    · exact iff_true_intro (heldByOpen_runCreateChannel h _ answer)
    · exact keeps (.refl w)
  | writeInfo =>
    simp only [step]
    split
    · rename_i ho
      have hidle : HeldByOpen { w with opening := .idle } := h.of_endsNoOpen
        (endsNoOpen_opening fun rgbInfo hl => by cases ho.symm.trans hl)
      exact iff_true_intro (hidle.of_endsNoOpen (endsNoOpen_update fun _ _ hon => hon))
    · rename_i ho
      exact keeps (endsNoOpen_opening fun rgbInfo hl => by cases ho.symm.trans hl)
    · exact keeps (.refl w)
  | fundingGenerationReady id io recipientId amountSat =>
    simp only [step]
    split
    · exact keeps (endsNoOpen_runSendBegin ..)
    · exact keeps (endsNoOpen_update fun _ _ _ => .inr (.inl rfl))
    · exact keeps (.refl w)
  | fundingGenerated id answer =>
    simp only [step]
    split
    · exact iff_true_intro (heldByOpen_runFundingGenerated h id answer)
    · exact keeps (.refl w)
  | channelPending id read =>
    simp only [step]
    split
    · split
      · exact keeps (endsNoOpen_update fun _ _ hon => hon)
      · exact keeps (.refl w)
    · exact keeps (.refl w)
  | completeSend id io psbt =>
    simp only [step]
    split
    · exact iff_true_intro (heldByOpen_runCompleteSend h id io psbt _)
    · exact keeps (.refl w)
  | completeBtc id =>
    simp only [step]
    split
    · exact iff_true_intro (heldByOpen_of_released rfl)
    · exact keeps (.refl w)
  | discardFunding id => exact iff_true_intro (heldByOpen_of_released rfl)
  | restart => exact iff_true_intro (heldByOpen_of_released rfl)

/-- Along a run the lock is held by an open in progress exactly when no
ChannelClosed ends the only one while the lock is held. -/
theorem lockJustified_run_iff (wallet : FundingWorld) (steps : List ChannelStep) :
    Mealy.Along step (fun w x => (w.step x).2.LockJustified) (.new wallet : Channels ContractId)
        steps ↔
      Mealy.Along step ClosesAnother (.new wallet : Channels ContractId) steps := by
  refine Mealy.along_iff_of_invariant (I := HeldByOpen) (fun w x h => ?_)
    (fun w x h hx => (heldByOpen_step h x).mpr hx) (heldByOpen_of_released rfl)
  rw [lockJustified_iff]
  exact heldByOpen_step h x

/-- An accepted open whose channel is closed before it is funded. -/
def abandonedOpen : List ChannelStep :=
  [.openChannel ∅ ⟨none, none, none, 50000, 0, true⟩ (.ok 0), .trial workingBegin .nia "none",
    .setLock, .createChannel (some channelOf600), .writeInfo, .channelClosed channelOf600 false]

/-- The lock outlives the only open, and keeps every later one out. -/
theorem lock_outlives_open :
    (Mealy.final step (.new emptyWallet : Channels ℕ) abandonedOpen).rgbSendLock = true ∧
      ¬(Mealy.final step (.new emptyWallet : Channels ℕ) abandonedOpen).OpenInProgress ∧
      ¬Mealy.Along step (fun w x => (w.step x).2.LockJustified) (.new emptyWallet : Channels ℕ)
        abandonedOpen := by
  have hlock : (Mealy.final step (.new emptyWallet : Channels ℕ) abandonedOpen).rgbSendLock =
      true := by decide +kernel
  have hidle : (Mealy.final step (.new emptyWallet : Channels ℕ) abandonedOpen).opening =
      .idle := by decide +kernel
  have hnone :
      ¬(Mealy.final step (.new emptyWallet : Channels ℕ) abandonedOpen).OpenInProgress := by
    rintro (⟨rgbInfo, ho⟩ | ⟨id, ch, hch, hon⟩)
    · cases hidle.symm.trans ho
    by_cases hid : id = channelOf600
    · subst hid
      have hphase : ((Mealy.final step (.new emptyWallet : Channels ℕ) abandonedOpen).own
          channelOf600).map OwnChannel.phase = some .gone := by decide +kernel
      rw [hch] at hphase
      obtain hp | hp | hp := hon <;>
        exact absurd (hp.symm.trans (Option.some.inj hphase)) (by decide)
    · have hother : (Mealy.final step (.new emptyWallet : Channels ℕ) abandonedOpen).own id =
          none := own_final_eq_none emptyWallet (by simp [abandonedOpen, Ne.symm hid])
      rw [hother] at hch
      cases hch
  refine ⟨hlock, hnone, fun h => ?_⟩
  obtain ⟨-, -, -, -, -, hlast, -⟩ := h
  exact hnone (hlast.1 hlock)

end Channels

end RgbLightningNode
