import RgbLightningNode.Channels.TransferDetails

/-!
# Which way a channel is funded

The handler of FundingGenerationReady takes a channel for coloured when there is
an info file for it. The request writes that file after it has created the
channel, and the peer may answer before.
-/

namespace RgbLightningNode

open Fallible

/-- The channels, with what the request under way has asked for, and what the
request that created a channel had asked for. -/
structure AskedChannels (ContractId : Type) where
  node : Channels ContractId
  pending : Option (ContractId × Nat)
  asked : ChannelId → Option (ContractId × Nat)

variable {ContractId : Type}

/-- The info is that of the contract and the amount asked for. -/
def RgbInfo.Of (asked : ContractId × Nat) (rgbInfo : RgbInfo ContractId) : Prop :=
  rgbInfo.contractId = asked.1 ∧ rgbInfo.localRgbAmount = UInt64.ofNat asked.2

/-- There is info when something is asked for, and it is of that. -/
def InfoMatches (asked : Option (ContractId × Nat)) (rgbInfo : Option (RgbInfo ContractId)) :
    Prop :=
  match asked with
  | none => rgbInfo = none
  | some asked => ∃ info, rgbInfo = some info ∧ info.Of asked

namespace AskedChannels

def new (wallet : FundingWorld) : AskedChannels ContractId := ⟨.new wallet, none, fun _ => none⟩

/-- The channel takes over what its request has asked for. -/
def create (s : AskedChannels ContractId) (id : ChannelId) :
    ChannelId → Option (ContractId × Nat) :=
  match s.node.opening with
  | .locked _ => if (s.node.own id).isSome then s.asked else Function.update s.asked id s.pending
  | _ => s.asked

def askedAfter (s : AskedChannels ContractId) : ChannelStep → ChannelId → Option (ContractId × Nat)
  | .createChannel (some id) => s.create id
  | _ => s.asked

variable [ContractIdText ContractId]

def step (s : AskedChannels ContractId) (x : ChannelStep) :
    Option TransferDetails × AskedChannels ContractId :=
  let (details, node) := s.node.step x
  (details, {
    node := node
    pending := match node.opening with
      | .checked colored _ => colored
      | _ => s.pending
    asked := s.askedAfter x })

/-- When the funding of a channel that was opened with an asset is generated, its
info is there, and it is begun by send_begin, for the contract and the amount of
the request. -/
def FundsColored (s : AskedChannels ContractId) : ChannelStep → Prop
  | .fundingGenerationReady id io recipientId amountSat => ∀ ch asked,
      s.node.own id = some ch → ch.phase = .unfunded → s.asked id = some asked →
        ∃ rgbInfo, ch.rgbInfo = some rgbInfo ∧ rgbInfo.Of asked ∧
          (s.node.step (.fundingGenerationReady id io recipientId amountSat)).2 =
            s.node.runSendBegin id io recipientId amountSat rgbInfo
  | _ => True

/-- The request has written the info files when its channel's funding is generated. -/
def FilesWritten (s : AskedChannels ContractId) : ChannelStep → Prop
  | .fundingGenerationReady id _ _ _ => ∀ ch, s.node.own id = some ch → ch.phase = .unfunded →
      ∀ rgbInfo, s.node.opening ≠ .created id (some rgbInfo)
  | _ => True

end AskedChannels

/-- A channel that may still be funded. -/
def OwnChannel.Awaits (ch : OwnChannel ContractId) : Prop :=
  ch.phase = .unfunded ∨ ch.phase = .generating

/-- The request under way carries on what it has asked for, and the info of every
channel that may still be funded is that of its own request, or about to be written. -/
structure Tracks (w : Channels ContractId) (pending : Option (ContractId × Nat))
    (asked : ChannelId → Option (ContractId × Nat)) : Prop where
  checked : ∀ colored cap, w.opening = .checked colored cap → pending = colored
  begun : ∀ rgbInfo, w.opening = .begun rgbInfo → InfoMatches pending rgbInfo
  locked : ∀ rgbInfo, w.opening = .locked rgbInfo → InfoMatches pending rgbInfo
  created : ∀ id rgbInfo, w.opening = .created id rgbInfo →
    InfoMatches pending rgbInfo ∧ asked id = pending
  unwritten : ∀ id rgbInfo ch, w.opening = .created id rgbInfo → w.own id = some ch →
    ch.rgbInfo = none
  own : ∀ id ch, w.own id = some ch → ch.Awaits →
    (∃ rgbInfo, w.opening = .created id rgbInfo) ∨ InfoMatches (asked id) ch.rgbInfo

/-- A restart drops the channels without a funding transaction. -/
theorem OwnChannel.not_awaits_restarted (ch : OwnChannel ContractId) :
    ¬ch.restarted.Awaits := by
  rw [Awaits, restarted]
  split
  · rintro (hp | hp) <;> cases hp
  · assumption

namespace Tracks

variable {w : Channels ContractId} {pending : Option (ContractId × Nat)}
  {asked : ChannelId → Option (ContractId × Nat)}

/-- A change of a channel that keeps its info, and makes no channel wait again. -/
theorem update (h : Tracks w pending asked) {id : ChannelId}
    {f : OwnChannel ContractId → OwnChannel ContractId} {lock : Bool} {wallet : FundingWorld}
    (hinfo : ∀ ch, (f ch).Awaits → (f ch).rgbInfo = ch.rgbInfo)
    (hnone : ∀ ch, ch.rgbInfo = none → (f ch).rgbInfo = none)
    (hawaits : ∀ ch, w.own id = some ch → (f ch).Awaits → ch.Awaits) :
    Tracks (Channels.update id f { w with rgbSendLock := lock, wallet := wallet }) pending
      asked := by
  refine ⟨h.checked, h.begun, h.locked, h.created, ?_, ?_⟩
  · intro id' rgbInfo ch' ho hch'
    obtain ⟨rfl, ch, hch, rfl⟩ | hch' := Channels.own_update_cases hch'
    · exact hnone ch (h.unwritten id' rgbInfo ch ho hch)
    · exact h.unwritten id' rgbInfo ch' ho hch'
  · intro id' ch' hch' hon
    obtain ⟨rfl, ch, hch, rfl⟩ | hch' := Channels.own_update_cases hch'
    · rw [hinfo ch hon]
      exact h.own id' ch hch (hawaits ch hch hon)
    · exact h.own id' ch' hch' hon

theorem setWallet (h : Tracks w pending asked) (wallet : FundingWorld) :
    Tracks { w with wallet := wallet } pending asked :=
  ⟨h.checked, h.begun, h.locked, h.created, h.unwritten, h.own⟩

/-- A request that has not created a channel moves to another such stage. -/
theorem setOpening (h : Tracks w pending asked) {o : Opening ContractId} {lock : Bool}
    {wallet : FundingWorld} {pending' : Option (ContractId × Nat)}
    (hw : ∀ id rgbInfo, w.opening ≠ .created id rgbInfo)
    (ho : ∀ id rgbInfo, o ≠ .created id rgbInfo)
    (hchecked : ∀ colored cap, o = .checked colored cap → pending' = colored)
    (hinfo : ∀ rgbInfo, o = .begun rgbInfo ∨ o = .locked rgbInfo → InfoMatches pending' rgbInfo) :
    Tracks { w with opening := o, rgbSendLock := lock, wallet := wallet } pending' asked where
  checked := hchecked
  begun := fun rgbInfo hb => hinfo rgbInfo (.inl hb)
  locked := fun rgbInfo hl => hinfo rgbInfo (.inr hl)
  created := fun id rgbInfo hc => absurd hc (ho id rgbInfo)
  unwritten := fun id rgbInfo _ hc => absurd hc (ho id rgbInfo)
  own := fun id ch hch hon => by
    obtain ⟨rgbInfo, hc⟩ | hm := h.own id ch hch hon
    · exact absurd hc (hw id rgbInfo)
    · exact .inr hm

theorem pending_eq (h : Tracks w pending asked) :
    (match w.opening with
    | .checked colored _ => colored
    | _ => pending) = pending := by
  split
  · exact (h.checked _ _ ‹_›).symm
  · rfl

theorem idle (h : Tracks w pending asked) {lock : Bool} {wallet : FundingWorld}
    (hw : ∀ id rgbInfo, w.opening ≠ .created id rgbInfo) :
    Tracks { w with opening := .idle, rgbSendLock := lock, wallet := wallet } pending asked :=
  h.setOpening hw (by simp) (by simp) (by simp)

/-- The new channel waits for its info under the id it was created with. -/
theorem runCreateChannel (h : Tracks w pending asked) {rgbInfo : Option (RgbInfo ContractId)}
    (ho : w.opening = .locked rgbInfo) (answer : Option ChannelId) :
    Tracks (w.runCreateChannel rgbInfo answer) pending
      (AskedChannels.askedAfter ⟨w, pending, asked⟩ (.createChannel answer)) := by
  have hcreated : ∀ id rgbInfo, w.opening ≠ .created id rgbInfo := fun id rgbInfo hc => by
    cases ho.symm.trans hc
  cases answer with
  | none => exact h.idle hcreated
  | some id =>
    have hcreate : AskedChannels.create ⟨w, pending, asked⟩ id =
        if (w.own id).isSome then asked else Function.update asked id pending := by
      rw [AskedChannels.create]
      simp only [ho]
    simp only [AskedChannels.askedAfter, hcreate, Channels.runCreateChannel]
    by_cases hsome : (w.own id).isSome = true
    · simp only [hsome, if_true]
      exact h
    · simp only [hsome, Bool.false_eq_true, if_false]
      refine ⟨by simp, by simp, by simp, ?_, ?_, ?_⟩
      · intro id' rgbInfo' hc
        obtain ⟨rfl, rfl⟩ := Opening.created.inj hc
        exact ⟨h.locked _ ho, Function.update_self ..⟩
      · intro id' rgbInfo' ch hc hch
        obtain ⟨rfl, rfl⟩ := Opening.created.inj hc
        simp only [Function.update_self, Option.some.injEq] at hch
        rw [← hch]
        rfl
      · intro id' ch hch hon
        by_cases hid : id' = id
        · exact .inl ⟨rgbInfo, by rw [hid]⟩
        · simp only [Function.update_of_ne hid] at hch ⊢
          obtain ⟨rgbInfo', hc⟩ | hm := h.own id' ch hch hon
          · exact absurd hc (hcreated id' rgbInfo')
          · exact .inr hm

/-- With its info written, the channel is like any other. -/
theorem writeInfo (h : Tracks w pending asked) {id : ChannelId} {rgbInfo : RgbInfo ContractId}
    (ho : w.opening = .created id (some rgbInfo)) :
    Tracks ({ w with opening := .idle }.update id fun ch => { ch with rgbInfo := some rgbInfo })
      pending asked := by
  obtain ⟨hmatches, hasked⟩ := h.created _ _ ho
  refine ⟨by simp [Channels.update], by simp [Channels.update], by simp [Channels.update],
    by simp [Channels.update], by simp [Channels.update], ?_⟩
  intro id' ch' hch' hon
  refine .inr ?_
  rw [Channels.own_update] at hch'
  split at hch'
  · rename_i hid
    obtain ⟨ch, -, rfl⟩ := Option.map_eq_some_iff.mp hch'
    rw [hid, hasked]
    exact hmatches
  · rename_i hid
    obtain ⟨rgbInfo', hc⟩ | hm := h.own id' ch' hch' hon
    · exact absurd (Opening.created.inj (ho.symm.trans hc)).1.symm hid
    · exact hm

theorem writeNothing (h : Tracks w pending asked) {id : ChannelId}
    (ho : w.opening = .created id none) : Tracks { w with opening := .idle } pending asked := by
  obtain ⟨hmatches, hasked⟩ := h.created _ _ ho
  refine ⟨by simp, by simp, by simp, by simp, by simp, ?_⟩
  intro id' ch hch hon
  refine .inr ?_
  obtain ⟨rgbInfo, hc⟩ | hm := h.own id' ch hch hon
  · obtain ⟨rfl, rfl⟩ := Opening.created.inj (ho.symm.trans hc)
    rw [hasked, h.unwritten _ _ ch ho hch]
    exact hmatches
  · exact hm

section Steps

variable [ContractIdText ContractId]

theorem runOpenChannel (h : Tracks w pending asked) (channelIds : HashMap ChannelId ChannelId)
    (req : OpenChannelRequest) (balance : Except String Nat) :
    Tracks (w.runOpenChannel channelIds req balance)
      (match (w.runOpenChannel channelIds req balance).opening with
      | .checked colored _ => colored
      | _ => pending) asked := by
  unfold Channels.runOpenChannel
  split
  · rename_i hidle
    split
    · exact h.setOpening (fun id rgbInfo hc => by cases hidle.symm.trans hc) (by simp)
        (by simp) (by simp)
    · rw [h.pending_eq]
      exact h
  · rw [h.pending_eq]
    exact h

theorem runTrial (h : Tracks w pending asked) {contractId : ContractId} {amt cap : Nat}
    (ho : w.opening = .checked (some (contractId, amt)) cap) (io : SendBeginIo String)
    (schema : AssetSchema) (recipientId : String) :
    Tracks (w.runTrial io schema recipientId contractId amt cap) pending asked := by
  have hw : ∀ id rgbInfo, w.opening ≠ .created id rgbInfo := fun id rgbInfo hc => by
    cases ho.symm.trans hc
  unfold Channels.runTrial
  split
  · exact h.idle hw
  · split
    · refine h.setOpening hw (by simp) (by simp) ?_
      rintro rgbInfo (hb | hl)
      · obtain rfl := Opening.begun.inj hb
        rw [h.checked _ _ ho]
        exact ⟨_, rfl, rfl, rfl⟩
      · cases hl
    · exact h.idle hw

theorem runSendBegin (h : Tracks w pending asked) {id : ChannelId}
    {ch : OwnChannel ContractId} (hch : w.own id = some ch) (hp : ch.phase = .unfunded)
    (io : SendBeginIo String) (recipientId : String) (amountSat : Nat)
    (rgbInfo : RgbInfo ContractId) :
    Tracks (w.runSendBegin id io recipientId amountSat rgbInfo) pending asked := by
  unfold Channels.runSendBegin
  split
  · exact h
  · split
    · refine h.update (fun _ _ => rfl) (fun _ hn => hn) fun ch' hch' _ => ?_
      obtain rfl := Option.some.inj (hch.symm.trans hch')
      exact .inl hp
    · exact h.setWallet _

omit [ContractIdText ContractId] in
/-- A channel is tracked whatever is answered to its funding transaction. -/
theorem runFundingGenerated (h : Tracks w pending asked) {id : ChannelId}
    {ch : OwnChannel ContractId} (hch : w.own id = some ch) (hp : ch.phase = .generating)
    (answer : FundingAnswer) : Tracks (w.runFundingGenerated id answer) pending asked := by
  have hawaits : ∀ ch', w.own id = some ch' → ch'.Awaits := fun ch' hch' => by
    obtain rfl := Option.some.inj (hch.symm.trans hch')
    exact .inr hp
  cases answer with
  | replay => exact h.update (fun _ _ => rfl) (fun _ hn => hn) fun ch' hch' _ => hawaits ch' hch'
  | refused => exact h.update (fun _ _ => rfl) (fun _ hn => hn) fun ch' hch' _ => hawaits ch' hch'
  | registered =>
    exact h.update (fun _ _ => rfl) (fun _ hn => hn) fun ch' hch' _ => hawaits ch' hch'

omit [ContractIdText ContractId] in
/-- A channel whose ChannelPending is handled does not wait again. -/
theorem awaits_of_handled {phase : ChannelPhase}
    (h : phase.handled = .unfunded ∨ phase.handled = .generating) :
    phase = .unfunded ∨ phase = .generating := by
  cases phase with
  | funded => obtain h | h := h <;> cases h
  | _ => exact h

omit [ContractIdText ContractId] in
theorem runCompleteSend (h : Tracks w pending asked) (id : ChannelId) (io : SendEndIo)
    (psbt : SignedPsbt) (details : TransferDetails) :
    Tracks (w.runCompleteSend id io psbt details) pending asked := by
  unfold Channels.runCompleteSend
  split
  · exact h.update (fun _ _ => rfl) (fun _ hn => hn) fun _ _ hon => awaits_of_handled hon
  · exact h.update (fun _ _ => rfl) (fun _ hn => hn) fun _ _ hon => hon

/-- Every step but a new request keeps the request that is under way. -/
theorem step (h : Tracks w pending asked) (x : ChannelStep)
    (hx : ∀ channelIds req balance, x ≠ .openChannel channelIds req balance) :
    Tracks (w.step x).2 pending (AskedChannels.askedAfter ⟨w, pending, asked⟩ x) := by
  cases x with
  | openChannel channelIds req balance => exact absurd rfl (hx channelIds req balance)
  | refuse =>
    simp only [Channels.step]
    split
    · rename_i ho
      exact h.idle fun id rgbInfo hc => by cases ho.symm.trans hc
    · exact h
  | trial io schema recipientId =>
    simp only [Channels.step]
    split
    · exact h.runTrial ‹_› io schema recipientId
    · rename_i ho
      refine h.setOpening (fun id rgbInfo hc => by cases ho.symm.trans hc) (by simp) (by simp) ?_
      rintro rgbInfo (hb | hl)
      · obtain rfl := Opening.begun.inj hb
        rw [h.checked _ _ ho]
        rfl
      · cases hl
    · exact h
  | setLock =>
    simp only [Channels.step]
    split
    · rename_i ho
      refine h.setOpening (fun id rgbInfo hc => by cases ho.symm.trans hc) (by simp) (by simp) ?_
      rintro rgbInfo (hb | hl)
      · cases hb
      · obtain rfl := Opening.locked.inj hl
        exact h.begun _ ho
    · exact h
  | createChannel answer =>
    simp only [Channels.step]
    split
    · exact h.runCreateChannel ‹_› answer
    · rename_i ho
      cases answer with
      | none => exact h
      | some id =>
        have hkeep : AskedChannels.create ⟨w, pending, asked⟩ id = asked := by
          rw [AskedChannels.create]
          split
          · exact absurd ‹_› (ho _)
          · rfl
        rw [AskedChannels.askedAfter, hkeep]
        exact h
  | writeInfo =>
    simp only [Channels.step]
    split
    · exact h.writeInfo ‹_›
    · exact h.writeNothing ‹_›
    · exact h
  | fundingGenerationReady id io recipientId amountSat =>
    simp only [Channels.step]
    split
    · exact h.runSendBegin ‹_› rfl ..
    · rename_i hch
      refine h.update (fun _ _ => rfl) (fun _ hn => hn) fun ch' hch' _ => ?_
      obtain rfl := Option.some.inj (hch.symm.trans hch')
      exact .inl rfl
    · exact h
  | fundingGenerated id answer =>
    simp only [Channels.step]
    split
    · exact h.runFundingGenerated ‹_› rfl answer
    · exact h
  | channelPending id read =>
    simp only [Channels.step]
    split
    · split
      · exact h.update (fun _ _ => rfl) (fun _ hn => hn) fun _ _ hon => hon
      · exact h
    · exact h
  | completeSend id io psbt =>
    simp only [Channels.step]
    split
    · exact h.runCompleteSend ..
    · exact h
  | completeBtc id =>
    simp only [Channels.step]
    split
    · exact h.update (fun _ _ => rfl) (fun _ hn => hn) fun _ _ hon => Tracks.awaits_of_handled hon
    · exact h
  | channelClosed id removesInfo =>
    refine h.update (fun _ hon => ?_) (fun ch hn => ?_) fun _ _ hon => ?_
    · obtain hp | hp := hon <;> cases hp
    · cases removesInfo with
      | true => rfl
      | false => exact hn
    · obtain hp | hp := hon <;> cases hp
  | discardFunding id =>
    refine h.update (fun _ _ => rfl) (fun _ hn => hn) fun _ _ hon => ?_
    obtain hp | hp := hon <;> cases hp
  | restart =>
    refine ⟨by simp [Channels.step], by simp [Channels.step], by simp [Channels.step],
      by simp [Channels.step], by simp [Channels.step], ?_⟩
    intro id ch' hch' hon
    obtain ⟨ch, -, rfl⟩ := Option.map_eq_some_iff.mp hch'
    exact absurd hon ch.not_awaits_restarted

end Steps

end Tracks

namespace AskedChannels

variable [ContractIdText ContractId] {s : AskedChannels ContractId}

omit [ContractIdText ContractId] in
theorem tracks_repend {w : Channels ContractId} {pending : Option (ContractId × Nat)}
    {asked : ChannelId → Option (ContractId × Nat)} (h : Tracks w pending asked) :
    Tracks w (match w.opening with
      | .checked colored _ => colored
      | _ => pending) asked := by
  rw [h.pending_eq]
  exact h

/-- What is asked for is kept track of by every step. -/
theorem tracks_step (h : Tracks s.node s.pending s.asked) (x : ChannelStep) :
    Tracks (s.step x).2.node (s.step x).2.pending (s.step x).2.asked := by
  by_cases hopen : ∃ channelIds req balance, x = .openChannel channelIds req balance
  · obtain ⟨channelIds, req, balance, rfl⟩ := hopen
    exact h.runOpenChannel channelIds req balance
  · exact tracks_repend (h.step x fun channelIds req balance heq =>
      hopen ⟨channelIds, req, balance, heq⟩)

omit [ContractIdText ContractId] in
theorem tracks_new (wallet : FundingWorld) :
    Tracks (Channels.new wallet : Channels ContractId) none fun _ => none :=
  ⟨by simp [Channels.new], by simp [Channels.new], by simp [Channels.new],
    by simp [Channels.new], by simp [Channels.new], by simp [Channels.new]⟩

/-- A funding that is generated with the files written is a coloured one, and no
other is when a coloured one is due. -/
theorem fundsColored_iff (h : Tracks s.node s.pending s.asked) (x : ChannelStep) :
    s.FundsColored x ↔ s.FilesWritten x := by
  cases x with
  | fundingGenerationReady id io recipientId amountSat =>
    constructor
    · -- the channel of a request that has not written the files has none
      intro hfunds ch hch hp rgbInfo ho
      obtain ⟨hmatches, hasked⟩ := h.created _ _ ho
      obtain ⟨asked, hpending⟩ : ∃ asked, s.pending = some asked := by
        cases hp : s.pending with
        | none =>
          rw [hp] at hmatches
          cases hmatches
        | some asked => exact ⟨asked, rfl⟩
      obtain ⟨info, hinfo, -⟩ := hfunds ch asked hch hp (hasked.trans hpending)
      rw [h.unwritten _ _ ch ho hch] at hinfo
      cases hinfo
    · intro hwritten ch asked hch hp hasked
      have hmatches : InfoMatches (s.asked id) ch.rgbInfo := by
        obtain ⟨rgbInfo, ho⟩ | hm := h.own id ch hch (.inl hp)
        · cases rgbInfo with
          | some rgbInfo => exact absurd ho (hwritten ch hch hp rgbInfo)
          | none =>
            -- a request without an asset has no files to write
            obtain ⟨hnone, hpending⟩ := h.created _ _ ho
            rw [hpending, h.unwritten _ _ ch ho hch]
            exact hnone
        · exact hm
      rw [hasked] at hmatches
      obtain ⟨rgbInfo, hinfo, hof⟩ := hmatches
      refine ⟨rgbInfo, hinfo, hof, ?_⟩
      obtain ⟨phase, info, psbt, reading, begun⟩ := ch
      obtain rfl : phase = .unfunded := hp
      obtain rfl : info = some rgbInfo := hinfo
      simp only [Channels.step, hch]
  | _ => exact Iff.rfl

/-- Along a run every channel opened with an asset is funded as a coloured one
exactly when the files are written before each funding is generated. -/
theorem fundsColored_run_iff (wallet : FundingWorld) (steps : List ChannelStep) :
    Mealy.Along step FundsColored (new wallet : AskedChannels ContractId) steps ↔
      Mealy.Along step FilesWritten (new wallet : AskedChannels ContractId) steps :=
  Mealy.along_iff_of_invariant (I := fun s => Tracks s.node s.pending s.asked)
    (fun _ x h => fundsColored_iff h x) (fun _ x h _ => tracks_step h x) (tracks_new wallet)

open Channels (requestAsset1 channelOf600 workingBegin emptyWallet)

/-- A coloured open whose peer answers before the request has written the files. -/
def answeredEarly : List ChannelStep :=
  requestAsset1 600 ++ [.setLock, .createChannel (some channelOf600),
    .fundingGenerationReady channelOf600 workingBegin "channel script" 50000]

/-- The channel goes the way of one without an asset. -/
theorem funds_without_asset :
    ¬Mealy.Along step FundsColored (new emptyWallet : AskedChannels ℕ) answeredEarly := by
  intro h
  obtain ⟨-, -, -, -, hfunds, -⟩ := h
  have hasked : (Mealy.final step (new emptyWallet : AskedChannels ℕ)
      (answeredEarly.take 4)).asked channelOf600 = some (1, 600) := by decide +kernel
  have hown : ((Mealy.final step (new emptyWallet : AskedChannels ℕ)
      (answeredEarly.take 4)).node.own channelOf600).map
        (fun ch => (ch.phase, ch.rgbInfo.isSome)) = some (.unfunded, false) := by decide +kernel
  obtain ⟨ch, hch, hnew⟩ := Option.map_eq_some_iff.mp hown
  obtain ⟨hphase, hnone⟩ := Prod.mk.inj hnew
  obtain ⟨rgbInfo, hinfo, -⟩ := hfunds ch (1, 600) hch hphase hasked
  rw [hinfo] at hnone
  cases hnone

end AskedChannels

end RgbLightningNode
