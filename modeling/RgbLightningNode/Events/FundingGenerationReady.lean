import RgbLightningNode.Adapter.Consignment
import RgbLightningNode.Adapter.OccupiedUtxos
import RgbLightningNode.Channels.Opening
import RgbLightningNode.SwapString

/-!
# FundingGenerationReady

The peer has accepted a channel of this node, and the library asks for its
funding transaction. The handler has it built and signed, tells the proxy of a
coloured one, and hands it over. Only when the library does not take it any more
is the lock on opens released; every failure on the way there is unwrapped.
-/

namespace RgbLightningNode

open Fallible SerdeJson

/-- The address of a witness program on the node's network, and its script. -/
structure WitnessProgram where
  address : String
  scriptPubkey : ScriptBuf

/-- What is outside of the handling of one event. -/
structure FundingReadyIo (Txid : Type) extends BuilderIo Txid where
  fromScriptpubkey : ScriptBuf → Except String WitnessProgram
  recipientId : ScriptBuf → String
  writeDetails : Except String Unit
  parsePsbt : Psbt Txid → Except String Unit
  sign : Psbt Txid → Except String SignedPsbt
  writePsbt : Except String Unit
  rgbTxid : String → Except String Unit
  writeTempInfo : Except String Unit
  /-- The endpoint of the node's proxy. -/
  transportEndpoint : Except String String
  consignment : ConsignmentIo
  /-- The library's answer to a funding transaction. -/
  fundingTransactionGenerated : ChannelId → PublicKey → Transaction → Except String Unit

/-- What the handler reads and changes. `funded` are the funding transactions the
library has taken. -/
structure FundingNode (ContractId : Type) where
  rgbSendLock : Bool
  wallet : FundingWorld
  ldkDataDir : LdkDataDir ContractId
  psbts : HashMap String SignedPsbt
  tempRgbInfo : HashMap String (RgbInfo ContractId)
  funded : List (ChannelId × Transaction)

structure FundingGenerationReady where
  temporaryChannelId : ChannelId
  counterpartyNodeId : PublicKey
  channelValueSatoshis : Nat
  outputScript : ScriptBuf

/-- The exit of an `unwrap` of an error. -/
def Exit.unwrapped {ε : Type} : Exit String → Exit ε
  | .err e => .panic none s!"called `Result::unwrap()` on an `Err` value: {e}"
  | .panic held message => .panic held message

def unwrap {ε α : Type} (x : Except (Exit String) α) : Except (Exit ε) α :=
  x.mapError Exit.unwrapped

/-- An error asks for the event again. -/
def Exit.replayed : Exit String → Exit ReplayEvent
  | .err _ => .err .mk
  | .panic held message => .panic held message

/-- The transaction of a signed PSBT. -/
def SignedPsbt.extractTx : SignedPsbt → Except (Exit String) Transaction
  | invalid e => .error (.err e)
  | unfinished e => .error (.err e)
  | signed tx => .ok tx

/-- `sign_psbt` of the adapter. -/
def FundingReadyIo.signPsbt {Txid : Type} (io : FundingReadyIo Txid) (unsignedPsbt : Psbt Txid) :
    Except (Exit String) SignedPsbt := do
  withContext "Failed to parse PSBT" (io.parsePsbt unsignedPsbt)
  orErr (if io.walletLoaded then some () else none) "Bitcoin wallet not loaded"
  withContext "Failed to sign PSBT" (io.sign unsignedPsbt)

/-! ### The handler -/

namespace FundingGenerationReady

variable {ContractId Txid : Type} [ContractIdText ContractId]

/-- The unsigned transaction, from one of the two beginnings. -/
def beginFunding (e : FundingGenerationReady) (io : FundingReadyIo Txid)
    (program : WitnessProgram) : Option (RgbInfo ContractId) →
      Fallible (Exit ReplayEvent) (FundingNode ContractId) (Psbt Txid)
  | some rgbInfo => do
    let assignment ← attempt (schemaAssignment rgbInfo.schema rgbInfo.localRgbAmount.toNat)
    zoom FundingNode.wallet (fun wallet node => { node with wallet := wallet })
      (EStateM.adaptExcept Exit.unwrapped (sendBegin ⟨io.toBuilderIo, io.writeDetails⟩
        (recipientMap rgbInfo.contractId (io.recipientId program.scriptPubkey)
          e.channelValueSatoshis assignment) feeRate))
  | none => attempt (unwrap (io.sendBtcBegin program.address e.channelValueSatoshis feeRate))

/-- The signed transaction, whose PSBT is kept in a file. -/
def signFunding (io : FundingReadyIo Txid) (unsignedPsbt : Psbt Txid) :
    Fallible (Exit ReplayEvent) (FundingNode ContractId) Transaction := do
  let signedPsbt ← attempt (unwrap (io.signPsbt unsignedPsbt))
  let fundingTx ← attempt (unwrap signedPsbt.extractTx)
  attempt (unwrap (io.writePsbt.mapError .err))
  modify fun node => { node with psbts := node.psbts.insert fundingTx.txid signedPsbt }
  return fundingTx

/-- The proxy is told of a coloured funding; what it answers is not unwrapped. -/
def announce (io : FundingReadyIo Txid) (fundingTxid : String) :
    Option (RgbInfo ContractId) → Fallible (Exit ReplayEvent) (FundingNode ContractId) Unit
  | some rgbInfo => do
    -- rgb_upsert_witness does nothing yet, so only the reading of the id can fail
    attempt (unwrap ((io.rgbTxid fundingTxid).mapError .err))
    attempt (unwrap (io.writeTempInfo.mapError .err))
    modify fun node => { node with tempRgbInfo := node.tempRgbInfo.insert fundingTxid rgbInfo }
    let endpoint ← attempt (unwrap (io.transportEndpoint.mapError .err))
    zoom FundingNode.tempRgbInfo (fun tempInfo node => { node with tempRgbInfo := tempInfo })
      (EStateM.adaptExcept Exit.replayed (postConsignment io.consignment endpoint
        (ContractIdText.toText rgbInfo.contractId) fundingTxid))
  | none => pure ()

/-- The transaction is given to the library; a refusal releases the lock. -/
def handOver (e : FundingGenerationReady) (io : FundingReadyIo Txid) (fundingTx : Transaction) :
    Fallible (Exit ReplayEvent) (FundingNode ContractId) Unit :=
  match io.fundingTransactionGenerated e.temporaryChannelId e.counterpartyNodeId fundingTx with
  | .ok () => modify fun node => { node with
      funded := node.funded ++ [(e.temporaryChannelId, fundingTx)] }
  | .error _ => modify fun node => { node with rgbSendLock := false }

def handle (e : FundingGenerationReady) (io : FundingReadyIo Txid) :
    Fallible (Exit ReplayEvent) (FundingNode ContractId) Unit := do
  let program ← attempt ((io.fromScriptpubkey e.outputScript).mapError fun err =>
    .panic none s!"Lightning funding tx should always be to a SegWit output: {err}")
  let node ← get
  let rgbInfo ← attempt (node.ldkDataDir.getRgbChannelInfoOptional e.temporaryChannelId true)
  let unsignedPsbt ← e.beginFunding io program rgbInfo
  let fundingTx ← signFunding io unsignedPsbt
  announce io fundingTx.txid rgbInfo
  e.handOver io fundingTx

end FundingGenerationReady

/-! ### Failing gracefully -/

section KeepsUp

variable {ContractId α β : Type}

/-- The program does not panic, and releases the lock unless the library takes a
funding transaction. -/
structure KeepsUp (x : Fallible (Exit ReplayEvent) (FundingNode ContractId) α)
    (node : FundingNode ContractId) : Prop where
  returns : StopsOnly Exit.answers x node
  releases : (after x node).funded = node.funded → (after x node).rgbSendLock = false

variable {x : Fallible (Exit ReplayEvent) (FundingNode ContractId) α}
  {f : α → Fallible (Exit ReplayEvent) (FundingNode ContractId) β}
  {node t : FundingNode ContractId} {a : α}

/-- A step that only panics and funds nothing has to return. -/
theorem keepsUp_bind_iff (hpanics : StopsOnly (fun exit => ¬exit.answers) x node)
    (hfunded : ∀ a t, x node = .ok a t → t.funded = node.funded) :
    KeepsUp (x >>= f) node ↔ ∃ a t, x node = .ok a t ∧ KeepsUp (f a) t := by
  cases hx : x node with
  | ok a t =>
    have hstops : StopsOnly Exit.answers (x >>= f) node ↔ StopsOnly Exit.answers (f a) t :=
      StopsOnly.bind_of_ok_iff hx
    have hafter : after (x >>= f) node = after (f a) t := after_bind_of_ok hx
    constructor
    · rintro ⟨hreturns, hreleases⟩
      rw [hafter, ← hfunded a t hx] at hreleases
      exact ⟨a, t, rfl, hstops.mp hreturns, hreleases⟩
    · rintro ⟨_, _, heq, hreturns, hreleases⟩
      obtain ⟨rfl, rfl⟩ := EStateM.Result.ok.inj heq
      refine ⟨hstops.mpr hreturns, ?_⟩
      rw [hafter, ← hfunded a t hx]
      exact hreleases
  | error exit t =>
    constructor
    · intro h
      exact absurd (h.returns exit t (bind_of_error hx)) (hpanics exit t hx)
    · rintro ⟨_, _, heq, -⟩
      cases heq

theorem keepsUp_attempt_bind_iff {x : Except (Exit ReplayEvent) α}
    (hpanics : FailsOnly (fun exit => ¬exit.answers) x) :
    KeepsUp (attempt x >>= f) node ↔ ∃ a, x = .ok a ∧ KeepsUp (f a) node := by
  rw [keepsUp_bind_iff (StopsOnly.attempt_iff.mpr hpanics)
    fun a t h => by rw [(attempt_eq_ok_iff.mp h).2]]
  constructor
  · rintro ⟨a, t, hx, h⟩
    obtain ⟨ha, rfl⟩ := attempt_eq_ok_iff.mp hx
    exact ⟨a, ha, h⟩
  · rintro ⟨a, ha, h⟩
    exact ⟨a, node, attempt_eq_ok_iff.mpr ⟨ha, rfl⟩, h⟩

theorem not_answers_unwrapped (exit : Exit String) :
    ¬(Exit.unwrapped exit : Exit ReplayEvent).answers := by
  cases exit <;> exact id

theorem failsOnly_unwrap (x : Except (Exit String) α) :
    FailsOnly (fun exit => ¬exit.answers) (unwrap x : Except (Exit ReplayEvent) α) := by
  cases x with
  | ok a => exact FailsOnly.ok a
  | error exit => exact FailsOnly.error_iff.mpr (not_answers_unwrapped exit)

/-- What is unwrapped has to succeed. -/
theorem keepsUp_unwrap_bind_iff {x : Except (Exit String) α} :
    KeepsUp (attempt (unwrap x) >>= f) node ↔ ∃ a, x = .ok a ∧ KeepsUp (f a) node := by
  rw [keepsUp_attempt_bind_iff (failsOnly_unwrap x)]
  simp only [unwrap, except_mapError_eq_ok_iff]

theorem keepsUp_modify_bind_iff {g : FundingNode ContractId → FundingNode ContractId}
    {f : PUnit → Fallible (Exit ReplayEvent) (FundingNode ContractId) β}
    (hfunded : (g node).funded = node.funded) :
    KeepsUp (modify g >>= f) node ↔ KeepsUp (f ⟨⟩) (g node) := by
  rw [keepsUp_bind_iff]
  · constructor
    · rintro ⟨_, _, heq, h⟩
      obtain ⟨rfl, rfl⟩ := EStateM.Result.ok.inj heq
      exact h
    · exact fun h => ⟨⟨⟩, g node, rfl, h⟩
  · intro exit t h
    cases h
  · intro a t h
    obtain ⟨-, rfl⟩ := EStateM.Result.ok.inj h
    exact hfunded

theorem keepsUp_get_bind_iff
    {f : FundingNode ContractId → Fallible (Exit ReplayEvent) (FundingNode ContractId) β} :
    KeepsUp (get >>= f) node ↔ KeepsUp (f node) node := by
  rw [keepsUp_bind_iff]
  · constructor
    · rintro ⟨_, _, heq, h⟩
      obtain ⟨rfl, rfl⟩ := EStateM.Result.ok.inj heq
      exact h
    · exact fun h => ⟨node, node, rfl, h⟩
  · intro exit t h
    cases h
  · intro a t h
    obtain ⟨-, rfl⟩ := EStateM.Result.ok.inj h
    rfl

/-- A step that keeps the lock is left to what it takes, when what follows depends
on the lock alone. -/
theorem keepsUp_step_iff {Takes Rest : α → Prop}
    (hpanics : StopsOnly (fun exit => ¬exit.answers) x node)
    (hkeeps : ∀ a t, x node = .ok a t → t.rgbSendLock = node.rgbSendLock ∧ t.funded = node.funded)
    (htakes : ∀ a, (∃ t, x node = .ok a t) ↔ Takes a)
    (hrest : ∀ a t, t.rgbSendLock = node.rgbSendLock → (KeepsUp (f a) t ↔ Rest a)) :
    KeepsUp (x >>= f) node ↔ ∃ a, Takes a ∧ Rest a := by
  rw [keepsUp_bind_iff hpanics fun a t h => (hkeeps a t h).2]
  constructor
  · rintro ⟨a, t, hx, h⟩
    exact ⟨a, (htakes a).mp ⟨t, hx⟩, (hrest a t (hkeeps a t hx).1).mp h⟩
  · rintro ⟨a, ha, h⟩
    obtain ⟨t, hx⟩ := (htakes a).mpr ha
    exact ⟨a, t, hx, (hrest a t (hkeeps a t hx).1).mpr h⟩

end KeepsUp

namespace FundingGenerationReady

variable {ContractId Txid : Type} {e : FundingGenerationReady} {io : FundingReadyIo Txid}
  {program : WitnessProgram} {rgbInfo : Option (RgbInfo ContractId)} {psbt : Psbt Txid}
  {fundingTx : Transaction} {node t : FundingNode ContractId}

/-! ### Signing -/

/-- The wallet signs the transaction, the library reads the signed one, and a file
takes it. -/
def Signs (io : FundingReadyIo Txid) (psbt : Psbt Txid) (fundingTx : Transaction) : Prop :=
  io.parsePsbt psbt = .ok () ∧ io.walletLoaded = true ∧
    io.sign psbt = .ok (.signed fundingTx) ∧ io.writePsbt = .ok ()

theorem extractTx_eq_ok_iff {signedPsbt : SignedPsbt} :
    signedPsbt.extractTx = .ok fundingTx ↔ signedPsbt = .signed fundingTx := by
  cases signedPsbt <;> simp [SignedPsbt.extractTx]

theorem exists_signFunding_iff :
    (∃ t, signFunding io psbt node = .ok fundingTx t) ↔ Signs io psbt fundingTx := by
  rw [signFunding, Signs, FundingReadyIo.signPsbt]
  simp only [attempt_bind_eq_ok_iff, unwrap, except_mapError_eq_ok_iff, except_bind_eq_ok_iff,
    withContext_eq_ok_iff, orErr_loaded_eq_ok_iff, extractTx_eq_ok_iff]
  constructor
  · rintro ⟨t, _, ⟨_, hparse, _, hloaded, hsign⟩, _, rfl, _, hwrite, h⟩
    rw [bind_of_ok (modify_apply _ node)] at h
    obtain rfl := (EStateM.Result.ok.inj h).1
    exact ⟨hparse, hloaded, hsign, hwrite⟩
  · rintro ⟨hparse, hloaded, hsign, hwrite⟩
    exact ⟨{ node with psbts := node.psbts.insert fundingTx.txid (.signed fundingTx) }, _,
      ⟨(), hparse, (), hloaded, hsign⟩, fundingTx, rfl, (), hwrite, rfl⟩

theorem stopsOnly_signFunding (io : FundingReadyIo Txid) (psbt : Psbt Txid)
    (node : FundingNode ContractId) :
    StopsOnly (fun exit => ¬exit.answers) (signFunding io psbt) node := by
  refine StopsOnly.attempt_bind_iff.mpr ⟨failsOnly_unwrap _, fun _ _ => ?_⟩
  refine StopsOnly.attempt_bind_iff.mpr ⟨failsOnly_unwrap _, fun _ _ => ?_⟩
  refine StopsOnly.attempt_bind_iff.mpr ⟨failsOnly_unwrap _, fun _ _ => ?_⟩
  exact (StopsOnly.bind_of_ok_iff (modify_apply _ node)).mpr (StopsOnly.pure _)

theorem signFunding_of_ok (h : signFunding io psbt node = .ok fundingTx t) :
    t.rgbSendLock = node.rgbSendLock ∧ t.funded = node.funded := by
  obtain ⟨signedPsbt, -, h⟩ := attempt_bind_eq_ok_iff.mp h
  obtain ⟨tx, -, h⟩ := attempt_bind_eq_ok_iff.mp h
  obtain ⟨_, -, h⟩ := attempt_bind_eq_ok_iff.mp h
  rw [bind_of_ok (modify_apply _ node)] at h
  obtain rfl := (EStateM.Result.ok.inj h).2
  exact ⟨rfl, rfl⟩

/-! ### Handing over -/

/-- Whatever the library answers is taken care of. -/
theorem keepsUp_handOver (e : FundingGenerationReady) (io : FundingReadyIo Txid)
    (fundingTx : Transaction) (node : FundingNode ContractId) :
    KeepsUp (e.handOver io fundingTx) node := by
  unfold handOver
  split
  · refine ⟨fun exit t h => (by cases h), fun hsame => ?_⟩
    exact absurd (List.append_right_eq_self.mp hsame) (List.cons_ne_nil _ _)
  · exact ⟨fun exit t h => (by cases h), fun _ => rfl⟩

/-- A posting that fails asks for the event again, and does not release the lock. -/
theorem keepsUp_post_bind_iff
    {x : Fallible (Exit String) (HashMap String (RgbInfo ContractId)) Unit}
    (hx : StopsOnly Exit.answers x node.tempRgbInfo) :
    KeepsUp (zoom FundingNode.tempRgbInfo (fun tempInfo node => { node with
        tempRgbInfo := tempInfo }) (EStateM.adaptExcept Exit.replayed x) >>= fun _ =>
          e.handOver io fundingTx) node ↔
      (∃ t, x node.tempRgbInfo = .ok () t) ∨ node.rgbSendLock = false := by
  cases hpost : x node.tempRgbInfo with
  | ok _ t =>
    have hzoom : zoom FundingNode.tempRgbInfo (fun tempInfo node => { node with
        tempRgbInfo := tempInfo }) (EStateM.adaptExcept Exit.replayed x) node =
          .ok () { node with tempRgbInfo := t } :=
      zoom_of_ok (adaptExcept_eq_ok_iff.mpr hpost)
    refine iff_of_true ((keepsUp_bind_iff ?_ ?_).mpr ⟨_, _, hzoom, keepsUp_handOver ..⟩)
      (.inl ⟨t, rfl⟩)
    · intro exit t' h
      rw [hzoom] at h
      cases h
    · intro _ t' h
      rw [hzoom] at h
      obtain rfl := (EStateM.Result.ok.inj h).2
      rfl
  | error exit t =>
    have hzoom : zoom FundingNode.tempRgbInfo (fun tempInfo node => { node with
        tempRgbInfo := tempInfo }) (EStateM.adaptExcept Exit.replayed x) node =
          .error exit.replayed { node with tempRgbInfo := t } :=
      zoom_of_error (adaptExcept_of_error hpost)
    constructor
    · intro h
      have hlock := h.releases (by rw [after_bind_of_error hzoom])
      rw [after_bind_of_error hzoom] at hlock
      exact .inr hlock
    · rintro (⟨_, h⟩ | hlock)
      · cases h
      · refine ⟨fun exit' t' h => ?_, fun _ => by rw [after_bind_of_error hzoom]; exact hlock⟩
        rw [bind_of_error hzoom] at h
        obtain rfl := (EStateM.Result.error.inj h).1
        cases exit with
        | err message => exact trivial
        | panic held message => exact hx _ _ hpost

variable [ContractIdText ContractId]

/-! ### Beginning -/

/-- The transaction can be built. A coloured one also takes an implemented schema,
a known state of its contract, and a file for the details. -/
def Begins (e : FundingGenerationReady) (io : FundingReadyIo Txid) (program : WitnessProgram)
    (psbt : Psbt Txid) : Option (RgbInfo ContractId) → Prop
  | some rgbInfo => rgbInfo.schema ≠ .ifa ∧ io.writeDetails = .ok () ∧ ∃ built stateHash,
      io.Builds (io.recipientId program.scriptPubkey) e.channelValueSatoshis feeRate built ∧
      io.stateHash (ContractIdText.toText rgbInfo.contractId) = .ok stateHash ∧
      { built with output := built.output ++ [⟨0, .newOpReturn stateHash⟩] } = psbt
  | none => io.Builds program.address e.channelValueSatoshis feeRate psbt

theorem exists_sendBegin_iff {io : SendBeginIo Txid} {contractId : ContractId}
    {recipientId : String} {amountSat : Nat} {assignment : Assignment} {w : FundingWorld} :
    (∃ w', sendBegin io (recipientMap contractId recipientId amountSat assignment) feeRate w =
        .ok psbt w') ↔
      (∃ tx, io.contractTx (ContractIdText.toText contractId) recipientId amountSat feeRate =
        .ok tx ∧ tx.psbt = psbt) ∧ io.write = .ok () := by
  constructor
  · rintro ⟨w', h⟩
    obtain ⟨_, hmap, h⟩ := attempt_bind_eq_ok_iff.mp h
    obtain rfl := Except.ok.inj hmap
    obtain ⟨_, hfirst, h⟩ := attempt_bind_eq_ok_iff.mp h
    obtain rfl := Except.ok.inj hfirst
    obtain ⟨_, hamount, h⟩ := attempt_bind_eq_ok_iff.mp h
    obtain rfl := Except.ok.inj hamount
    obtain ⟨tx, htx, h⟩ := attempt_bind_eq_ok_iff.mp h
    obtain ⟨_, hwrite, h⟩ := attempt_bind_eq_ok_iff.mp h
    exact ⟨⟨tx, htx, (EStateM.Result.ok.inj h).1⟩, withContext_eq_ok_iff.mp hwrite⟩
  · rintro ⟨⟨tx, htx, rfl⟩, hwrite⟩
    refine ⟨{ w with pendingRgbTransfer := .doc (transferDetailsJson
      (ContractIdText.toText contractId) assignment.rgbAmount amountSat) }, ?_⟩
    refine attempt_bind_eq_ok_iff.mpr ⟨_, rfl, attempt_bind_eq_ok_iff.mpr ⟨_, rfl,
      attempt_bind_eq_ok_iff.mpr ⟨_, rfl, attempt_bind_eq_ok_iff.mpr ⟨tx, htx,
        attempt_bind_eq_ok_iff.mpr ⟨(), withContext_eq_ok_iff.mpr hwrite, rfl⟩⟩⟩⟩⟩

theorem schemaAssignment_isOk_iff {schema : AssetSchema} (amount : Nat) :
    (∃ assignment, schemaAssignment (ε := ReplayEvent) schema amount = .ok assignment) ↔
      schema ≠ .ifa := by
  cases schema <;> simp [schemaAssignment]

theorem exists_beginFunding_iff :
    (∃ t, e.beginFunding io program rgbInfo node = .ok psbt t) ↔
      e.Begins io program psbt rgbInfo := by
  cases rgbInfo with
  | some rgbInfo =>
    rw [beginFunding, Begins, ← schemaAssignment_isOk_iff rgbInfo.localRgbAmount.toNat]
    simp only [attempt_bind_eq_ok_iff, zoom_eq_ok_iff, adaptExcept_eq_ok_iff]
    constructor
    · rintro ⟨t, assignment, hassignment, wallet, hbegin, rfl⟩
      obtain ⟨hbuilt, hwrite⟩ := exists_sendBegin_iff.mp ⟨wallet, hbegin⟩
      exact ⟨⟨assignment, hassignment⟩, hwrite,
        BuilderIo.exists_contractTx_iff.mp hbuilt⟩
    · rintro ⟨⟨assignment, hassignment⟩, hwrite, hbuilds⟩
      obtain ⟨wallet, hbegin⟩ : ∃ wallet, sendBegin ⟨io.toBuilderIo, io.writeDetails⟩
          (recipientMap rgbInfo.contractId (io.recipientId program.scriptPubkey)
            e.channelValueSatoshis assignment) feeRate node.wallet = .ok psbt wallet :=
        exists_sendBegin_iff.mpr ⟨BuilderIo.exists_contractTx_iff.mpr hbuilds, hwrite⟩
      exact ⟨_, assignment, hassignment, wallet, hbegin, rfl⟩
  | none =>
    rw [beginFunding, Begins]
    simp only [attempt_eq_ok_iff, unwrap, except_mapError_eq_ok_iff,
      BuilderIo.sendBtcBegin_eq_ok_iff]
    constructor
    · rintro ⟨t, hbuilds, -⟩
      exact hbuilds
    · exact fun hbuilds => ⟨node, hbuilds, rfl⟩

theorem stopsOnly_beginFunding (e : FundingGenerationReady) (io : FundingReadyIo Txid)
    (program : WitnessProgram) (rgbInfo : Option (RgbInfo ContractId))
    (node : FundingNode ContractId) :
    StopsOnly (fun exit => ¬exit.answers) (e.beginFunding io program rgbInfo) node := by
  cases rgbInfo with
  | some rgbInfo =>
    refine StopsOnly.attempt_bind_iff.mpr ⟨?_, fun assignment _ => ?_⟩
    · cases rgbInfo.schema with
      | nia | cfa | uda => exact FailsOnly.ok _
      | ifa => exact FailsOnly.error_iff.mpr id
    · refine StopsOnly.zoom_iff.mpr (StopsOnly.adaptExcept_iff.mpr ?_)
      exact fun exit _ _ => not_answers_unwrapped exit
  | none =>
    exact StopsOnly.attempt_iff.mpr (failsOnly_unwrap _)

theorem beginFunding_of_ok (h : e.beginFunding io program rgbInfo node = .ok psbt t) :
    t.rgbSendLock = node.rgbSendLock ∧ t.funded = node.funded := by
  cases rgbInfo with
  | some rgbInfo =>
    obtain ⟨assignment, -, h⟩ := attempt_bind_eq_ok_iff.mp h
    obtain ⟨wallet, -, rfl⟩ := zoom_eq_ok_iff.mp h
    exact ⟨rfl, rfl⟩
  | none =>
    obtain ⟨-, rfl⟩ := attempt_eq_ok_iff.mp h
    exact ⟨rfl, rfl⟩

/-! ### Announcing -/

/-- The files and texts that the proxy needs can be read; and the proxy takes the
consignment, or the lock is free. -/
def Announces (io : FundingReadyIo Txid) (fundingTxid : String) (rgbSendLock : Bool) :
    Option (RgbInfo ContractId) → Prop
  | some rgbInfo => io.rgbTxid fundingTxid = .ok () ∧ io.writeTempInfo = .ok () ∧
      ∃ endpoint, io.transportEndpoint = .ok endpoint ∧
        (io.consignment.Posts endpoint (ContractIdText.toText rgbInfo.contractId) fundingTxid
          rgbInfo ∨ rgbSendLock = false)
  | none => True

theorem keepsUp_announce_iff :
    KeepsUp (announce io fundingTx.txid rgbInfo >>= fun _ => e.handOver io fundingTx) node ↔
      Announces io fundingTx.txid node.rgbSendLock rgbInfo := by
  cases rgbInfo with
  | none => exact iff_of_true (keepsUp_handOver e io fundingTx node) trivial
  | some rgbInfo =>
    have hwritten : (node.tempRgbInfo.insert fundingTx.txid rgbInfo).lookup fundingTx.txid =
        some rgbInfo := Finmap.lookup_insert _
    rw [announce, Announces]
    simp only [bind_assoc, keepsUp_unwrap_bind_iff, except_mapError_eq_ok_iff,
      keepsUp_modify_bind_iff, keepsUp_post_bind_iff (stopsOnly_postConsignment _ _ _ _ _),
      exists_postConsignment_iff hwritten]
    constructor
    · rintro ⟨_, htxid, _, hwrite, hposts⟩
      exact ⟨htxid, hwrite, hposts⟩
    · rintro ⟨htxid, hwrite, hposts⟩
      exact ⟨(), htxid, (), hwrite, hposts⟩

/-! ### The event -/

omit [ContractIdText ContractId] in
/-- A file of channel info that is not there is a panic. -/
theorem failsOnly_getRgbChannelInfoOptional (channelId : ChannelId) (pending : Bool)
    (dir : LdkDataDir ContractId) : FailsOnly (fun exit => ¬exit.answers)
      (dir.getRgbChannelInfoOptional (ε := ReplayEvent) channelId pending) := by
  unfold LdkDataDir.getRgbChannelInfoOptional
  split
  · split
    · exact FailsOnly.ok _
    · exact FailsOnly.error_iff.mpr id
  · exact FailsOnly.ok none

/-- What the funding of a channel takes: its output is a witness program, its info
files are there when it is coloured, the transaction is built and signed, and the
proxy is told. -/
def Fundable (e : FundingGenerationReady) (io : FundingReadyIo Txid)
    (node : FundingNode ContractId) : Prop :=
  ∃ program rgbInfo psbt fundingTx, io.fromScriptpubkey e.outputScript = .ok program ∧
    node.ldkDataDir.getRgbChannelInfoOptional (ε := ReplayEvent) e.temporaryChannelId true =
      .ok rgbInfo ∧
    e.Begins io program psbt rgbInfo ∧ Signs io psbt fundingTx ∧
    Announces io fundingTx.txid node.rgbSendLock rgbInfo

/-- The handler fails gracefully if and only if nothing fails but the library's
answer: whatever else fails either panics, or keeps the lock. -/
theorem keepsUp_handle_iff : KeepsUp (e.handle io) node ↔ e.Fundable io node := by
  have hprogram : FailsOnly (fun exit => ¬exit.answers)
      ((io.fromScriptpubkey e.outputScript).mapError fun err => (.panic none
        s!"Lightning funding tx should always be to a SegWit output: {err}" :
          Exit ReplayEvent)) := by
    cases io.fromScriptpubkey e.outputScript with
    | ok program => exact FailsOnly.ok program
    | error err => exact FailsOnly.error_iff.mpr id
  have hbegun : ∀ program rgbInfo, KeepsUp (e.beginFunding io program rgbInfo >>=
      fun unsignedPsbt => signFunding io unsignedPsbt >>= fun fundingTx =>
        announce io fundingTx.txid rgbInfo >>= fun _ => e.handOver io fundingTx) node ↔
      ∃ psbt, e.Begins io program psbt rgbInfo ∧ ∃ fundingTx, Signs io psbt fundingTx ∧
        Announces io fundingTx.txid node.rgbSendLock rgbInfo := by
    intro program rgbInfo
    refine keepsUp_step_iff (stopsOnly_beginFunding e io program rgbInfo node)
      (fun _ _ => beginFunding_of_ok) (fun _ => exists_beginFunding_iff) fun psbt t hlock => ?_
    refine keepsUp_step_iff (stopsOnly_signFunding io psbt t)
      (fun _ _ => signFunding_of_ok) (fun _ => exists_signFunding_iff) fun fundingTx t' hlock' => ?_
    rw [keepsUp_announce_iff, hlock', hlock]
  rw [handle, keepsUp_attempt_bind_iff hprogram, Fundable]
  simp only [except_mapError_eq_ok_iff, keepsUp_get_bind_iff,
    keepsUp_attempt_bind_iff (failsOnly_getRgbChannelInfoOptional _ _ _), hbegun]
  constructor
  · rintro ⟨program, hprogram, rgbInfo, hinfo, psbt, hbegins, fundingTx, hsigns, hannounces⟩
    exact ⟨program, rgbInfo, psbt, fundingTx, hprogram, hinfo, hbegins, hsigns, hannounces⟩
  · rintro ⟨program, rgbInfo, psbt, fundingTx, hprogram, hinfo, hbegins, hsigns, hannounces⟩
    exact ⟨program, hprogram, rgbInfo, hinfo, psbt, hbegins, fundingTx, hsigns, hannounces⟩

/-- A wallet whose only output carries tokens. -/
def emptyWalletIo : FundingReadyIo ℕ where
  toBuilderIo := oneOutput false ["aa:1"]
  fromScriptpubkey script := .ok ⟨"bcrt1q", script⟩
  recipientId _ := "bcrt:wvout"
  writeDetails := .ok ()
  parsePsbt _ := .ok ()
  sign psbt := .ok (.signed ⟨"bb", psbt.output⟩)
  writePsbt := .ok ()
  rgbTxid _ := .ok ()
  writeTempInfo := .ok ()
  transportEndpoint := .ok "rpc://proxy"
  consignment := {
    dataDirUtf8 := true
    stateHash := fun _ => .ok [7]
    assetInfo := fun _ => .ok ⟨"c1", "TICK", "Tick", 0, 1000⟩
    contractMetadata := fun _ => .ok ⟨"rho:id", "new x in x", []⟩
    contractsInitialized := true
    walletPubkey := .ok "02ab"
    readTempInfo := .ok ()
    removeTempInfo := true
    writeBody := .ok ()
    attachFile := .ok ()
    post := fun _ => .ok ⟨true, "200 OK", .ok ⟨some true, none⟩⟩ }
  fundingTransactionGenerated _ _ _ := .ok ()

/-- The funding of a plain channel for which there are no bitcoins panics, with the
lock held. -/
theorem unfundable_panics :
    ¬∀ (e : FundingGenerationReady) (io : FundingReadyIo ℕ) (node : FundingNode ℕ),
      KeepsUp (e.handle io) node := by
  intro h
  have hreturns := (h ⟨⟨Vector.replicate 32 1⟩, ⟨Vector.replicate 33 2⟩, 50000,
    ⟨0 :: 32 :: List.replicate 32 7⟩⟩ emptyWalletIo
    ⟨true, ⟨.missing, .missing, false, []⟩, ⟨∅, ∅, []⟩, ∅, ∅, []⟩).returns
  exact hreturns _ _ rfl

end FundingGenerationReady

end RgbLightningNode
