import RgbLightningNode.Events.ChannelClosed
import RgbLightningNode.SwapString

/-!
# When a closed channel is acknowledged

The handler never asks for the event again. Every acknowledgement comes with a
completed claim exactly when the first delivery completes it; the later deliveries
read no info file and do nothing.
-/

namespace RgbLightningNode

open Fallible SerdeJson

namespace ChannelClosed

variable {ContractId S : Type} [ContractIdText ContractId]

/-- One delivery of the event of a channel with a funding outpoint. -/
def step (env : ClosingNode ContractId) (channelId : ChannelId) (txo : OutPoint)
    (w : CloseWorld ContractId S) (io : CloseIo S) :
    Except (Exit ReplayEvent) Unit × CloseWorld ContractId S :=
  outcome (channelClosed env io channelId (some txo)) w

/-- How often the claim of this node's witness has succeeded. -/
def claimCount (env : ClosingNode ContractId) (txo : OutPoint) (contractId : ContractId)
    (w : CloseWorld ContractId S) : Nat :=
  w.claiming.claims.countP fun c =>
    c.contractId = ContractIdText.toText contractId ∧ c.witnessId = env.ourWitnessId txo

/-- The tokens are claimed, the output is released, and the info files are removed. -/
structure Completed (env : ClosingNode ContractId) (channelId : ChannelId) (txo : OutPoint)
    (contractId : ContractId) (w : CloseWorld ContractId S) : Prop where
  claimed : claimCount env txo contractId w = 1
  released : w.lockedChannelUtxos.get? txo.utxo = none
  infoGone : w.node.ldkDataDir.channelInfo.lookup channelId.hex = none
  pendingGone : w.node.ldkDataDir.channelInfoPending.lookup channelId.hex = none

/-- The event is acknowledged when its tokens are claimed; in any other case it
is asked for again, and a later delivery can complete the claim. -/
structure AcksCompleted (env : ClosingNode ContractId) (channelId : ChannelId) (txo : OutPoint)
    (contractId : ContractId) (w : CloseWorld ContractId S) (io : CloseIo S) : Prop where
  acknowledged : (step env channelId txo w io).1 = .ok () →
    Completed env channelId txo contractId (step env channelId txo w io).2
  otherwise : (step env channelId txo w io).1 ≠ .ok () →
    (step env channelId txo w io).1 = .error (.err .mk) ∧
      ∃ io', (step env channelId txo (step env channelId txo w io).2 io').1 = .ok () ∧
        Completed env channelId txo contractId
          (step env channelId txo (step env channelId txo w io).2 io').2

/-- Every fallible step of the delivery succeeds. -/
structure Succeeds (env : ClosingNode ContractId) (channelId : ChannelId) (txo : OutPoint)
    (contractId : ContractId) (w : CloseWorld ContractId S) (io : CloseIo S) : Prop where
  claims : ∃ claimUtxo call storage, getClaimUtxo io.claimUtxo = .ok claimUtxo ∧
    callClaim io.claim (env.ourWitnessId txo) claimUtxo (ContractIdText.toText contractId) =
      .ok call ∧
    recordClaim io.claim (env.ourWitnessId txo) claimUtxo (ContractIdText.toText contractId)
      w.claiming.storage = .ok () storage
  releases : w.lockedChannelUtxos.get? txo.utxo = none ∨
    ∃ f, releaseLockedUtxo io.locked txo.txid txo.index w.lockedChannelUtxos = .ok () f
  removesInfo : w.node.ldkDataDir.channelInfo.lookup channelId.hex = none ∨ io.removeInfo = true
  removesPendingInfo : w.node.ldkDataDir.channelInfoPending.lookup channelId.hex = none ∨
    io.removePendingInfo = true

variable {env : ClosingNode ContractId} {channelId : ChannelId} {txo : OutPoint}
  {contractId : ContractId} {rgbInfo : RgbInfo ContractId} {w : CloseWorld ContractId S}
  {io : CloseIo S} {ios : List (CloseIo S)}

/-! ### One delivery -/

/-- The store of temporary ids plays no part. -/
theorem completed_step_iff :
    Completed env channelId txo contractId (step env channelId txo w io).2 ↔
      Completed env channelId txo contractId
        (after (handleRgbChannelClose env io channelId txo) w) := by
  rw [step, outcome_snd, channelClosed]
  rcases h : logError (handleRgbChannelClose env io channelId txo) w with ⟨⟨⟩, w'⟩ | ⟨exit, w'⟩
  · rw [after_bind_of_ok h, ← after_logError, after_of_ok h]
    exact ⟨fun ⟨a, b, c, d⟩ => ⟨a, b, c, d⟩, fun ⟨a, b, c, d⟩ => ⟨a, b, c, d⟩⟩
  · rw [after_bind_of_error h, ← after_logError, after_of_error h]

theorem step_of_handled {w' : CloseWorld ContractId S}
    (h : handleRgbChannelClose env io channelId txo w = .ok () w') :
    (step env channelId txo w io).1 = .ok () := by
  have hlog : logError (handleRgbChannelClose env io channelId txo) w = .ok () w' := by
    rw [logError, h]
  rw [step, channelClosed, outcome_bind_of_ok hlog]
  rfl

/-- The handler never asks for the event again. -/
theorem step_ne_replay (e : ReplayEvent) : (step env channelId txo w io).1 ≠ .error (.err e) := by
  intro h
  rw [step, channelClosed] at h
  rcases hlog : logError (handleRgbChannelClose env io channelId txo) w with ⟨⟨⟩, w'⟩ | ⟨exit, w'⟩
  · rw [outcome_bind_of_ok hlog] at h
    cases h
  · rw [outcome_bind_of_error hlog] at h
    obtain rfl := Except.error.inj h
    exact logError_ne_replay _ _ _ _ hlog

/-- The claim and everything behind it, once an output is found. -/
theorem handle_of_utxo (hinfo : env.readRgbChannelInfo channelId w.node.ldkDataDir = some rgbInfo)
    (hamount : rgbInfo.localRgbAmount ≠ 0) {claimUtxo : String}
    (hutxo : getClaimUtxo io.claimUtxo = .ok claimUtxo) :
    handleRgbChannelClose env io channelId txo w = (do
      zoom CloseWorld.claiming (fun c w => { w with claiming := c })
        (EStateM.adaptExcept (Exit.inContext "Claim failed")
          (claim io.claim (env.ourWitnessId txo) claimUtxo
            (ContractIdText.toText rgbInfo.contractId)))
      modify (CloseWorld.cleanUp io channelId txo) :
        Fallible (Exit String) (CloseWorld ContractId S) Unit) w := by
  rw [handleRgbChannelClose, bind_of_ok (get_apply w)]
  simp only [hinfo, if_neg hamount, hutxo, withContext]
  rw [bind_of_ok (attempt_ok claimUtxo w)]

theorem handle_of_no_utxo
    (hinfo : env.readRgbChannelInfo channelId w.node.ldkDataDir = some rgbInfo)
    (hamount : rgbInfo.localRgbAmount ≠ 0) {e : String}
    (hutxo : getClaimUtxo io.claimUtxo = .error e) :
    after (handleRgbChannelClose env io channelId txo) w = w := by
  rw [after, handleRgbChannelClose, bind_of_ok (get_apply w)]
  simp only [hinfo, if_neg hamount, hutxo, withContext]
  rw [bind_of_error (attempt_error _ w)]

theorem handle_of_no_info (hinfo : env.readRgbChannelInfo channelId w.node.ldkDataDir = none) :
    handleRgbChannelClose env io channelId txo w = .ok () w := by
  rw [handleRgbChannelClose, bind_of_ok (get_apply w)]
  simp only [hinfo]
  rfl

omit [ContractIdText ContractId] in
theorem lookup_removeInfoFiles_iff {removeInfo removePending : Bool} {dir : LdkDataDir ContractId} :
    ((dir.removeInfoFiles removeInfo removePending channelId).channelInfo.lookup channelId.hex =
        none ↔ dir.channelInfo.lookup channelId.hex = none ∨ removeInfo = true) ∧
      ((dir.removeInfoFiles removeInfo removePending channelId).channelInfoPending.lookup
          channelId.hex = none ↔
        dir.channelInfoPending.lookup channelId.hex = none ∨ removePending = true) := by
  cases removeInfo <;> cases removePending <;> simp [LdkDataDir.removeInfoFiles]

/-- A claim that is carried out counts as one more. -/
theorem claimCount_append {call : ClaimCall} {storage : S} {claimUtxo : String}
    (hcall : callClaim io.claim (env.ourWitnessId txo) claimUtxo
      (ContractIdText.toText contractId) = .ok call) :
    claimCount env txo contractId { w with
      claiming := { claims := w.claiming.claims ++ [call], storage := storage } } =
      claimCount env txo contractId w + 1 := by
  obtain ⟨hcontract, hwitness, -⟩ := callClaim_of_ok hcall
  simp [claimCount, List.countP_append, hcontract, hwitness]

/-- From a channel whose tokens are still to be claimed, a delivery completes
the claim exactly when all its steps succeed. -/
theorem completed_handle_iff
    (hread : ∀ dir : LdkDataDir ContractId, dir.channelInfo.lookup channelId.hex = none →
      dir.channelInfoPending.lookup channelId.hex = none →
      env.readRgbChannelInfo channelId dir = none)
    (hinfo : env.readRgbChannelInfo channelId w.node.ldkDataDir = some rgbInfo)
    (hamount : rgbInfo.localRgbAmount ≠ 0)
    (hfresh : claimCount env txo rgbInfo.contractId w = 0) :
    Completed env channelId txo rgbInfo.contractId
        (after (handleRgbChannelClose env io channelId txo) w) ↔
      Succeeds env channelId txo rgbInfo.contractId w io := by
  rcases hutxo : getClaimUtxo io.claimUtxo with e | claimUtxo
  · rw [handle_of_no_utxo hinfo hamount hutxo]
    constructor
    · intro h
      exact absurd (hfresh.symm.trans h.claimed) (by simp)
    · rintro ⟨⟨_, _, _, hutxo', _⟩, _⟩
      cases hutxo.symm.trans hutxo'
  rw [after, handle_of_utxo hinfo hamount hutxo, ← after]
  rcases hcall : callClaim io.claim (env.ourWitnessId txo) claimUtxo
      (ContractIdText.toText rgbInfo.contractId) with exit | call
  · -- the contract has not moved the tokens
    rw [after_bind_of_error (zoom_of_error (adaptExcept_of_error (claim_of_error hcall)))]
    constructor
    · intro h
      exact absurd (hfresh.symm.trans h.claimed) (by simp)
    · rintro ⟨⟨_, _, _, hutxo', hcall', _⟩, _⟩
      obtain rfl := Except.ok.inj (hutxo.symm.trans hutxo')
      cases hcall.symm.trans hcall'
  rcases hrecord : recordClaim io.claim (env.ourWitnessId txo) claimUtxo
      (ContractIdText.toText rgbInfo.contractId) w.claiming.storage with
    ⟨⟨⟩, storage⟩ | ⟨exit, storage⟩
  · have hclaim : claim io.claim (env.ourWitnessId txo) claimUtxo
        (ContractIdText.toText rgbInfo.contractId) w.claiming =
          .ok () ⟨w.claiming.claims ++ [call], storage⟩ :=
      (claim_of_ok hcall).trans (zoom_of_ok hrecord)
    rw [after_bind_of_ok (zoom_of_ok (adaptExcept_eq_ok_iff.mpr hclaim)),
      after_of_ok (modify_apply _ _)]
    have hcount : claimCount env txo rgbInfo.contractId { w with
        claiming := ⟨w.claiming.claims ++ [call], storage⟩ } = _ := claimCount_append hcall
    rw [hfresh] at hcount
    constructor
    · rintro ⟨-, hreleased, hgone, hpending⟩
      exact ⟨⟨claimUtxo, call, storage, hutxo, hcall, hrecord⟩,
        get?_after_releaseLockedUtxo_eq_none_iff.mp hreleased,
        lookup_removeInfoFiles_iff.1.mp hgone, lookup_removeInfoFiles_iff.2.mp hpending⟩
    · rintro ⟨-, hreleases, hinfoFile, hpendingFile⟩
      exact ⟨hcount, get?_after_releaseLockedUtxo_eq_none_iff.mpr hreleases,
        lookup_removeInfoFiles_iff.1.mpr hinfoFile, lookup_removeInfoFiles_iff.2.mpr hpendingFile⟩
  · -- the tokens are moved, but the info files stay
    have hclaim : claim io.claim (env.ourWitnessId txo) claimUtxo
        (ContractIdText.toText rgbInfo.contractId) w.claiming =
          .error exit ⟨w.claiming.claims ++ [call], storage⟩ :=
      (claim_of_ok hcall).trans (zoom_of_error hrecord)
    rw [after_bind_of_error (zoom_of_error (adaptExcept_of_error hclaim))]
    constructor
    · intro h
      exact absurd (hinfo.symm.trans (hread _ h.infoGone h.pendingGone)) (by simp)
    · rintro ⟨⟨_, _, _, hutxo', _, hrecord'⟩, _⟩
      obtain rfl := Except.ok.inj (hutxo.symm.trans hutxo')
      cases hrecord.symm.trans hrecord'

theorem handle_of_succeeds
    (hinfo : env.readRgbChannelInfo channelId w.node.ldkDataDir = some rgbInfo)
    (hamount : rgbInfo.localRgbAmount ≠ 0)
    (h : Succeeds env channelId txo rgbInfo.contractId w io) :
    ∃ w', handleRgbChannelClose env io channelId txo w = .ok () w' := by
  obtain ⟨claimUtxo, call, storage, hutxo, hcall, hrecord⟩ := h.claims
  have hclaim : claim io.claim (env.ourWitnessId txo) claimUtxo
      (ContractIdText.toText rgbInfo.contractId) w.claiming =
        .ok () ⟨w.claiming.claims ++ [call], storage⟩ :=
    (claim_of_ok hcall).trans (zoom_of_ok hrecord)
  rw [handle_of_utxo hinfo hamount hutxo,
    bind_of_ok (zoom_of_ok (adaptExcept_eq_ok_iff.mpr hclaim))]
  exact ⟨_, modify_apply _ _⟩

/-- Once the claim is completed, deliveries are acknowledged and it stays
completed. -/
theorem acksCompleted_of_completed
    (hread : ∀ dir : LdkDataDir ContractId, dir.channelInfo.lookup channelId.hex = none →
      dir.channelInfoPending.lookup channelId.hex = none →
      env.readRgbChannelInfo channelId dir = none)
    (h : Completed env channelId txo contractId w) :
    Completed env channelId txo contractId (step env channelId txo w io).2 ∧
      (step env channelId txo w io).1 = .ok () := by
  have hnone : handleRgbChannelClose env io channelId txo w = .ok () w :=
    handle_of_no_info (hread _ h.infoGone h.pendingGone)
  refine ⟨completed_step_iff.mpr ?_, step_of_handled hnone⟩
  rwa [after_of_ok hnone]

/-! ### A sequence of deliveries -/

/-- For a coloured channel with tokens of its own that are still to be claimed: every
acknowledgement comes with a completed claim if and only if the first delivery succeeds in
every step. -/
theorem acksCompleted_iff
    (hread : ∀ dir : LdkDataDir ContractId, dir.channelInfo.lookup channelId.hex = none →
      dir.channelInfoPending.lookup channelId.hex = none →
      env.readRgbChannelInfo channelId dir = none)
    (hinfo : env.readRgbChannelInfo channelId w.node.ldkDataDir = some rgbInfo)
    (hamount : rgbInfo.localRgbAmount ≠ 0)
    (hfresh : claimCount env txo rgbInfo.contractId w = 0) :
    Mealy.Along (step env channelId txo)
        (AcksCompleted env channelId txo rgbInfo.contractId) w ios ↔
      ∀ io ∈ ios.head?, Succeeds env channelId txo rgbInfo.contractId w io := by
  -- the first delivery decides: it is never asked for again
  have hfirst : ∀ io,
      Completed env channelId txo rgbInfo.contractId (step env channelId txo w io).2 ↔
        Succeeds env channelId txo rgbInfo.contractId w io :=
    fun io => completed_step_iff.trans (completed_handle_iff hread hinfo hamount hfresh)
  constructor
  · rintro h io hio
    obtain ⟨rest, rfl⟩ := List.head?_eq_some_iff.mp hio
    rw [← hfirst]
    by_cases hok : (step env channelId txo w io).1 = .ok ()
    · exact h.1.acknowledged hok
    · exact absurd (h.1.otherwise hok).1 (step_ne_replay _)
  · intro h
    rcases ios with _ | ⟨io, rest⟩
    · trivial
    have hsucceeds := h io rfl
    obtain ⟨w', hw'⟩ := handle_of_succeeds hinfo hamount hsucceeds
    have hok := step_of_handled hw'
    have hcompleted := (hfirst io).mpr hsucceeds
    refine ⟨⟨fun _ => hcompleted, fun hne => absurd hok hne⟩, ?_⟩
    -- behind the first delivery the invariant is that the claim is completed
    refine Mealy.along_of_invariant (I := Completed env channelId txo rgbInfo.contractId)
      (C := fun _ _ => True) (fun s x hs _ => (acksCompleted_of_completed hread hs).1)
      (fun s x hs _ => ?_) hcompleted (Mealy.along_of_forall (fun _ _ => trivial) _)
    obtain ⟨hs', hok'⟩ := acksCompleted_of_completed hread hs
    exact ⟨fun _ => hs', fun hne => absurd hok' hne⟩

/-! ### A claim that fails once -/

/-- The opener of a channel with the funding outpoint f00d:0. -/
def opener : ClosingNode ℕ where
  hasTransaction := fun _ => true
  sha256 := fun _ => "909ab3923df8cdf869ecddf6c93bd86d068632eb417f9504eedde1c4136638be"
  readRgbChannelInfo := fun channelId dir => dir.channelInfo.lookup channelId.hex

def closedChannel : ChannelId := ⟨Vector.replicate 32 1⟩

/-- The opener when the channel closes with 600 tokens of asset 1 on its side. -/
def openerWith600 : CloseWorld ℕ (List PendingClaim) where
  node :=
    { stores := ⟨∅, ∅, ∅, ∅, ∅, ∅⟩
      ldkDataDir := ⟨Finmap.singleton closedChannel.hex ⟨1, .nia, 600, 0⟩, ∅, []⟩
      channels := []
      interceptCalls := [] }
  claiming := ⟨[], []⟩
  lockedChannelUtxos := .doc (.obj [("f00d:0", .null)])

def everyCloseStepWorks : CloseIo (List PendingClaim) where
  claimUtxo := ⟨.ok [⟨"cafe", 2, 1000, false⟩], .ok (), .ok []⟩
  claim := ClaimTable.everyClaimStepWorks
  locked := ⟨.ok (), .ok (), .ok ()⟩
  removeInfo := true
  removePendingInfo := true
  order := []

/-- The same answers when the wallet cannot list its outputs. -/
def noClaimUtxo : CloseIo (List PendingClaim) :=
  { everyCloseStepWorks with
    claimUtxo := ⟨.error "Failed to list UTXOs: timeout", .ok (), .ok []⟩ }

theorem opener_reads (dir : LdkDataDir ℕ) (h : dir.channelInfo.lookup closedChannel.hex = none)
    (_ : dir.channelInfoPending.lookup closedChannel.hex = none) :
    opener.readRgbChannelInfo closedChannel dir = none := h

/-- The rule at a channel of 600 tokens whose event comes twice. -/
theorem acksCompleted_of_two_deliveries :
    Mealy.Along (step opener closedChannel ⟨"f00d", 0⟩)
        (AcksCompleted opener closedChannel ⟨"f00d", 0⟩ 1) openerWith600
        [everyCloseStepWorks, everyCloseStepWorks] ↔
      ∀ io ∈ [everyCloseStepWorks, everyCloseStepWorks].head?,
        Succeeds opener closedChannel ⟨"f00d", 0⟩ 1 openerWith600 io :=
  acksCompleted_iff opener_reads
    (show opener.readRgbChannelInfo closedChannel openerWith600.node.ldkDataDir =
      some ⟨1, .nia, 600, 0⟩ by decide +kernel) (by decide) rfl

/-- No output to claim to is found; the event is acknowledged, and nothing is
claimed. -/
theorem acknowledged_without_claim :
    ¬∀ (env : ClosingNode ℕ) (channelId : ChannelId) (txo : OutPoint) (rgbInfo : RgbInfo ℕ)
      (w : CloseWorld ℕ (List PendingClaim)) (ios : List (CloseIo (List PendingClaim))),
      (∀ dir : LdkDataDir ℕ, dir.channelInfo.lookup channelId.hex = none →
        dir.channelInfoPending.lookup channelId.hex = none →
        env.readRgbChannelInfo channelId dir = none) →
      env.readRgbChannelInfo channelId w.node.ldkDataDir = some rgbInfo →
      rgbInfo.localRgbAmount ≠ 0 → claimCount env txo rgbInfo.contractId w = 0 →
      Mealy.Along (step env channelId txo)
        (AcksCompleted env channelId txo rgbInfo.contractId) w ios := by
  intro hall
  have hinfo : opener.readRgbChannelInfo closedChannel openerWith600.node.ldkDataDir =
      some ⟨1, .nia, 600, 0⟩ := by decide +kernel
  have h := hall opener closedChannel ⟨"f00d", 0⟩ ⟨1, .nia, 600, 0⟩ openerWith600 [noClaimUtxo]
    opener_reads hinfo (by decide) rfl
  by_cases hok : (step opener closedChannel ⟨"f00d", 0⟩ openerWith600 noClaimUtxo).1 = .ok ()
  · have hcompleted := completed_step_iff.mp (h.1.acknowledged hok)
    rw [handle_of_no_utxo hinfo (by decide) rfl] at hcompleted
    exact absurd hcompleted.claimed (by decide)
  · exact step_ne_replay _ (h.1.otherwise hok).1

end ChannelClosed

end RgbLightningNode
