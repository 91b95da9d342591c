import RgbLightningNode.Adapter.FundingReplay
import RgbLightningNode.Adapter.LockedUtxos
import RgbLightningNode.Events.CloseAcknowledged

/-!
# Locked outputs and open channels

An entry is written when the funding of a channel is completed, and taken out at
the end of what a closed channel makes the node do. Everything that leaves one of
the two handlers early leaves the file and the open channels apart.
-/

namespace RgbLightningNode

open Fallible SerdeJson

/-- What the two handlers work on, with the outpoints of the channels this node
has funded whose ChannelClosed has not been handled, and those for which it
has. -/
structure LockedChannels (ContractId S : Type) where
  funding : FundingWorld
  node : Node ContractId
  claiming : ClaimWorld S
  live : List String
  closed : List String

inductive LockStep (ContractId S : Type) where
  /-- Some funding is begun, or tried. -/
  | sendBegin (io : SendBeginIo String) (recipientMap : List (String × List Recipient))
  /-- ChannelPending of a coloured channel this node has opened, first or again. -/
  | channelPending (fundingTxo : OutPoint) (io : SendEndIo) (psbt : SignedPsbt)
  /-- ChannelClosed of any channel, closed in any way. -/
  | channelClosed (io : CloseIo S) (channelId : ChannelId) (fundingTxo : Option OutPoint)
  /-- Payments, and all else the node does, change its files and stores at will. -/
  | setNode (node : Node ContractId)

namespace LockedChannels

variable {ContractId S : Type}

/-- A node without channels, that may have begun a funding. -/
def new (pending : File) (node : Node ContractId) (claiming : ClaimWorld S) :
    LockedChannels ContractId S :=
  ⟨⟨pending, .missing, false, []⟩, node, claiming, [], []⟩

/-- The file of locked outputs. -/
abbrev file (s : LockedChannels ContractId S) : File := s.funding.lockedChannelUtxos

/-- The channel of a completion that returns Ok is funded, if it was not before. -/
def runPending (fundingTxo : OutPoint) (io : SendEndIo) (psbt : SignedPsbt)
    (s : LockedChannels ContractId S) : LockedChannels ContractId S :=
  match sendEnd io psbt s.funding with
  | .ok _ funding => { s with
      funding := funding
      live :=
        if fundingTxo.utxo ∈ s.live ∨ fundingTxo.utxo ∈ s.closed then s.live
        else fundingTxo.utxo :: s.live }
  | .error _ funding => { s with funding := funding }

variable [ContractIdText ContractId]

/-- What ChannelClosed leaves of the node, its claims and the locked outputs. -/
def closing (env : ClosingNode ContractId) (io : CloseIo S) (channelId : ChannelId)
    (fundingTxo : Option OutPoint) (s : LockedChannels ContractId S) : CloseWorld ContractId S :=
  after (channelClosed env io channelId fundingTxo) ⟨s.node, s.claiming, s.file⟩

def runClosed (env : ClosingNode ContractId) (io : CloseIo S) (channelId : ChannelId)
    (fundingTxo : Option OutPoint) (s : LockedChannels ContractId S) :
    LockedChannels ContractId S where
  funding := { s.funding with
    lockedChannelUtxos := (s.closing env io channelId fundingTxo).lockedChannelUtxos }
  node := (s.closing env io channelId fundingTxo).node
  claiming := (s.closing env io channelId fundingTxo).claiming
  live := match fundingTxo with
    | some txo => s.live.filter fun utxo => !(utxo == txo.utxo)
    | none => s.live
  closed := fundingTxo.toList.map OutPoint.utxo ++ s.closed

def step (env : ClosingNode ContractId) (s : LockedChannels ContractId S) :
    LockStep ContractId S → Unit × LockedChannels ContractId S
  | .sendBegin io recipientMap =>
    ((), { s with funding := after (sendBegin io recipientMap feeRate) s.funding })
  | .channelPending fundingTxo io psbt => ((), s.runPending fundingTxo io psbt)
  | .channelClosed io channelId fundingTxo => ((), s.runClosed env io channelId fundingTxo)
  | .setNode node => ((), { s with node := node })

omit [ContractIdText ContractId] in
/-- The network accepts a transaction once: not when the channel it funds is
open. -/
def Lawful (s : LockedChannels ContractId S) : LockStep ContractId S → Prop
  | .channelPending _ io psbt => io.broadcast = .ok () → ∀ out, fundingOutput psbt = .ok out →
      out.utxo ∉ s.live
  | _ => True

/-- The steps from the broadcast to the entry all work. -/
structure Records (io : SendEndIo) (details : TransferDetails) (out : FundingOutput) (f : File) :
    Prop where
  broadcasts : io.broadcast = .ok ()
  transfers : ∃ transfer, transferTokens io details out = .ok transfer
  saves : io.saveState = .ok ()
  fits : out.vout < 2 ^ 32
  tracks : ∃ f', trackLockedUtxo io.locked details.contractId out.txid out.vout details.rgbAmount
    io.now f = .ok () f'

/-- The network says that it knows the transaction. -/
def ToldKnown (io : SendEndIo) : Prop := ∃ e, io.broadcast = .error e ∧ alreadyKnown e = true

/-- There are tokens of this node in the channel, and they are claimed. -/
def Claims (env : ClosingNode ContractId) (io : CloseIo S) (channelId : ChannelId)
    (fundingTxo : OutPoint) (s : LockedChannels ContractId S) : Prop :=
  ∃ rgbInfo claimUtxo call storage,
    env.readRgbChannelInfo channelId s.node.ldkDataDir = some rgbInfo ∧
    rgbInfo.localRgbAmount ≠ 0 ∧ getClaimUtxo io.claimUtxo = .ok claimUtxo ∧
    callClaim io.claim (env.ourWitnessId fundingTxo) claimUtxo
      (ContractIdText.toText rgbInfo.contractId) = .ok call ∧
    recordClaim io.claim (env.ourWitnessId fundingTxo) claimUtxo
      (ContractIdText.toText rgbInfo.contractId) s.claiming.storage = .ok () storage

/-- A completion that records tokens reads its own channel's details, picks the
output the library has for the channel, and is not late; one that is told that the
transaction is known has been through before. A funded channel that is closed has
tokens of this node, they are claimed, and the output can be released. -/
def KeepsExact (own : String → TransferDetails) (env : ClosingNode ContractId)
    (s : LockedChannels ContractId S) : LockStep ContractId S → Prop
  | .channelPending fundingTxo io psbt => ∀ details out,
      FundingReplay.Prepared psbt s.funding io details out →
        (Records io details out s.file → details = own fundingTxo.utxo ∧
          out.utxo = fundingTxo.utxo ∧ fundingTxo.utxo ∉ s.closed) ∧
        (ToldKnown io → fundingTxo.utxo ∈ s.live ∨ fundingTxo.utxo ∈ s.closed)
  | .channelClosed io channelId (some fundingTxo) => fundingTxo.utxo ∈ s.live →
      s.Claims env io channelId fundingTxo ∧
        ∃ f, releaseLockedUtxo io.locked fundingTxo.txid fundingTxo.index s.file = .ok () f
  | _ => True

variable {own : String → TransferDetails} {env : ClosingNode ContractId}
  {s : LockedChannels ContractId S}

/-! ### The invariant -/

omit [ContractIdText ContractId] in
/-- The entries of the file are those of the open channels, in any order. -/
structure Inv (own : String → TransferDetails) (s : LockedChannels ContractId S) : Prop where
  entries : ∃ fields, LockedFields s.file fields ∧
    (fields.map fun f => (f.1, lockedDetails f.2)).Perm
      (s.live.map fun utxo => (utxo, some (own utxo)))
  nodup : s.live.Nodup

omit [ContractIdText ContractId] in
/-- Taking out the entry of a channel leaves those of the others. -/
theorem perm_filter {fields : List (String × Value)} {live : List String}
    (h : (fields.map fun f => (f.1, lockedDetails f.2)).Perm
      (live.map fun utxo => (utxo, some (own utxo)))) (utxo : String) :
    ((fields.filter fun f => !(f.1 == utxo)).map fun f => (f.1, lockedDetails f.2)).Perm
      ((live.filter fun other => !(other == utxo)).map fun utxo => (utxo, some (own utxo))) := by
  have hfilter := h.filter fun entry => !(entry.1 == utxo)
  rw [List.filter_map, List.filter_map] at hfilter
  exact hfilter

omit [ContractIdText ContractId] in
theorem inv_new (pending : File) (node : Node ContractId) (claiming : ClaimWorld S) :
    (new pending node claiming).Inv own :=
  ⟨⟨[], .inl ⟨rfl, rfl⟩, .nil⟩, .nil⟩

/-! ### A completion -/

variable {io : SendEndIo} {psbt : SignedPsbt} {details : TransferDetails} {out : FundingOutput}

theorem locked_removeDetails (io : SendEndIo) (w : FundingWorld) :
    (removeDetails io w).lockedChannelUtxos = w.lockedChannelUtxos := by
  unfold removeDetails
  split <;> rfl

/-- What is behind the broadcast of a completion decides what it returns. -/
theorem sendEnd_of_moved {w w' : FundingWorld}
    (hp : FundingReplay.Prepared psbt w io details out)
    (h : broadcastAndMove io details out w = .ok () w') :
    sendEnd io psbt w = .ok out.txid (removeDetails io w') := by
  rw [FundingReplay.sendEnd_of_prepared hp, bind_of_ok h, bind_of_ok (modify_apply _ w')]
  rfl

/-- A completion that is told that the transaction is known is Ok, and locks nothing. -/
theorem sendEnd_of_known {w : FundingWorld} (hp : FundingReplay.Prepared psbt w io details out)
    (hknown : ToldKnown io) : ∃ txid w', sendEnd io psbt w = .ok txid w' ∧
      w'.lockedChannelUtxos = w.lockedChannelUtxos := by
  obtain ⟨e, hb, hk⟩ := hknown
  have hmove : broadcastAndMove io details out w = .ok () w := by
    simp only [broadcastAndMove, hb, hk, if_true]
    rfl
  exact ⟨_, _, sendEnd_of_moved hp hmove, locked_removeDetails io w⟩

theorem recordTransfer_of_ok {w w' : FundingWorld}
    (h : recordTransfer io details out w = .ok () w') :
    io.saveState = .ok () ∧ out.vout < 2 ^ 32 ∧
      trackLockedUtxo io.locked details.contractId out.txid out.vout details.rgbAmount io.now
        w.lockedChannelUtxos = .ok () w'.lockedChannelUtxos := by
  obtain ⟨_, _, h₁, h⟩ := bind_eq_ok_iff.mp h
  obtain ⟨hsave, rfl⟩ := attempt_eq_ok_iff.mp h₁
  obtain ⟨_, _, h₁, h⟩ := bind_eq_ok_iff.mp h
  obtain ⟨hfits, rfl⟩ := attempt_eq_ok_iff.mp h₁
  refine ⟨withContext_eq_ok_iff.mp hsave, ?_, ?_⟩
  · have hfits := orErr_eq_ok_iff.mp hfits
    by_contra hvout
    rw [if_neg hvout] at hfits
    cases hfits
  · simp only [onLocked] at h
    split at h
    · rename_i htrack
      obtain ⟨-, rfl⟩ := EStateM.Result.ok.inj h
      exact htrack
    · cases h
    · cases h

theorem recordTransfer_of_error {w w' : FundingWorld} {exit : Exit String}
    (h : recordTransfer io details out w = .error exit w') :
    w'.lockedChannelUtxos = w.lockedChannelUtxos := by
  obtain rfl | ⟨_, _, h⟩ := attempt_bind_eq_error h
  · rfl
  obtain rfl | ⟨_, _, h⟩ := attempt_bind_eq_error h
  · rfl
  simp only [onLocked] at h
  split at h
  · cases h
  all_goals
    rename_i htrack
    obtain ⟨-, rfl⟩ := EStateM.Result.error.inj h
    exact trackLockedUtxo_of_error htrack

/-- A completion that records tokens locks the output it has picked. -/
theorem sendEnd_of_records {w : FundingWorld} (hp : FundingReplay.Prepared psbt w io details out)
    (h : Records io details out w.lockedChannelUtxos) : ∃ txid w', sendEnd io psbt w = .ok txid w' ∧
      trackLockedUtxo io.locked details.contractId out.txid out.vout details.rgbAmount io.now
        w.lockedChannelUtxos = .ok () w'.lockedChannelUtxos := by
  obtain ⟨transfer, htransfer⟩ := h.transfers
  obtain ⟨f, htrack⟩ := h.tracks
  have hfits : orErr (if out.vout < 2 ^ 32 then some () else none) "Funding vout overflow" =
      .ok () := orErr_eq_ok_iff.mpr (if_pos h.fits)
  have hmove : broadcastAndMove io details out w = .ok () { w with
      accepted := true
      transfers := w.transfers ++ [transfer]
      lockedChannelUtxos := f } := by
    simp only [broadcastAndMove, h.broadcasts]
    rw [bind_of_ok (modify_apply _ w), moveTokens, htransfer, bind_of_ok (attempt_ok transfer _),
      bind_of_ok (modify_apply _ _), recordTransfer, withContext_eq_ok_iff.mpr h.saves,
      bind_of_ok (attempt_ok () _), hfits, bind_of_ok (attempt_ok () _)]
    simp only [onLocked, htrack]
  exact ⟨_, _, sendEnd_of_moved hp hmove, by rw [locked_removeDetails, htrack]⟩

/-- Any other completion fails, and locks nothing. -/
theorem sendEnd_of_neither {w : FundingWorld}
    (h : ∀ details out, FundingReplay.Prepared psbt w io details out →
      ¬Records io details out w.lockedChannelUtxos ∧ ¬ToldKnown io) :
    ∃ exit w', sendEnd io psbt w = .error exit w' ∧
      w'.lockedChannelUtxos = w.lockedChannelUtxos := by
  by_cases hp : ∃ details out, FundingReplay.Prepared psbt w io details out
  swap
  · have hstep := FundingReplay.step_of_not_prepared hp
    rw [FundingReplay.step] at hstep
    split at hstep
    · cases hstep
    · rename_i exit w' hend
      obtain ⟨-, rfl⟩ := Prod.mk.inj hstep
      exact ⟨exit, w', hend, rfl⟩
  obtain ⟨details, out, hp⟩ := hp
  obtain ⟨hrecords, hknown⟩ := h details out hp
  -- the exit of what is behind the broadcast is that of the completion
  suffices hmove : ∃ exit w', broadcastAndMove io details out w = .error exit w' ∧
      w'.lockedChannelUtxos = w.lockedChannelUtxos by
    obtain ⟨exit, w', hmove, hlocked⟩ := hmove
    exact ⟨exit, w', by rw [FundingReplay.sendEnd_of_prepared hp, bind_of_error hmove], hlocked⟩
  cases hb : io.broadcast with
  | error e =>
    have hk : alreadyKnown e ≠ true := fun hk => hknown ⟨e, hb, hk⟩
    refine ⟨.err s!"Failed to broadcast TX: {e}", w, ?_, rfl⟩
    simp only [broadcastAndMove, hb, if_neg hk]
    rfl
  | ok _ =>
    simp only [broadcastAndMove, hb]
    rw [bind_of_ok (modify_apply _ w), moveTokens]
    cases ht : transferTokens io details out with
    | error exit =>
      exact ⟨exit, { w with accepted := true }, by rw [bind_of_error (attempt_error exit _)], rfl⟩
    | ok transfer =>
      rw [bind_of_ok (attempt_ok transfer _), bind_of_ok (modify_apply _ _)]
      cases hr : recordTransfer io details out
          { w with accepted := true, transfers := w.transfers ++ [transfer] } with
      | error exit w' =>
        have hlocked := recordTransfer_of_error hr
        exact ⟨exit, w', rfl, hlocked⟩
      | ok _ w' =>
        obtain ⟨hsave, hfits, htrack⟩ := recordTransfer_of_ok hr
        exact absurd ⟨hb, ⟨transfer, ht⟩, hsave, hfits, _, htrack⟩ hrecords

/-- Details that are read have an amount of 64 bits. -/
theorem rgbAmount_lt_of_prepared {w : FundingWorld}
    (hp : FundingReplay.Prepared psbt w io details out) : details.rgbAmount < 2 ^ 64 := by
  obtain ⟨v, _, h⟩ := except_bind_eq_ok_iff.mp hp.1
  obtain ⟨_, _, h⟩ := except_bind_eq_ok_iff.mp h
  obtain ⟨amount, hamount, h⟩ := except_bind_eq_ok_iff.mp h
  obtain rfl := Except.ok.inj h
  have hamount := orErr_eq_ok_iff.mp hamount
  cases hv : v.index "rgb_amount" with
  | num n =>
    rw [hv] at hamount
    simp only [Value.asU64] at hamount
    split at hamount
    · obtain rfl := Option.some.inj hamount
      assumption
    · cases hamount
  | _ =>
    rw [hv] at hamount
    cases hamount

omit [ContractIdText ContractId] in
theorem filter_of_not_live {live : List String} {utxo : String} (h : utxo ∉ live) :
    (live.filter fun other => !(other == utxo)) = live := by
  refine List.filter_eq_self.mpr fun other hother => ?_
  have hne : other ≠ utxo := fun heq => h (heq ▸ hother)
  simpa using hne

variable {txo : OutPoint}

theorem inv_runPending (h : s.Inv own) (hlaw : s.Lawful (.channelPending txo io psbt))
    (hkeeps : s.KeepsExact own env (.channelPending txo io psbt)) :
    (s.runPending txo io psbt).Inv own := by
  by_cases hcase : ∃ details out, FundingReplay.Prepared psbt s.funding io details out ∧
      (Records io details out s.file ∨ ToldKnown io)
  swap
  · obtain ⟨exit, w', hend, hlocked⟩ := sendEnd_of_neither fun details out hp =>
      ⟨fun hr => hcase ⟨details, out, hp, .inl hr⟩, fun hk => hcase ⟨details, out, hp, .inr hk⟩⟩
    rw [runPending, hend]
    exact ⟨by rw [file, hlocked]; exact h.entries, h.nodup⟩
  obtain ⟨details, out, hp, hrecords | hknown⟩ := hcase
  · obtain ⟨txid, w', hend, htrack⟩ := sendEnd_of_records hp hrecords
    obtain ⟨rfl, hout, hopen⟩ := (hkeeps details out hp).1 hrecords
    have hfresh : txo.utxo ∉ s.live := hout ▸ hlaw hrecords.broadcasts out hp.2
    rw [runPending, hend]
    simp only [if_neg (not_or.mpr ⟨hfresh, hopen⟩)]
    obtain ⟨fields, hfields, hperm⟩ := h.entries
    refine ⟨⟨_, hfields.trackLockedUtxo htrack, ?_⟩, List.nodup_cons.mpr ⟨hfresh, h.nodup⟩⟩
    -- the entry is that of the channel, and the others are as they were
    have hperm := perm_filter hperm txo.utxo
    rw [filter_of_not_live hfresh] at hperm
    change s!"{out.txid}:{out.vout}" = _ at hout
    rw [hout, List.map_cons, List.map_cons, lockedDetails_lockedEntry (rgbAmount_lt_of_prepared hp)]
    exact hperm.cons _
  · obtain ⟨txid, w', hend, hlocked⟩ := sendEnd_of_known hp hknown
    rw [runPending, hend]
    simp only [if_pos ((hkeeps details out hp).2 hknown)]
    exact ⟨by rw [file, hlocked]; exact h.entries, h.nodup⟩

variable {closeIo : CloseIo S} {channelId : ChannelId}

theorem locked_channelClosed (w : CloseWorld ContractId S) :
    (after (channelClosed env closeIo channelId (some txo)) w).lockedChannelUtxos =
      (after (handleRgbChannelClose env closeIo channelId txo) w).lockedChannelUtxos := by
  rw [channelClosed]
  cases h : logError (handleRgbChannelClose env closeIo channelId txo) w with
  | ok _ w' =>
    rw [after_bind_of_ok h, ← after_logError, after_of_ok h, after_of_ok (modify_apply _ _)]
  | error exit w' => rw [after_bind_of_error h, ← after_logError, after_of_error h]

/-- A close that claims tokens gets to the release. -/
theorem locked_of_claims (h : s.Claims env closeIo channelId txo) :
    (s.closing env closeIo channelId (some txo)).lockedChannelUtxos =
      after (releaseLockedUtxo closeIo.locked txo.txid txo.index) s.file := by
  obtain ⟨rgbInfo, claimUtxo, call, storage, hinfo, hamount, hutxo, hcall, hrecord⟩ := h
  have hclaim : claim closeIo.claim (env.ourWitnessId txo) claimUtxo
      (ContractIdText.toText rgbInfo.contractId) s.claiming =
        .ok () ⟨s.claiming.claims ++ [call], storage⟩ :=
    (claim_of_ok hcall).trans (zoom_of_ok hrecord)
  have hzoom : zoom CloseWorld.claiming (fun c w => { w with claiming := c })
      (EStateM.adaptExcept (Exit.inContext "Claim failed")
        (claim closeIo.claim (env.ourWitnessId txo) claimUtxo
          (ContractIdText.toText rgbInfo.contractId))) ⟨s.node, s.claiming, s.file⟩ =
      .ok () ⟨s.node, ⟨s.claiming.claims ++ [call], storage⟩, s.file⟩ :=
    zoom_of_ok (adaptExcept_eq_ok_iff.mpr hclaim)
  rw [closing, locked_channelClosed, after,
    ChannelClosed.handle_of_utxo (w := ⟨s.node, s.claiming, s.file⟩) hinfo hamount hutxo, ← after,
    after_bind_of_ok hzoom, after_of_ok (modify_apply _ _)]
  rfl

/-- Every other way through the handler leaves the file unchanged. -/
theorem locked_of_not_claims (h : ¬s.Claims env closeIo channelId txo) :
    (s.closing env closeIo channelId (some txo)).lockedChannelUtxos = s.file := by
  rw [closing, locked_channelClosed]
  cases hinfo : env.readRgbChannelInfo channelId s.node.ldkDataDir with
  | none =>
    rw [after_of_ok (ChannelClosed.handle_of_no_info (w := ⟨s.node, s.claiming, s.file⟩) hinfo)]
  | some rgbInfo =>
    by_cases hamount : rgbInfo.localRgbAmount = 0
    · rw [after, handleRgbChannelClose, bind_of_ok (get_apply _)]
      simp only [hinfo, if_pos hamount]
      rfl
    cases hutxo : getClaimUtxo closeIo.claimUtxo with
    | error e =>
      rw [ChannelClosed.handle_of_no_utxo (w := ⟨s.node, s.claiming, s.file⟩) hinfo hamount hutxo]
    | ok claimUtxo =>
      -- a claim that fails, before or after the contract has moved the tokens
      obtain ⟨exit, claiming, hfailed⟩ : ∃ exit claiming, claim closeIo.claim
          (env.ourWitnessId txo) claimUtxo (ContractIdText.toText rgbInfo.contractId) s.claiming =
            .error exit claiming := by
        cases hcall : callClaim closeIo.claim (env.ourWitnessId txo) claimUtxo
            (ContractIdText.toText rgbInfo.contractId) with
        | error exit => exact ⟨exit, _, claim_of_error hcall⟩
        | ok call =>
          cases hrecord : recordClaim closeIo.claim (env.ourWitnessId txo) claimUtxo
              (ContractIdText.toText rgbInfo.contractId) s.claiming.storage with
          | ok _ storage =>
            exact absurd
              ⟨rgbInfo, claimUtxo, call, storage, hinfo, hamount, hutxo, hcall, hrecord⟩ h
          | error exit storage =>
            exact ⟨exit, _, (claim_of_ok hcall).trans (zoom_of_error hrecord)⟩
      have hzoom : zoom CloseWorld.claiming (fun c w => { w with claiming := c })
          (EStateM.adaptExcept (Exit.inContext "Claim failed")
            (claim closeIo.claim (env.ourWitnessId txo) claimUtxo
              (ContractIdText.toText rgbInfo.contractId))) ⟨s.node, s.claiming, s.file⟩ =
          .error (exit.inContext "Claim failed") ⟨s.node, claiming, s.file⟩ :=
        zoom_of_error (adaptExcept_of_error hfailed)
      rw [after, ChannelClosed.handle_of_utxo (w := ⟨s.node, s.claiming, s.file⟩) hinfo hamount
        hutxo, bind_of_error hzoom]

theorem inv_runClosed (h : s.Inv own)
    (hkeeps : s.KeepsExact own env (.channelClosed closeIo channelId (some txo))) :
    (s.runClosed env closeIo channelId (some txo)).Inv own := by
  obtain ⟨fields, hfields, hperm⟩ := h.entries
  refine ⟨?_, h.nodup.filter _⟩
  -- a channel that is not funded by this node has no entry to take out
  have hsame : txo.utxo ∉ s.live →
      (s.closing env closeIo channelId (some txo)).lockedChannelUtxos = s.file →
        ∃ fields, LockedFields (s.runClosed env closeIo channelId (some txo)).file fields ∧
          (fields.map fun f => (f.1, lockedDetails f.2)).Perm
            ((s.runClosed env closeIo channelId (some txo)).live.map
              fun utxo => (utxo, some (own utxo))) := by
    intro hnot hfile
    refine ⟨fields, ?_, ?_⟩
    · rw [file, runClosed, hfile]
      exact hfields
    · rw [runClosed]
      simp only [filter_of_not_live hnot]
      exact hperm
  by_cases hclaims : s.Claims env closeIo channelId txo
  · have hfile := locked_of_claims hclaims
    cases hrelease : releaseLockedUtxo closeIo.locked txo.txid txo.index s.file with
    | ok _ f =>
      rw [after_of_ok hrelease] at hfile
      refine ⟨_, ?_, perm_filter hperm txo.utxo⟩
      rw [file, runClosed, hfile]
      exact hfields.releaseLockedUtxo hrelease
    | error exit f =>
      rw [after_of_error hrelease, releaseLockedUtxo_of_error hrelease] at hfile
      refine hsame (fun hlive => ?_) hfile
      obtain ⟨-, f', hok⟩ := hkeeps hlive
      cases hok.symm.trans hrelease
  · exact hsame (fun hlive => hclaims (hkeeps hlive).1) (locked_of_not_claims hclaims)

omit [ContractIdText ContractId] in
theorem locked_sendBegin (io : SendBeginIo String)
    (recipientMap : List (String × List Recipient)) (w : FundingWorld) :
    (after (sendBegin io recipientMap feeRate) w).lockedChannelUtxos = w.lockedChannelUtxos := by
  refine after_of_unchanged (P := fun w' => w'.lockedChannelUtxos = w.lockedChannelUtxos) rfl
    (fun psbt w' h => ?_) fun exit w' h => (sendBegin_of_error h).symm
  obtain ⟨_, _, h⟩ := attempt_bind_eq_ok_iff.mp h
  obtain ⟨_, _, h⟩ := attempt_bind_eq_ok_iff.mp h
  obtain ⟨_, _, h⟩ := attempt_bind_eq_ok_iff.mp h
  obtain ⟨_, _, h⟩ := attempt_bind_eq_ok_iff.mp h
  obtain ⟨_, _, h⟩ := attempt_bind_eq_ok_iff.mp h
  obtain ⟨-, rfl⟩ := EStateM.Result.ok.inj h
  rfl

theorem inv_step (h : s.Inv own) {x : LockStep ContractId S} (hlaw : s.Lawful x)
    (hkeeps : s.KeepsExact own env x) : (step env s x).2.Inv own := by
  cases x with
  | sendBegin io recipientMap =>
    refine ⟨?_, h.nodup⟩
    rw [step, file, locked_sendBegin]
    exact h.entries
  | channelPending fundingTxo io psbt => exact inv_runPending h hlaw hkeeps
  | channelClosed io channelId fundingTxo =>
    cases fundingTxo with
    | none => exact ⟨h.entries, h.nodup⟩
    | some fundingTxo => exact inv_runClosed h hkeeps
  | setNode node => exact ⟨h.entries, h.nodup⟩

section Runs

open FundingReplay ChannelClosed

end Runs

end LockedChannels

end RgbLightningNode
