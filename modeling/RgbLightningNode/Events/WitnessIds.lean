import RgbLightningNode.Events.CloseAcknowledged
import RgbLightningNode.Runs.ChannelSettlement

/-!
# The witness ids of a closed channel

A settlement registers two witness ids for a funding outpoint, and each side
claims one of them. Both are hashes of a text with the outpoint and a role, and
no two outpoints or roles have the same text.
-/

namespace RgbLightningNode

open Fallible SerdeJson

inductive ChannelRole where
  | holder | counterparty
  deriving DecidableEq

def ChannelRole.toText : ChannelRole → String
  | .holder => "holder"
  | .counterparty => "counterparty"

/-- The witness id a settlement registers for a role. -/
def SettleCall.witness (call : SettleCall) : ChannelRole → String
  | .holder => call.holderWitness
  | .counterparty => call.counterpartyWitness

/-- The funding outpoint with this transaction id, as its text shows it. -/
def fundingOutPoint (txid : Bytes32) (index : Nat) : OutPoint := ⟨hexStr txid.toList, index⟩

/-- The text that is hashed for a witness id. -/
def witnessPreimage (fundingUtxo role : String) : String := s!"witness:{fundingUtxo}{role}"

/-- The part of the hash that goes into a witness id. -/
def truncatedHash (sha256 : String → String) (text : String) : List Char :=
  (sha256 text).toList.take 32

theorem channelWitness_inj {sha256 : String → String} {utxo role utxo' role' : String}
    (h : channelWitness sha256 utxo role = channelWitness sha256 utxo' role') :
    truncatedHash sha256 (witnessPreimage utxo role) =
      truncatedHash sha256 (witnessPreimage utxo' role') := by
  have h := congrArg String.toList h
  simp only [channelWitness, String.toList_append, toString] at h
  have h := List.append_cancel_left (List.append_cancel_right h)
  rw [String.toList_ofList, String.toList_ofList] at h
  exact h

/-! ### The texts -/

theorem witnessPreimage_toList (txid : Bytes32) (index : Nat) (role : ChannelRole) :
    (witnessPreimage (fundingOutPoint txid index).utxo role.toText).toList =
      "witness:".toList ++
        ((hexStr txid.toList).toList ++ ':' :: (Nat.toDigits 10 index ++ role.toText.toList)) := by
  simp [witnessPreimage, OutPoint.utxo, fundingOutPoint, toString]

/-- The index ends where the role begins. -/
theorem takeWhile_index (index : Nat) (role : ChannelRole) :
    (Nat.toDigits 10 index ++ role.toText.toList).takeWhile Char.isDigit =
      Nat.toDigits 10 index := by
  have hdigits : ∀ c ∈ Nat.toDigits 10 index, c.isDigit = true := fun c hc =>
    Nat.isDigit_of_mem_toDigits (by decide) (by decide) hc
  have hrole : role.toText.toList.takeWhile Char.isDigit = [] := by
    cases role <;> decide
  rw [List.takeWhile_append_of_pos hdigits, hrole, List.append_nil]

theorem ChannelRole.toText_injective : Function.Injective ChannelRole.toText := by
  intro a b h
  cases a <;> cases b <;> first | rfl | (revert h; decide)

/-- The text says which outpoint and which role it is for. -/
theorem witnessPreimage_inj {txid txid' : Bytes32} {index index' : Nat} {role role' : ChannelRole}
    (h : witnessPreimage (fundingOutPoint txid index).utxo role.toText =
      witnessPreimage (fundingOutPoint txid' index').utxo role'.toText) :
    txid = txid' ∧ index = index' ∧ role = role' := by
  have hcolon : ∀ txid : Bytes32, ':' ∉ (hexStr txid.toList).toList := by
    intro txid hmem
    rw [hexStr, String.toList_ofList] at hmem
    exact forall_mem_flatMap_hexByte (p := (· ≠ ':')) (by decide) hmem rfl
  have h := congrArg String.toList h
  rw [witnessPreimage_toList, witnessPreimage_toList] at h
  have h := List.append_cancel_left h
  -- the transaction id ends at the first colon
  have hsplit := congrArg (Text.splitOn ':') h
  rw [Text.splitOn_append_cons (hcolon txid), Text.splitOn_append_cons (hcolon txid')] at hsplit
  have htxid : (hexStr txid.toList).toList = (hexStr txid'.toList).toList :=
    (List.cons.inj hsplit).1
  rw [htxid] at h
  have h := (List.cons.inj (List.append_cancel_left h)).2
  have hdigits : Nat.toDigits 10 index = Nat.toDigits 10 index' := by
    rw [← takeWhile_index index role, h, takeWhile_index]
  rw [hdigits] at h
  refine ⟨?_, ?_, ?_⟩
  · exact Vector.toList_inj.mp (hexStr_injective (String.toList_inj.mp htxid))
  · have := congrArg (fun digits => Nat.ofDigitChars 10 digits 0) hdigits
    simpa only [Nat.ofDigitChars_ten_toDigits] using this
  · exact ChannelRole.toText_injective (String.toList_inj.mp (List.append_cancel_left h))

/-! ### Settlement and claim -/

section Sides

variable {ContractId : Type} [ContractIdText ContractId]

/-- A node claims the tokens of a channel under this witness id: with tokens of its own
in a coloured channel, an output to claim to and a contract that carries the claim out,
the claim of the witness id is made; and no delivery of the event makes any other. -/
structure ClaimsUnder (env : ClosingNode ContractId) (txo : OutPoint) (witness : String) :
    Prop where
  ours : env.ourWitnessId txo = witness
  claims : ∀ {S : Type} (io : CloseIo S) (channelId : ChannelId) (w : CloseWorld ContractId S)
    (rgbInfo : RgbInfo ContractId) (claimUtxo : String) (call : ClaimCall),
    env.readRgbChannelInfo channelId w.node.ldkDataDir = some rgbInfo →
    rgbInfo.localRgbAmount ≠ 0 →
    getClaimUtxo io.claimUtxo = .ok claimUtxo →
    callClaim io.claim witness claimUtxo (ContractIdText.toText rgbInfo.contractId) = .ok call →
      call.witnessId = witness ∧
        call.contractId = ContractIdText.toText rgbInfo.contractId ∧ call.realUtxo = claimUtxo ∧
        (after (handleRgbChannelClose env io channelId txo) w).claiming.claims =
          w.claiming.claims ++ [call]
  noOther : ∀ {S : Type} (io : CloseIo S) (channelId : ChannelId) (w : CloseWorld ContractId S),
    (after (handleRgbChannelClose env io channelId txo) w).claiming.claims = w.claiming.claims ∨
      ∃ call, call.witnessId = witness ∧
        (after (handleRgbChannelClose env io channelId txo) w).claiming.claims =
          w.claiming.claims ++ [call]

section Claiming

variable {S : Type} {env : ClosingNode ContractId} {txo : OutPoint} {io : CloseIo S}
  {channelId : ChannelId} {w : CloseWorld ContractId S} {rgbInfo : RgbInfo ContractId}
  {claimUtxo : String}

/-- A claim that the contract carries out is made, whatever the bookkeeping does. -/
theorem claims_of_call (hinfo : env.readRgbChannelInfo channelId w.node.ldkDataDir = some rgbInfo)
    (hamount : rgbInfo.localRgbAmount ≠ 0) (hutxo : getClaimUtxo io.claimUtxo = .ok claimUtxo)
    {call : ClaimCall} (hcall : callClaim io.claim (env.ourWitnessId txo) claimUtxo
      (ContractIdText.toText rgbInfo.contractId) = .ok call) :
    (after (handleRgbChannelClose env io channelId txo) w).claiming.claims =
      w.claiming.claims ++ [call] := by
  rw [after, ChannelClosed.handle_of_utxo hinfo hamount hutxo, ← after]
  rcases hrecord : recordClaim io.claim (env.ourWitnessId txo) claimUtxo
      (ContractIdText.toText rgbInfo.contractId) w.claiming.storage with
    ⟨⟨⟩, storage⟩ | ⟨exit, storage⟩
  · have hclaim := (claim_of_ok hcall).trans (zoom_of_ok hrecord)
    rw [after_bind_of_ok (zoom_of_ok (adaptExcept_eq_ok_iff.mpr hclaim)),
      after_of_ok (modify_apply _ _)]
    rfl
  · have hclaim := (claim_of_ok hcall).trans (zoom_of_error hrecord)
    rw [after_bind_of_error (zoom_of_error (adaptExcept_of_error hclaim))]

theorem claims_of_no_call
    (hinfo : env.readRgbChannelInfo channelId w.node.ldkDataDir = some rgbInfo)
    (hamount : rgbInfo.localRgbAmount ≠ 0) (hutxo : getClaimUtxo io.claimUtxo = .ok claimUtxo)
    {exit : Exit String} (hcall : callClaim io.claim (env.ourWitnessId txo) claimUtxo
      (ContractIdText.toText rgbInfo.contractId) = .error exit) :
    (after (handleRgbChannelClose env io channelId txo) w).claiming.claims =
      w.claiming.claims := by
  rw [after, ChannelClosed.handle_of_utxo hinfo hamount hutxo, ← after,
    after_bind_of_error (zoom_of_error (adaptExcept_of_error (claim_of_error hcall)))]

theorem claims_of_no_amount
    (hinfo : env.readRgbChannelInfo channelId w.node.ldkDataDir = some rgbInfo)
    (hamount : rgbInfo.localRgbAmount = 0) :
    handleRgbChannelClose env io channelId txo w = .ok () w := by
  rw [handleRgbChannelClose, bind_of_ok (get_apply w)]
  simp only [hinfo, if_pos hamount]
  rfl

end Claiming

theorem claimsUnder_ourWitnessId (env : ClosingNode ContractId) (txo : OutPoint) :
    ClaimsUnder env txo (env.ourWitnessId txo) where
  ours := rfl
  claims := by
    intro S io channelId w rgbInfo claimUtxo call hinfo hamount hutxo hcall
    obtain ⟨hcontract, hwitness, hreal⟩ := callClaim_of_ok hcall
    exact ⟨hwitness, hcontract, hreal, claims_of_call hinfo hamount hutxo hcall⟩
  noOther := by
    intro S io channelId w
    cases hinfo : env.readRgbChannelInfo channelId w.node.ldkDataDir with
    | none =>
      rw [after_of_ok (ChannelClosed.handle_of_no_info hinfo)]
      exact .inl rfl
    | some rgbInfo =>
      by_cases hamount : rgbInfo.localRgbAmount = 0
      · rw [after_of_ok (claims_of_no_amount hinfo hamount)]
        exact .inl rfl
      cases hutxo : getClaimUtxo io.claimUtxo with
      | error e =>
        rw [ChannelClosed.handle_of_no_utxo hinfo hamount hutxo]
        exact .inl rfl
      | ok claimUtxo =>
        cases hcall : callClaim io.claim (env.ourWitnessId txo) claimUtxo
            (ContractIdText.toText rgbInfo.contractId) with
        | error exit => exact .inl (claims_of_no_call hinfo hamount hutxo hcall)
        | ok call =>
          exact .inr ⟨call, (callClaim_of_ok hcall).2.1, claims_of_call hinfo hamount hutxo hcall⟩

/-- The call with which the contract has settled the channel of an outpoint. -/
def Settled (sha256 : String → String) (txid : Bytes32) (index : Nat) (call : SettleCall) : Prop :=
  ∃ (io : SettleIo) (holderAmount counterpartyAmount : Nat) (contractId : String) (f f' : File),
    io.sha256 = sha256 ∧ settleChannelClose io (fundingOutPoint txid index).utxo holderAmount
      counterpartyAmount contractId f = .ok call f'

theorem Settled.witness_eq {sha256 : String → String} {txid : Bytes32} {index : Nat}
    {call : SettleCall} (h : Settled sha256 txid index call) (role : ChannelRole) :
    call.witness role = channelWitness sha256 (fundingOutPoint txid index).utxo role.toText := by
  obtain ⟨io, _, _, _, _, _, rfl, h⟩ := h
  obtain ⟨-, -, hholder, hcounterparty⟩ := settleChannelClose_of_ok h
  cases role with
  | holder => exact hholder
  | counterparty => exact hcounterparty

/-- A settlement registers for each role what the node in this role claims, and
no id that any settlement registers for another outpoint or another role. -/
theorem settlement_and_claims_agree {sha256 : String → String}
    {opener acceptor : ClosingNode ContractId} (hopener : opener.sha256 = sha256)
    (hacceptor : acceptor.sha256 = sha256) {txid : Bytes32} {index : Nat} {call : SettleCall}
    (hsettled : Settled sha256 txid index call)
    (hknown : opener.hasTransaction (fundingOutPoint txid index).txid = true)
    (hunknown : acceptor.hasTransaction (fundingOutPoint txid index).txid = false) :
    ClaimsUnder opener (fundingOutPoint txid index) (call.witness .holder) ∧
      ClaimsUnder acceptor (fundingOutPoint txid index) (call.witness .counterparty) ∧
      ∀ (txid' : Bytes32) (index' : Nat) (role role' : ChannelRole),
        (txid', index', role') ≠ (txid, index, role) →
          witnessPreimage (fundingOutPoint txid' index').utxo role'.toText ≠
              witnessPreimage (fundingOutPoint txid index).utxo role.toText ∧
            ∀ call', Settled sha256 txid' index' call' →
              Set.InjOn (truncatedHash sha256)
                {witnessPreimage (fundingOutPoint txid' index').utxo role'.toText,
                  witnessPreimage (fundingOutPoint txid index).utxo role.toText} →
              call'.witness role' ≠ call.witness role := by
  refine ⟨?_, ?_, ?_⟩
  · have hours : opener.ourWitnessId (fundingOutPoint txid index) = call.witness .holder := by
      rw [hsettled.witness_eq, ClosingNode.ourWitnessId, hopener, hknown]
      rfl
    exact hours ▸ claimsUnder_ourWitnessId opener _
  · have hours : acceptor.ourWitnessId (fundingOutPoint txid index) =
        call.witness .counterparty := by
      rw [hsettled.witness_eq, ClosingNode.ourWitnessId, hacceptor, hunknown]
      rfl
    exact hours ▸ claimsUnder_ourWitnessId acceptor _
  · intro txid' index' role role' hne
    have hpreimage : witnessPreimage (fundingOutPoint txid' index').utxo role'.toText ≠
        witnessPreimage (fundingOutPoint txid index).utxo role.toText := by
      intro h
      obtain ⟨rfl, rfl, rfl⟩ := witnessPreimage_inj h
      exact hne rfl
    refine ⟨hpreimage, fun call' hsettled' hcollision h => hpreimage ?_⟩
    rw [hsettled'.witness_eq, hsettled.witness_eq] at h
    exact hcollision (Set.mem_insert _ _) (Set.mem_insert_of_mem _ rfl) (channelWitness_inj h)

end Sides

/-! ### A channel that is settled and claimed -/

def zeroOutPoint : OutPoint := fundingOutPoint ⟨⟨List.replicate 32 0⟩, rfl⟩ 0

/-- SHA-256 at the two texts of this outpoint. -/
def zeroSha256 (text : String) : String :=
  if text = witnessPreimage zeroOutPoint.utxo "holder" then
    "fad70857fa88b1558841ccb480569a855f66d01988d2d39b455e34616a86de29"
  else "8bb9e5731469289a0c3d65577cf138e49e25b6e90a95c2bcd0414132f8c8acc7"

/-- A node whose wallet has these transactions. -/
def closingNode (hasTransaction : String → Bool) : ClosingNode ℕ where
  hasTransaction := hasTransaction
  sha256 := zeroSha256
  readRgbChannelInfo := fun channelId dir => dir.channelInfo.lookup channelId.hex

/-- What the settlement of 600 and 90 tokens registers there. -/
def zeroSettlement : SettleCall where
  contractId := "rgb:asset"
  fundingUtxo := s!"witness:{zeroOutPoint.utxo}"
  holderWitness := channelWitness zeroSha256 zeroOutPoint.utxo "holder"
  holderAmount := 600
  counterpartyWitness := channelWitness zeroSha256 zeroOutPoint.utxo "counterparty"
  counterpartyAmount := 90
  holderPubKey := "02cc"
  counterpartyPubKey := "02bb"
  nonce := 100
  signatureHex := "3044"

theorem settled_zero : Settled zeroSha256 ⟨⟨List.replicate 32 0⟩, rfl⟩ 0 zeroSettlement :=
  ⟨{ ChannelSettlement.settlesWith02bb with sha256 := zeroSha256 }, 600, 90, "rgb:asset",
    .missing, .missing, rfl, by rfl⟩

theorem truncatedHash_zero :
    truncatedHash zeroSha256 (witnessPreimage zeroOutPoint.utxo "counterparty") ≠
      truncatedHash zeroSha256 (witnessPreimage zeroOutPoint.utxo "holder") := by
  decide +kernel

/-- The claim of this witness of the channel of 600 tokens of asset 1. -/
def claimOf600 (witness : String) : ClaimCall := ⟨"1", witness, "cafe:2", "3044"⟩

/-- Both sides have tokens in the channel when it closes, and each claims its own. -/
theorem witnesses_of_zero :
    (after (handleRgbChannelClose (closingNode fun txid => txid = zeroOutPoint.txid)
        ChannelClosed.everyCloseStepWorks ChannelClosed.closedChannel zeroOutPoint)
        ChannelClosed.openerWith600).claiming.claims =
        [claimOf600 (zeroSettlement.witness .holder)] ∧
      (after (handleRgbChannelClose (closingNode fun _ => false)
          ChannelClosed.everyCloseStepWorks ChannelClosed.closedChannel zeroOutPoint)
          ChannelClosed.openerWith600).claiming.claims =
        [claimOf600 (zeroSettlement.witness .counterparty)] ∧
      zeroSettlement.witness .counterparty ≠ zeroSettlement.witness .holder := by
  have hsha : ∀ hasTransaction, (closingNode hasTransaction).sha256 = zeroSha256 := fun _ => rfl
  have hknown : decide (zeroOutPoint.txid = zeroOutPoint.txid) = true := decide_eq_true rfl
  have hread : ∀ hasTransaction, (closingNode hasTransaction).readRgbChannelInfo
      ChannelClosed.closedChannel ChannelClosed.openerWith600.node.ldkDataDir =
        some ⟨1, .nia, 600, 0⟩ := by
    intro _
    change ChannelClosed.opener.readRgbChannelInfo _ _ = _
    decide +kernel
  have hcall : ∀ witness, callClaim ChannelClosed.everyCloseStepWorks.claim witness "cafe:2" "1" =
      .ok (claimOf600 witness) := fun _ => rfl
  obtain ⟨hopener, hacceptor, hother⟩ := settlement_and_claims_agree
    (hsha fun txid => txid = zeroOutPoint.txid) (hsha fun _ => false) settled_zero hknown rfl
  refine ⟨?_, ?_, ?_⟩
  · exact (hopener.claims _ _ _ _ _ _ (hread _) (by decide) rfl (hcall _)).2.2.2
  · exact (hacceptor.claims _ _ _ _ _ _ (hread _) (by decide) rfl (hcall _)).2.2.2
  · refine (hother _ 0 .holder .counterparty fun h => ?_).2 zeroSettlement settled_zero ?_
    · cases congrArg (fun t => t.2.2) h
    · exact Set.injOn_pair.mpr fun h => absurd h truncatedHash_zero

end RgbLightningNode
