import RgbLightningNode.Adapter.TokenWallet
import RgbLightningNode.Adapter.TxBuilder

/-!
# On-chain sends

`send` builds and signs a transaction with an output for the recipient, has the
contract move the tokens to an output of it, and then broadcasts it and tells
the recipient's proxies. The output is found by its shape, and nothing that the
contract has done is taken back.
-/

namespace RgbLightningNode

open Fallible SerdeJson

variable {Txid : Type}

structure SendRecipient extends Recipient where
  transportEndpoints : List String

/-- What is posted to a proxy about a transfer. -/
structure ProxyPost where
  url : String
  recipientId : String
  payload : Value

/-- What is outside of one send. The answers to the transfer are those to the
transfer of a funding; a proxy answers with whether its status is a success. -/
structure SendIo (Txid : Type) extends BuilderIo Txid where
  sign : Psbt Txid → Except String Bool
  extractTx : Psbt Txid → Except String Unit
  computeTxid : Psbt Txid → String
  node : SendEndIo
  broadcast : Psbt Txid → Except String String
  post : ProxyPost → Except String Bool

/-- The transfers the contract has carried out, the transactions that have been
broadcast, and what the proxies have been told. -/
structure SendWorld (Txid : Type) where
  transfers : List Transfer
  broadcasts : List (Psbt Txid)
  posts : List ProxyPost

def Assignment.fungible? : Assignment → Option Nat
  | fungible amount => some amount
  | _ => none

/-- A send whose tokens have been moved. -/
structure PreparedSend (Txid : Type) where
  assetId : String
  recipient : SendRecipient
  rgbAmount : Nat
  tx : BuilderIo.ContractTx Txid
  transfer : Transfer

/-- The steps up to the contract's answer to the transfer. -/
def prepareSend (io : SendIo Txid) (recipientMap : List (String × List SendRecipient))
    (feeRate : Nat) : Except (Exit String) (PreparedSend Txid) := do
  let (assetId, recipients) ← orErr recipientMap.head? "No recipient in map"
  let recipient ← orErr recipients.head? "No recipient for asset"
  let rgbAmount ← orErr recipient.assignment.fungible? "Non-fungible assignments not supported"
  let tx ← io.sendTx assetId recipient.recipientId feeRate
  let finalized ← withContext "Failed to sign PSBT" (io.sign tx.psbt)
  orErr (if finalized then some () else none) "PSBT signing did not finalize"
  withContext "Failed to extract TX" (io.extractTx tx.psbt)
  let transfer ← TokenWallet.sendTokens io.node assetId rgbAmount
    ⟨io.computeTxid tx.psbt, tx.psbt.output⟩
  return ⟨assetId, recipient, rgbAmount, tx, transfer⟩

/-- The address of a proxy. -/
def proxyUrl (endpoint : String) : String :=
  match Text.stripPrefix "rpc://".toList endpoint.toList with
  | some rest => String.ofList ("http://".toList ++ rest)
  | none =>
    match Text.stripPrefix "rpcs://".toList endpoint.toList with
    | some rest => String.ofList ("https://".toList ++ rest)
    | none => endpoint

def PreparedSend.payload (p : PreparedSend Txid) : Value :=
  .obj [("contract_id", .str p.assetId),
    ("genesis_state_hash", .arr (p.tx.stateHash.map fun b => .num b.toNat)),
    ("asset_amount", .num p.rgbAmount), ("schema", .str "Nia")]

/-- What is posted to an endpoint. -/
def PreparedSend.postTo (p : PreparedSend Txid) (txid endpoint : String) : ProxyPost :=
  ⟨proxyUrl endpoint, txid, p.payload⟩

/-- Post to one proxy after the other; a status that is no success is only logged. -/
def postAll (post : ProxyPost → Except String Bool) :
    List ProxyPost → Fallible (Exit String) (SendWorld Txid) Unit
  | [] => pure ()
  | x :: xs => do
    let _success ← attempt (withContext "HTTP POST failed" (post x))
    modify fun w => { w with posts := w.posts ++ [x] }
    postAll post xs

def PreparedSend.proxyPosts (io : SendIo Txid) (p : PreparedSend Txid) : List ProxyPost :=
  p.recipient.transportEndpoints.map (p.postTo (io.computeTxid p.tx.psbt))

/-- The steps behind a transfer. -/
def settleSend (io : SendIo Txid) (p : PreparedSend Txid) :
    Fallible (Exit String) (SendWorld Txid) String := do
  attempt (withContext "Failed to save state" io.node.saveState)
  let broadcastTxid ← attempt (withContext "Failed to broadcast" (io.broadcast p.tx.psbt))
  modify fun w => { w with broadcasts := w.broadcasts ++ [p.tx.psbt] }
  postAll io.post (p.proxyPosts io)
  return broadcastTxid

def send (io : SendIo Txid) (recipientMap : List (String × List SendRecipient)) (feeRate : Nat) :
    Fallible (Exit String) (SendWorld Txid) String := do
  let p ← attempt (prepareSend io recipientMap feeRate)
  modify fun w => { w with transfers := w.transfers ++ [p.transfer] }
  settleSend io p

/-- The answer of a request to an early stop of the wallet library. -/
def Exit.ofWallet : Exit String → Exit APIError
  | .err e => .err (.rgbLib e)
  | .panic held message => .panic held message

/-- The request; `unlocked` and `recipientInfo` are what its first checks have found. -/
def sendAsset (io : SendIo Txid) (unlocked recipientInfo : Except APIError Unit)
    (rgbSendLock : Bool) (assetId : String) (recipient : SendRecipient) (feeRate : Nat) :
    Fallible (Exit APIError) (SendWorld Txid) String := do
  attempt (unlocked.mapError .err)
  ensure (!rgbSendLock) (.err .openChannelInProgress)
  attempt (recipientInfo.mapError .err)
  EStateM.adaptExcept Exit.ofWallet (send io [(assetId, [recipient])] feeRate)

variable {io : SendIo Txid} {recipientMap : List (String × List SendRecipient)} {feeRate : Nat}
  {p : PreparedSend Txid} {w w' : SendWorld Txid}

/-! ### What a send leaves behind -/

/-- The proxies are told, and nothing else changes. -/
theorem after_postAll (post : ProxyPost → Except String Bool) (xs : List ProxyPost)
    (w : SendWorld Txid) : ∃ posts, after (postAll post xs) w = { w with posts := posts } := by
  induction xs generalizing w with
  | nil => exact ⟨w.posts, rfl⟩
  | cons x xs ih =>
    rw [postAll]
    obtain h | ⟨_, -, h⟩ := after_attempt_bind (withContext "HTTP POST failed" (post x)) _ w
    · exact ⟨w.posts, h⟩
    · rw [h, after_bind_of_ok (modify_apply _ w)]
      exact ih _

theorem transfers_after_settleSend (io : SendIo Txid) (p : PreparedSend Txid)
    (w : SendWorld Txid) : (after (settleSend io p) w).transfers = w.transfers := by
  rw [settleSend]
  obtain h | ⟨_, -, h⟩ :=
    after_attempt_bind (withContext "Failed to save state" io.node.saveState) _ w
  · rw [h]
  obtain h' | ⟨_, -, h'⟩ :=
    after_attempt_bind (withContext "Failed to broadcast" (io.broadcast p.tx.psbt)) _ w
  · rw [h, h']
  rw [h, h', after_bind_of_ok (modify_apply _ w)]
  obtain ⟨posts, hposts⟩ := after_postAll io.post (p.proxyPosts io)
    { w with broadcasts := w.broadcasts ++ [p.tx.psbt] }
  cases hpost : postAll io.post (p.proxyPosts io)
      { w with broadcasts := w.broadcasts ++ [p.tx.psbt] } with
  | ok _ t =>
    rw [after_of_ok hpost] at hposts
    rw [after_bind_of_ok hpost, hposts]
    rfl
  | error e t =>
    rw [after_of_error hpost] at hposts
    rw [after_bind_of_error hpost, hposts]

/-- A send that returns has broadcast its transaction. -/
theorem broadcasts_of_send {txid : String} (h : send io recipientMap feeRate w = .ok txid w') :
    ∃ p, prepareSend io recipientMap feeRate = .ok p ∧
      w'.broadcasts = w.broadcasts ++ [p.tx.psbt] := by
  obtain ⟨p, hp, h⟩ := attempt_bind_eq_ok_iff.mp h
  rw [bind_of_ok (modify_apply _ w)] at h
  obtain ⟨_, _, h⟩ := attempt_bind_eq_ok_iff.mp h
  obtain ⟨broadcastTxid, _, h⟩ := attempt_bind_eq_ok_iff.mp h
  rw [bind_of_ok (modify_apply _ _)] at h
  obtain ⟨t, hpost, hreturn⟩ := unit_bind_eq_ok_iff.mp h
  obtain rfl : t = w' := (EStateM.Result.ok.inj hreturn).2
  obtain ⟨posts, hposts⟩ := after_postAll io.post (p.proxyPosts io)
    { w with
      transfers := w.transfers ++ [p.transfer]
      broadcasts := w.broadcasts ++ [p.tx.psbt] }
  rw [after_of_ok hpost] at hposts
  exact ⟨p, hp, by rw [hposts]⟩

/-- A send whose tokens have been moved is one transfer more, with or without an error. -/
theorem transfers_after_send (h : prepareSend io recipientMap feeRate = .ok p)
    (w : SendWorld Txid) :
    (after (send io recipientMap feeRate) w).transfers = w.transfers ++ [p.transfer] := by
  rw [send, after_bind_of_ok (attempt_eq_ok_iff.mpr ⟨h, rfl⟩),
    after_bind_of_ok (modify_apply _ w), transfers_after_settleSend]

/-- A send whose tokens have not been moved changes nothing. -/
theorem send_of_error {e : Exit String} (h : prepareSend io recipientMap feeRate = .error e)
    (w : SendWorld Txid) : send io recipientMap feeRate w = .error e w := by
  rw [send, h]
  exact bind_of_error (attempt_error e w)

theorem exists_postAll_iff {post : ProxyPost → Except String Bool} {xs : List ProxyPost} :
    (∃ w', postAll post xs w = .ok () w') ↔ ∀ x ∈ xs, ∃ success, post x = .ok success := by
  induction xs generalizing w with
  | nil =>
    exact iff_of_true ⟨w, rfl⟩ fun _ hmem => absurd hmem List.not_mem_nil
  | cons x xs ih =>
    rw [List.forall_mem_cons, postAll]
    simp only [attempt_bind_eq_ok_iff, withContext_eq_ok_iff]
    constructor
    · rintro ⟨w', success, hsuccess, hrest⟩
      rw [bind_of_ok (modify_apply _ w)] at hrest
      exact ⟨⟨success, hsuccess⟩, ih.mp ⟨w', hrest⟩⟩
    · rintro ⟨⟨success, hsuccess⟩, hrest⟩
      obtain ⟨w', hw'⟩ := ih.mpr hrest
      refine ⟨w', success, hsuccess, ?_⟩
      rw [bind_of_ok (modify_apply _ w)]
      exact hw'

/-- Every step behind the transfer succeeds. -/
def Settles (io : SendIo Txid) (p : PreparedSend Txid) : Prop :=
  io.node.saveState = .ok () ∧ (∃ txid, io.broadcast p.tx.psbt = .ok txid) ∧
    ∀ x ∈ p.proxyPosts io, ∃ success, io.post x = .ok success

theorem exists_settleSend_iff :
    (∃ txid w', settleSend io p w = .ok txid w') ↔ Settles io p := by
  rw [settleSend, Settles]
  simp only [attempt_bind_eq_ok_iff, withContext_eq_ok_iff]
  constructor
  · rintro ⟨txid, w', _, hsave, broadcastTxid, hbroadcast, hrest⟩
    rw [bind_of_ok (modify_apply _ w)] at hrest
    obtain ⟨t, hpost, -⟩ := unit_bind_eq_ok_iff.mp hrest
    exact ⟨hsave, ⟨broadcastTxid, hbroadcast⟩, exists_postAll_iff.mp ⟨t, hpost⟩⟩
  · rintro ⟨hsave, ⟨broadcastTxid, hbroadcast⟩, hposts⟩
    obtain ⟨t, hpost⟩ := (exists_postAll_iff (w := { w with
      broadcasts := w.broadcasts ++ [p.tx.psbt] })).mpr hposts
    refine ⟨broadcastTxid, t, (), hsave, broadcastTxid, hbroadcast, ?_⟩
    rw [bind_of_ok (modify_apply _ w), bind_of_ok hpost]
    rfl

theorem exists_send_iff (h : prepareSend io recipientMap feeRate = .ok p) :
    (∃ txid w', send io recipientMap feeRate w = .ok txid w') ↔ Settles io p := by
  rw [send, ← exists_settleSend_iff (w := { w with transfers := w.transfers ++ [p.transfer] }),
    bind_of_ok (attempt_eq_ok_iff.mpr ⟨h, rfl⟩), bind_of_ok (modify_apply _ w)]

/-- What the wallet builds for one recipient is an output for it, and change. -/
structure BuilderIo.ListsRecipient (io : BuilderIo Txid) : Prop where
  spendable : ∀ text script, io.address text = .ok script → script.isOpReturn = false
  outputs : ∀ script amount feeRate unspendable psbt,
    io.finish ⟨[(script, amount)], feeRate, unspendable⟩ = .ok psbt →
      ∃ change : List TxOut, (∀ out ∈ change, out.scriptPubkey.isOpReturn = false) ∧
        psbt.output.Perm (⟨amount, script⟩ :: change)

/-! ### A send -/

theorem listsRecipient_oneOutput (changeFirst : Bool) (occupied : List String) :
    (oneOutput changeFirst occupied).ListsRecipient where
  spendable text script h := by
    obtain rfl := Except.ok.inj h
    rfl
  outputs script amount feeRate unspendable psbt h := by
    rw [oneOutput] at h
    dsimp only at h
    split_ifs at h with hspendable
    obtain rfl := Except.ok.inj h
    refine ⟨[⟨9000, ⟨[0, 20, 3]⟩⟩], by simp [ScriptBuf.isOpReturn], ?_⟩
    cases changeFirst with
    | true => exact .swap _ _ _
    | false => exact .refl _

/-- A contract whose tokens are at an output of transaction `aa`. -/
def willingNode : SendEndIo where
  readDetails := .ok ()
  broadcast := .ok ()
  readState := .ok ()
  state := .doc (.obj [("genesis_utxos",
    .obj [("c1", .obj [("txid", .str "aa"), ("vout", .num 0)])])])
  contractsManager := true
  parseContractId _ := .ok ()
  derivationIndex _ := .ok 0
  childKey _ := .ok "02ab"
  signature _ _ _ := .ok ()
  contractLoaded _ := true
  transfer _ := .ok ()
  saveState := .ok ()
  locked := ⟨.ok (), .ok (), .ok ()⟩
  now := 0
  removeDetails := true

def oneSend (changeFirst accepts : Bool) : SendIo Nat where
  toBuilderIo := oneOutput changeFirst []
  sign _ := .ok true
  extractTx _ := .ok ()
  computeTxid _ := "bb"
  node := willingNode
  broadcast _ := if accepts then .ok "bb" else .error "min relay fee not met"
  post _ := .ok true

def toOne : List (String × List SendRecipient) :=
  [("c1", [{ recipientId := "addr", witnessAmountSat := none, assignment := .fungible 5
             transportEndpoints := ["rpc://proxy"] }])]

/-! ### Sends that fail -/

/-- A send that returns an error has moved no tokens and broadcast nothing. -/
def FailsClean (io : SendIo Txid) (recipientMap : List (String × List SendRecipient))
    (feeRate : Nat) : Prop :=
  ∀ w w' e, send io recipientMap feeRate w = .error e w' →
    w'.transfers = w.transfers ∧ w'.broadcasts = w.broadcasts

/-- A send fails without side effects if and only if nothing fails any more once
the contract has moved the tokens. -/
theorem failsClean_iff : FailsClean io recipientMap feeRate ↔
    ∀ p, prepareSend io recipientMap feeRate = .ok p → Settles io p := by
  constructor
  · intro hclean p hp
    have w : SendWorld Txid := ⟨[], [], []⟩
    rw [← exists_send_iff (w := w) hp]
    cases hsend : send io recipientMap feeRate w with
    | ok txid w' => exact ⟨txid, w', rfl⟩
    | error e w' =>
      -- the transfer has been carried out all the same
      have hsame := (hclean w w' e hsend).1
      have hmoved := transfers_after_send hp w
      rw [after_of_error hsend, hsame] at hmoved
      exact absurd hmoved.symm (by simp)
  · intro hsettles w w' e hsend
    cases hp : prepareSend io recipientMap feeRate with
    | error e' =>
      rw [send_of_error hp] at hsend
      obtain rfl := (EStateM.Result.error.inj hsend).2
      exact ⟨rfl, rfl⟩
    | ok p =>
      obtain ⟨txid, t, hok⟩ := (exists_send_iff (w := w) hp).mpr (hsettles p hp)
      rw [hok] at hsend
      cases hsend

/-- The request fails without side effects when its send does. -/
theorem sendAsset_of_error {unlocked recipientInfo : Except APIError Unit} {rgbSendLock : Bool}
    {assetId : String} {recipient : SendRecipient} {e : Exit APIError}
    (hclean : FailsClean io [(assetId, [recipient])] feeRate)
    (h : sendAsset io unlocked recipientInfo rgbSendLock assetId recipient feeRate w =
      .error e w') : w'.transfers = w.transfers ∧ w'.broadcasts = w.broadcasts := by
  obtain rfl | ⟨_, -, h⟩ := attempt_bind_eq_error h
  · exact ⟨rfl, rfl⟩
  cases rgbSendLock with
  | true =>
    obtain rfl := (EStateM.Result.error.inj h).2
    exact ⟨rfl, rfl⟩
  | false =>
    obtain rfl | ⟨_, -, h⟩ := attempt_bind_eq_error h
    · exact ⟨rfl, rfl⟩
    rw [EStateM.adaptExcept] at h
    cases hsend : send io [(assetId, [recipient])] feeRate w with
    | ok txid t =>
      rw [hsend] at h
      cases h
    | error e' t =>
      rw [hsend] at h
      obtain rfl := (EStateM.Result.error.inj h).2
      exact hclean w t e' hsend

/-- A send whose transaction the network does not take has moved the tokens. -/
theorem refused_send_moves_tokens :
    ¬∀ (io : SendIo Nat) (recipientMap : List (String × List SendRecipient)) (feeRate : Nat),
      FailsClean io recipientMap feeRate := by
  intro h
  have hsame := (h (oneSend false false) toOne 1 ⟨[], [], []⟩ _ _ rfl).1
  cases hsame

/-! ### Where the tokens go -/

/-- The output at an index pays the recipient. -/
def PreparedSend.PaysAt (p : PreparedSend Txid) (vout : Nat) : Prop :=
  (p.tx.psbt.output[vout]?).map TxOut.scriptPubkey = some p.tx.script

/-- No change is listed before the output for the recipient. -/
def PreparedSend.RecipientFirst (p : PreparedSend Txid) : Prop :=
  p.tx.built.output.head?.map TxOut.scriptPubkey = some p.tx.script

/-- The tokens of a send go to the output that pays the recipient. -/
def AssignsToRecipient (io : SendIo Txid) (recipientMap : List (String × List SendRecipient))
    (feeRate : Nat) : Prop :=
  ∀ w transfer, (after (send io recipientMap feeRate) w).transfers = w.transfers ++ [transfer] →
    ∃ p vout, prepareSend io recipientMap feeRate = .ok p ∧ p.PaysAt vout ∧
      transfer.target = FundingOutput.witnessId ⟨io.computeTxid p.tx.psbt, vout⟩

theorem toString_nat_injective {m n : Nat} (h : toString m = toString n) : m = n := by
  have hm := decimalValue_toString m
  rw [h, decimalValue_toString] at hm
  exact (Option.some.inj hm).symm

/-- The text of an output tells its index. -/
theorem vout_eq_of_witnessId {txid : String} {vout vout' : Nat}
    (h : FundingOutput.witnessId ⟨txid, vout⟩ = FundingOutput.witnessId ⟨txid, vout'⟩) :
    vout = vout' := by
  have hlist := congrArg String.toList h
  simp only [FundingOutput.witnessId, String.toList_append] at hlist
  exact toString_nat_injective (String.toList_inj.mp (List.append_cancel_left hlist))

theorem prepareSend_of_ok (h : prepareSend io recipientMap feeRate = .ok p) :
    io.sendTx p.assetId p.recipient.recipientId feeRate = .ok p.tx ∧
      TokenWallet.sendTokens io.node p.assetId p.rgbAmount
        ⟨io.computeTxid p.tx.psbt, p.tx.psbt.output⟩ = .ok p.transfer := by
  obtain ⟨⟨assetId, recipients⟩, _, h⟩ := except_bind_eq_ok_iff.mp h
  obtain ⟨recipient, _, h⟩ := except_bind_eq_ok_iff.mp h
  obtain ⟨rgbAmount, _, h⟩ := except_bind_eq_ok_iff.mp h
  obtain ⟨tx, htx, h⟩ := except_bind_eq_ok_iff.mp h
  obtain ⟨finalized, _, h⟩ := except_bind_eq_ok_iff.mp h
  obtain ⟨_, _, h⟩ := except_bind_eq_ok_iff.mp h
  obtain ⟨_, _, h⟩ := except_bind_eq_ok_iff.mp h
  obtain ⟨transfer, htransfer, h⟩ := except_bind_eq_ok_iff.mp h
  obtain rfl := Except.ok.inj h
  exact ⟨htx, htransfer⟩

/-- The contract moves the tokens to the first output that is no OP_RETURN. -/
theorem target_of_sendTokens {node : SendEndIo} {assetId : String} {rgbAmount : Nat}
    {tx : Transaction} {transfer : Transfer}
    (h : TokenWallet.sendTokens node assetId rgbAmount tx = .ok transfer) :
    ∃ vout, TokenWallet.recipientVout tx.output = some vout ∧
      transfer.target = FundingOutput.witnessId ⟨tx.txid, vout⟩ := by
  obtain ⟨vout, hvout, h⟩ := except_bind_eq_ok_iff.mp h
  refine ⟨vout, orErr_eq_ok_iff.mp hvout, ?_⟩
  obtain ⟨state, _, h⟩ := except_bind_eq_ok_iff.mp h
  obtain ⟨source, _, h⟩ := except_bind_eq_ok_iff.mp h
  obtain ⟨_, _, h⟩ := except_bind_eq_ok_iff.mp h
  obtain ⟨_, _, h⟩ := except_bind_eq_ok_iff.mp h
  obtain ⟨index, _, h⟩ := except_bind_eq_ok_iff.mp h
  obtain ⟨pubkey, _, h⟩ := except_bind_eq_ok_iff.mp h
  obtain ⟨_, _, h⟩ := except_bind_eq_ok_iff.mp h
  obtain ⟨_, _, h⟩ := except_bind_eq_ok_iff.mp h
  obtain ⟨_, _, h⟩ := except_bind_eq_ok_iff.mp h
  obtain rfl := Except.ok.inj h
  rfl

/-- With spendable outputs only, that is the first one the wallet lists. -/
theorem recipientVout_psbt (hlaw : io.toBuilderIo.ListsRecipient)
    (h : prepareSend io recipientMap feeRate = .ok p) :
    ∃ out rest, p.tx.built.output = out :: rest ∧
      TokenWallet.recipientVout p.tx.psbt.output = some 0 := by
  obtain ⟨occupied, hscript, -, -, hbuilt⟩ :=
    BuilderIo.contractTx_of_ok (prepareSend_of_ok h).1
  obtain ⟨unspendable, -, hfinish⟩ := except_bind_eq_ok_iff.mp hbuilt
  obtain ⟨change, hchange, hperm⟩ := hlaw.outputs _ _ _ _ _ (withContext_eq_ok_iff.mp hfinish)
  cases houtput : p.tx.built.output with
  | nil =>
    rw [houtput] at hperm
    exact absurd hperm.symm.eq_nil (List.cons_ne_nil _ _)
  | cons out rest =>
    have hspendable : out.scriptPubkey.isOpReturn = false := by
      have hmem := hperm.subset (houtput ▸ List.mem_cons_self)
      obtain rfl | hmem := List.mem_cons.mp hmem
      · exact hlaw.spendable _ _ hscript
      · exact hchange out hmem
    refine ⟨out, rest, rfl, ?_⟩
    rw [TokenWallet.recipientVout, BuilderIo.ContractTx.psbt, houtput, List.cons_append,
      List.findIdx?_cons, hspendable]
    rfl

/-- The tokens go to the recipient if and only if the wallet lists no change
before the recipient's output. -/
theorem assignsToRecipient_iff (hlaw : io.toBuilderIo.ListsRecipient) :
    AssignsToRecipient io recipientMap feeRate ↔
      ∀ p, prepareSend io recipientMap feeRate = .ok p → p.RecipientFirst := by
  have hfirst : ∀ p, prepareSend io recipientMap feeRate = .ok p →
      p.transfer.target = FundingOutput.witnessId ⟨io.computeTxid p.tx.psbt, 0⟩ ∧
        (p.PaysAt 0 ↔ p.RecipientFirst) := by
    intro p hp
    obtain ⟨out, rest, houtput, hvout⟩ := recipientVout_psbt hlaw hp
    obtain ⟨vout, hvout', htarget⟩ := target_of_sendTokens (prepareSend_of_ok hp).2
    obtain rfl := Option.some.inj (hvout.symm.trans hvout')
    refine ⟨htarget, ?_⟩
    rw [PreparedSend.PaysAt, PreparedSend.RecipientFirst, BuilderIo.ContractTx.psbt, houtput]
    rfl
  constructor
  · intro hassigns p hp
    obtain ⟨htarget, hpays⟩ := hfirst p hp
    obtain ⟨p', vout, hp', hvout, hsame⟩ := hassigns ⟨[], [], []⟩ p.transfer
      (transfers_after_send hp _)
    obtain rfl := Except.ok.inj (hp.symm.trans hp')
    obtain rfl := vout_eq_of_witnessId (htarget.symm.trans hsame)
    exact hpays.mp hvout
  · intro hall w transfer hmoved
    cases hp : prepareSend io recipientMap feeRate with
    | error e =>
      rw [after_of_error (send_of_error hp w)] at hmoved
      exact absurd hmoved (by simp)
    | ok p =>
      obtain ⟨htarget, hpays⟩ := hfirst p hp
      rw [transfers_after_send hp] at hmoved
      obtain rfl := (List.cons.inj (List.append_cancel_left hmoved)).1
      exact ⟨p, 0, rfl, hpays.mpr (hall p hp), htarget⟩

/-- A wallet that lists its change last. -/
theorem assignsToRecipient_of_changeLast :
    AssignsToRecipient (oneSend false true) toOne 1 ↔
      ∀ p, prepareSend (oneSend false true) toOne 1 = .ok p → p.RecipientFirst :=
  assignsToRecipient_iff (listsRecipient_oneOutput false [])

/-- One that lists it first keeps the tokens. -/
theorem tokens_go_to_change :
    ¬∀ (io : SendIo Nat) (recipientMap : List (String × List SendRecipient)) (feeRate : Nat),
      io.toBuilderIo.ListsRecipient → AssignsToRecipient io recipientMap feeRate := by
  intro h
  obtain ⟨p, vout, hp, hpays, htarget⟩ :=
    h (oneSend true true) toOne 1 (listsRecipient_oneOutput true []) ⟨[], [], []⟩ _ rfl
  obtain rfl := Except.ok.inj hp
  obtain rfl := vout_eq_of_witnessId htarget
  have hscript : (⟨[0, 20, 3]⟩ : ScriptBuf) = ⟨[0, 20, 1]⟩ := Option.some.inj hpays
  exact absurd hscript (by decide)

end RgbLightningNode
