import RgbLightningNode.Adapter.Send

/-!
# Posting a consignment

The peer of a coloured channel learns about its contract from the proxy. What is
posted names the contract by the file of the consignment, and takes the amount
from a file that the event handler has written.
-/

namespace RgbLightningNode

open Fallible SerdeJson

structure ContractMetadata where
  registryUri : String
  rholangSource : String
  methods : List String

/-- What is posted to the proxy about a funding. -/
structure ConsignmentPost where
  url : String
  recipientId : String
  txid : String
  payload : Value

structure JsonRpcError where
  code : Int
  message : String

structure JsonRpcResponse where
  result : Option Bool
  error : Option JsonRpcError

structure PostResponse where
  success : Bool
  status : String
  json : Except String JsonRpcResponse

/-- What is outside of one posting. -/
structure ConsignmentIo where
  /-- Whether the path of the node's data is text. -/
  dataDirUtf8 : Bool
  stateHash : String → Except String (List UInt8)
  assetInfo : String → Except String AssetInfo
  contractMetadata : String → Except String ContractMetadata
  contractsInitialized : Bool
  walletPubkey : Except String String
  readTempInfo : Except String Unit
  removeTempInfo : Bool
  writeBody : Except String Unit
  attachFile : Except String Unit
  post : ConsignmentPost → Except String PostResponse

def AssetSchema.toText : AssetSchema → String
  | nia => "Nia"
  | uda => "Uda"
  | cfa => "Cfa"
  | ifa => "Ifa"

/-- The name of the consignment file of a transfer. -/
def consignmentName (assetId txid : String) : String := s!"{assetId}_{txid}.consignment"

/-- The asset in the name of a consignment file: what is before its last underscore. -/
def consignmentAsset (fileName : String) : Except (Exit String) String :=
  let reversed := fileName.toList.reverse
  let stem := (Text.stripPrefix ".consignment".toList.reverse reversed).getD reversed
  match stem.dropWhile (· ≠ '_') with
  | [] => .error (.err "Cannot parse asset_id from path - no underscore found")
  | _ :: assetId => .ok (String.ofList assetId.reverse)

def JsonRpcResponse.check : JsonRpcResponse → Except (Exit String) Unit
  | ⟨_, some error⟩ =>
    if error.code = -101 then .error (.err "RecipientIDAlreadyUsed")
    else .error (.err s!"Proxy error: {error.message}")
  | ⟨none, none⟩ => .error (.err "Invalid proxy response")
  | ⟨some _, none⟩ => .ok ()

def PostResponse.check (response : PostResponse) : Except (Exit String) Unit := do
  orErr (if response.success then some () else none)
    s!"Proxy returned error status: {response.status}"
  let json ← withContext "Failed to parse proxy response" response.json
  json.check

variable {ContractId : Type}

/-- The payload of a consignment, which lets the peer register the contract. -/
def consignmentPayload (assetId : String) (stateHash : List UInt8) (rgbInfo : RgbInfo ContractId)
    (assetInfo : AssetInfo) (metadata : ContractMetadata) (walletPubkey : String) : Value :=
  .obj [("contract_id", .str assetId), ("genesis_state_hash", .str (hexStr stateHash)),
    ("asset_amount", .num rgbInfo.localRgbAmount.toNat), ("schema", .str rgbInfo.schema.toText),
    ("ticker", .str assetInfo.ticker), ("name", .str assetInfo.name),
    ("precision", .num assetInfo.precision), ("supply", .num assetInfo.supply),
    ("registry_uri", .str metadata.registryUri), ("rholang_source", .str metadata.rholangSource),
    ("methods", .arr (metadata.methods.map .str)), ("wallet_pubkey", .str walletPubkey)]

/-- The posting of a funding's consignment; the state is the files of channel infos
by the transaction they are for. -/
def postConsignment (io : ConsignmentIo) (endpoint assetId txid : String) :
    Fallible (Exit String) (HashMap String (RgbInfo ContractId)) Unit := do
  attempt (orErr (if io.dataDirUtf8 then some () else none) "Invalid consignment path")
  let assetId ← attempt (consignmentAsset (consignmentName assetId txid))
  let stateHash ← attempt (withContext "Failed to get state hash" (io.stateHash assetId))
  let assetInfo ← attempt (withContext "Failed to get asset info" (io.assetInfo assetId))
  let metadata ← attempt
    (withContext "Failed to get contract metadata" (io.contractMetadata assetId))
  attempt (orErr (if io.contractsInitialized then some () else none)
    "F1r3fly contracts not initialized")
  let walletPubkey ← attempt (withContext "Failed to get wallet public key" io.walletPubkey)
  let tempInfo ← get
  let rgbInfo ← attempt (orErr (tempInfo.lookup txid)
    s!"Cannot find temporary RGB info file for txid: {txid}")
  attempt (withContext "Cannot read temp RGB info" io.readTempInfo)
  modify fun tempInfo => if io.removeTempInfo then tempInfo.erase txid else tempInfo
  attempt (withContext "Failed to write temp file" io.writeBody)
  attempt (withContext "Failed to attach file" io.attachFile)
  let response ← attempt (withContext "Failed to post to proxy" (io.post ⟨proxyUrl endpoint, txid,
    txid, consignmentPayload assetId stateHash rgbInfo assetInfo metadata walletPubkey⟩))
  attempt response.check

theorem toList_consignmentName (assetId txid : String) :
    (consignmentName assetId txid).toList =
      assetId.toList ++ '_' :: (txid.toList ++ ".consignment".toList) := by
  simp only [consignmentName, String.toList_append, List.append_assoc]
  rfl

/-- The asset is read back from the name of its file. -/
theorem consignmentAsset_consignmentName {assetId txid : String} (h : '_' ∉ txid.toList) :
    consignmentAsset (consignmentName assetId txid) = .ok assetId := by
  have hname : (consignmentName assetId txid).toList.reverse = ".consignment".toList.reverse ++
      (txid.toList.reverse ++ '_' :: assetId.toList.reverse) := by
    rw [toList_consignmentName]
    simp
  have hstrip : Text.stripPrefix ".consignment".toList.reverse
      (consignmentName assetId txid).toList.reverse =
        some (txid.toList.reverse ++ '_' :: assetId.toList.reverse) := by
    rw [hname, Text.stripPrefix_append]
  have hdrop : (txid.toList.reverse ++ '_' :: assetId.toList.reverse).dropWhile (· ≠ '_') =
      '_' :: assetId.toList.reverse := by
    rw [List.dropWhile_append_of_pos]
    · rfl
    · intro c hc
      exact decide_eq_true fun heq => h (heq ▸ List.mem_reverse.mp hc)
  rw [consignmentAsset, hstrip, Option.getD_some, hdrop]
  simp

variable {io : ConsignmentIo} {endpoint assetId txid : String} {rgbInfo : RgbInfo ContractId}
  {tempInfo : HashMap String (RgbInfo ContractId)}

/-- Every step of a posting succeeds, and the proxy takes it. -/
def ConsignmentIo.Posts (io : ConsignmentIo) (endpoint assetId txid : String)
    (rgbInfo : RgbInfo ContractId) : Prop :=
  io.dataDirUtf8 = true ∧ io.contractsInitialized = true ∧ io.readTempInfo = .ok () ∧
    io.writeBody = .ok () ∧ io.attachFile = .ok () ∧
    ∃ asset stateHash assetInfo metadata walletPubkey response,
      consignmentAsset (consignmentName assetId txid) = .ok asset ∧
      io.stateHash asset = .ok stateHash ∧ io.assetInfo asset = .ok assetInfo ∧
      io.contractMetadata asset = .ok metadata ∧ io.walletPubkey = .ok walletPubkey ∧
      io.post ⟨proxyUrl endpoint, txid, txid,
        consignmentPayload asset stateHash rgbInfo assetInfo metadata walletPubkey⟩ =
          .ok response ∧
      response.check = .ok ()

theorem exists_postConsignment_iff (hinfo : tempInfo.lookup txid = some rgbInfo) :
    (∃ t, postConsignment io endpoint assetId txid tempInfo = .ok () t) ↔
      io.Posts endpoint assetId txid rgbInfo := by
  rw [postConsignment, ConsignmentIo.Posts]
  simp only [attempt_bind_eq_ok_iff, withContext_eq_ok_iff, orErr_loaded_eq_ok_iff]
  constructor
  · rintro ⟨t, _, hdir, asset, hasset, stateHash, hhash, assetInfo, hassetInfo, metadata,
      hmetadata, _, hcontracts, walletPubkey, hpubkey, h⟩
    rw [bind_of_ok (get_apply tempInfo), hinfo] at h
    obtain ⟨_, hfound, h⟩ := attempt_bind_eq_ok_iff.mp h
    obtain rfl := Except.ok.inj hfound
    obtain ⟨_, hread, h⟩ := attempt_bind_eq_ok_iff.mp h
    rw [bind_of_ok (modify_apply _ _)] at h
    obtain ⟨_, hbody, h⟩ := attempt_bind_eq_ok_iff.mp h
    obtain ⟨_, hattach, h⟩ := attempt_bind_eq_ok_iff.mp h
    obtain ⟨response, hpost, h⟩ := attempt_bind_eq_ok_iff.mp h
    exact ⟨hdir, hcontracts, withContext_eq_ok_iff.mp hread, withContext_eq_ok_iff.mp hbody,
      withContext_eq_ok_iff.mp hattach, asset, stateHash, assetInfo, metadata, walletPubkey,
      response, hasset, hhash, hassetInfo, hmetadata, hpubkey, withContext_eq_ok_iff.mp hpost,
      (attempt_eq_ok_iff.mp h).1⟩
  · rintro ⟨hdir, hcontracts, hread, hbody, hattach, asset, stateHash, assetInfo, metadata,
      walletPubkey, response, hasset, hhash, hassetInfo, hmetadata, hpubkey, hpost, hcheck⟩
    refine ⟨if io.removeTempInfo then tempInfo.erase txid else tempInfo, (), hdir, asset, hasset,
      stateHash, hhash, assetInfo, hassetInfo, metadata, hmetadata, (), hcontracts, walletPubkey,
      hpubkey, ?_⟩
    rw [bind_of_ok (get_apply tempInfo), hinfo]
    refine attempt_bind_eq_ok_iff.mpr ⟨rgbInfo, rfl, ?_⟩
    refine attempt_bind_eq_ok_iff.mpr ⟨(), withContext_eq_ok_iff.mpr hread, ?_⟩
    rw [bind_of_ok (modify_apply _ _)]
    refine attempt_bind_eq_ok_iff.mpr ⟨(), withContext_eq_ok_iff.mpr hbody, ?_⟩
    refine attempt_bind_eq_ok_iff.mpr ⟨(), withContext_eq_ok_iff.mpr hattach, ?_⟩
    refine attempt_bind_eq_ok_iff.mpr ⟨response, withContext_eq_ok_iff.mpr hpost, ?_⟩
    exact attempt_eq_ok_iff.mpr ⟨hcheck, rfl⟩

/-! ### Every failure is an error -/

theorem failsOnly_consignmentAsset (fileName : String) :
    FailsOnly Exit.answers (consignmentAsset fileName) := by
  dsimp only [consignmentAsset]
  split
  · exact FailsOnly.error_iff.mpr trivial
  · exact FailsOnly.ok _

theorem failsOnly_check (response : PostResponse) : FailsOnly Exit.answers response.check := by
  refine FailsOnly.bind_iff.mpr ⟨failsOnly_orErr _ _, fun _ _ => ?_⟩
  refine FailsOnly.bind_iff.mpr ⟨failsOnly_withContext _ _, fun json _ => ?_⟩
  unfold JsonRpcResponse.check
  split
  · split <;> exact FailsOnly.error_iff.mpr trivial
  · exact FailsOnly.error_iff.mpr trivial
  · exact FailsOnly.ok ()

/-- A posting never panics. -/
theorem stopsOnly_postConsignment (io : ConsignmentIo) (endpoint assetId txid : String)
    (tempInfo : HashMap String (RgbInfo ContractId)) :
    StopsOnly Exit.answers (postConsignment io endpoint assetId txid) tempInfo := by
  refine StopsOnly.attempt_bind_iff.mpr ⟨failsOnly_orErr _ _, fun _ _ => ?_⟩
  refine StopsOnly.attempt_bind_iff.mpr ⟨failsOnly_consignmentAsset _, fun _ _ => ?_⟩
  refine StopsOnly.attempt_bind_iff.mpr ⟨failsOnly_withContext _ _, fun _ _ => ?_⟩
  refine StopsOnly.attempt_bind_iff.mpr ⟨failsOnly_withContext _ _, fun _ _ => ?_⟩
  refine StopsOnly.attempt_bind_iff.mpr ⟨failsOnly_withContext _ _, fun _ _ => ?_⟩
  refine StopsOnly.attempt_bind_iff.mpr ⟨failsOnly_orErr _ _, fun _ _ => ?_⟩
  refine StopsOnly.attempt_bind_iff.mpr ⟨failsOnly_withContext _ _, fun _ _ => ?_⟩
  refine (StopsOnly.bind_of_ok_iff (get_apply tempInfo)).mpr ?_
  refine StopsOnly.attempt_bind_iff.mpr ⟨failsOnly_orErr _ _, fun _ _ => ?_⟩
  refine StopsOnly.attempt_bind_iff.mpr ⟨failsOnly_withContext _ _, fun _ _ => ?_⟩
  refine (StopsOnly.bind_of_ok_iff (modify_apply _ _)).mpr ?_
  refine StopsOnly.attempt_bind_iff.mpr ⟨failsOnly_withContext _ _, fun _ _ => ?_⟩
  refine StopsOnly.attempt_bind_iff.mpr ⟨failsOnly_withContext _ _, fun _ _ => ?_⟩
  refine StopsOnly.attempt_bind_iff.mpr ⟨failsOnly_withContext _ _, fun response _ => ?_⟩
  exact StopsOnly.attempt_iff.mpr (failsOnly_check response)

end RgbLightningNode
