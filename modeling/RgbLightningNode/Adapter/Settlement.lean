import RgbLightningNode.Adapter.Claim

/-!
# Settling a closed channel

`settleChannelClose` has the contract split the tokens of a channel between two
witness ids, one for each side, and names the public keys that will own them.
The key of the other side comes from a cache in the state file, and when it is
not there from a proxy to which the acceptors of channels post their keys.
-/

namespace RgbLightningNode

open Fallible SerdeJson

/-- A call of the contract's settle_channel method. -/
structure SettleCall where
  contractId : String
  fundingUtxo : String
  holderWitness : String
  holderAmount : Nat
  counterpartyWitness : String
  counterpartyAmount : Nat
  holderPubKey : String
  counterpartyPubKey : String
  nonce : Nat
  signatureHex : String
  deriving DecidableEq

/-- The response of the proxy. -/
inductive ProxyResponse where
  | unreachable (e : String)
  | failed (status : String)
  | unreadable (e : String)
  | reply (consignment : Option String) (error : Option String)

/-- The answers of everything outside to one settlement. -/
structure SettleIo where
  contractsManager : Bool
  parseContractId : String → Except String Unit
  sha256 : String → String
  derivationIndex : String → Except String Nat
  childKey : Nat → Except String String
  masterPublicKey : Except String String
  readState : Except String Unit
  /-- The proxy's address in the environment. -/
  rgbProxyUrl : Option String
  consignmentGet : (url recipientId : String) → ProxyResponse
  decodeBase64 : String → Except String (List UInt8)
  fromUtf8 : List UInt8 → Except String String
  parsePayload : String → Except String String
  readAgain : Except String Unit
  writeState : Except String Unit
  now : Nat
  signature : (fundingWitnessId : String) → (holderAmount counterpartyAmount nonce : Nat) →
    (key : String) → Except String String
  contractLoaded : String → Bool
  runtime : Except String Unit
  callMethod : SettleCall → Except String Unit

/-! ### The key of the other side -/

/-- The key the cache in the state file has for a contract. -/
def cachedPubkey (state : Value) (contractId : String) : Option String :=
  ((state.get? "channel_counterparties").bind fun cp => cp.get? contractId).bind Value.asStr

def readCache (io : SettleIo) (contractId : String) (f : File) :
    Except (Exit String) (Option String) :=
  if f.exists then
    match f.read io.readState with
    | .ok state => .ok (cachedPubkey state contractId)
    | .error (.inl e) => .error (.err s!"Failed to read state file: {e}")
    | .error (.inr e) => .error (.err s!"Failed to parse state JSON: {e}")
  else .ok none

/-- The name under which the acceptor of a channel posts its key. -/
def acceptorPubkeyId (contractId : String) : String := s!"{contractId}_acceptor_pubkey"

/-- The address of a proxy with its scheme turned into one of the web. -/
def httpProxyUrl (url : String) : String :=
  if "rpc://".toList.isPrefixOf url.toList then
    String.ofList ("http://".toList ++ url.toList.drop 6)
  else if "rpcs://".toList.isPrefixOf url.toList then
    String.ofList ("https://".toList ++ url.toList.drop 7)
  else url

/-- The consignment in a response. -/
def responseConsignment (contractId : String) : ProxyResponse → Except (Exit String) String
  | .unreachable e => .error (.err s!"Failed to fetch counterparty pubkey from proxy: {e}")
  | .failed status => .error (.err
      s!"Proxy returned error status {status}: Counterparty pubkey not found for contract {contractId}")
  | .unreadable e => .error (.err s!"Failed to parse proxy response: {e}")
  | .reply _ (some error) => .error (.err s!"Proxy error: {error}")
  | .reply none none => .error (.err "No result in proxy response")
  | .reply (some consignment) none => .ok consignment

def fetchPubkey (io : SettleIo) (contractId : String) : Except (Exit String) String := do
  let url := httpProxyUrl (io.rgbProxyUrl.getD "rpc://localhost:3000/json-rpc")
  let consignment ← responseConsignment contractId
    (io.consignmentGet url (acceptorPubkeyId contractId))
  let jsonBytes ← withContext "Failed to decode base64" (io.decodeBase64 consignment)
  let jsonText ← withContext "Failed to convert to UTF-8" (io.fromUtf8 jsonBytes)
  withContext "Failed to parse pubkey payload" (io.parsePayload jsonText)

/-- The state the key is put into: what does not parse counts as empty. -/
def cacheBase (io : SettleIo) (f : File) : Value :=
  match f.read io.readAgain with
  | .ok state => state
  | .error _ => .obj []

/-- The state with a cache in it, an empty one if there was none. -/
def withCache (state : Value) : Option Value :=
  if (state.get? "channel_counterparties").isNone then
    state.assign "channel_counterparties" (.obj [])
  else some state

/-- The state with a key in its cache; assigning into anything but an object is
a panic. -/
def putPubkey (state : Value) (contractId pubkey : String) : Option Value := do
  let state ← withCache state
  let cache ← (state.index "channel_counterparties").assign contractId (.str pubkey)
  state.assign "channel_counterparties" cache

/-- Keep a fetched key. An error of the write is ignored. -/
def cachePubkey (io : SettleIo) (contractId pubkey : String) :
    Fallible (Exit String) File Unit := do
  let f ← get
  if f.exists then do
    let state ← expect (putPubkey (cacheBase io f) contractId pubkey)
      (.panic (some .walletManager) "cannot access key in JSON value")
    match io.writeState with
    | .ok () => set (File.doc state)
    | .error _ => pure ()
  else pure ()

def counterpartyPubkey (io : SettleIo) (contractId : String) :
    Fallible (Exit String) File String := do
  let f ← get
  match ← attempt (readCache io contractId f) with
  | some pubkey => return pubkey
  | none =>
    let fetchedPubkey ← attempt (fetchPubkey io contractId)
    -- the key is kept under the contract alone
    cachePubkey io contractId fetchedPubkey
    return fetchedPubkey

/-! ### The settlement -/

/-- The key that signs, and the one that will own this side's tokens. -/
def settleKeys (io : SettleIo) (contractId : String) : Except (Exit String) (String × String) := do
  orErr (if io.contractsManager then some () else none) "F1r3fly contracts not initialized"
  withContext "Invalid contract ID" (io.parseContractId contractId)
  let index ← withContext "Failed to get derivation index" (io.derivationIndex contractId)
  let signingKey ← withContext "Failed to get signing key" (io.childKey index)
  let holderPubkey ← withContext "Failed to get holder public key" io.masterPublicKey
  return (signingKey, holderPubkey)

def callSettle (io : SettleIo) (fundingUtxo : String) (holderAmount counterpartyAmount : Nat)
    (contractId signingKey holderPubkey pubkey : String) : Except (Exit String) SettleCall := do
  let signature ← withContext "Signature generation failed"
    (io.signature s!"witness:{fundingUtxo}" holderAmount counterpartyAmount io.now signingKey)
  orErr (if io.contractLoaded contractId then some () else none)
    s!"Contract {contractId} not found"
  withContext "Failed to create tokio runtime" io.runtime
  let call : SettleCall := ⟨contractId, s!"witness:{fundingUtxo}",
    channelWitness io.sha256 fundingUtxo "holder", holderAmount,
    channelWitness io.sha256 fundingUtxo "counterparty", counterpartyAmount,
    holderPubkey, pubkey, io.now, signature⟩
  withContext "F1r3node settle_channel call failed" (io.callMethod call)
  return call

/-- Wait for a thread; one that panicked counts as an error. -/
def joinThread {σ α : Type} (x : Fallible (Exit String) σ α) : Fallible (Exit String) σ α :=
  fun s => match x s with
    | .ok a t => .ok a t
    | .error (.err e) t => .error (.err e) t
    | .error (.panic ..) t => .error (.err "Thread join failed: Any \x7b .. \x7d") t

/-- The call the contract has carried out. -/
def settleChannelClose (io : SettleIo) (fundingUtxo : String)
    (holderAmount counterpartyAmount : Nat) (contractId : String) :
    Fallible (Exit String) File SettleCall :=
  joinThread do
    let (signingKey, holderPubkey) ← attempt (settleKeys io contractId)
    let pubkey ← counterpartyPubkey io contractId
    attempt (callSettle io fundingUtxo holderAmount counterpartyAmount contractId signingKey
      holderPubkey pubkey)

/-! ### Which key is registered -/

/-- The key the cache in a file has for a contract. -/
def filePubkey (f : File) (contractId : String) : Option String :=
  match f with
  | .doc state => cachedPubkey state contractId
  | _ => none

theorem readCache_of_ok {io : SettleIo} {contractId : String} {f : File} {pubkey : Option String}
    (h : readCache io contractId f = .ok pubkey) : pubkey = filePubkey f contractId := by
  unfold readCache at h
  split at h
  swap
  · rcases f with _ | _ | _ <;> simp_all [File.exists, filePubkey]
  split at h
  · rename_i state hread
    obtain ⟨rfl, -⟩ := File.read_eq_ok_iff.mp hread
    exact (Except.ok.inj h).symm
  · cases h
  · cases h

/-- The key comes from the cache, or it is fetched and kept. -/
theorem counterpartyPubkey_of_ok {io : SettleIo} {contractId pubkey : String} {f f' : File}
    (h : counterpartyPubkey io contractId f = .ok pubkey f') :
    filePubkey f contractId = some pubkey ∧ f' = f ∨
      filePubkey f contractId = none ∧ fetchPubkey io contractId = .ok pubkey ∧
        cachePubkey io contractId pubkey f = .ok () f' := by
  obtain ⟨_, _, h₁, h⟩ := bind_eq_ok_iff.mp h
  obtain ⟨rfl, rfl⟩ := EStateM.Result.ok.inj h₁
  obtain ⟨cached, _, h₁, h⟩ := bind_eq_ok_iff.mp h
  obtain ⟨hcache, rfl⟩ := attempt_eq_ok_iff.mp h₁
  rw [← readCache_of_ok hcache]
  rcases cached with _ | cached
  · obtain ⟨fetched, _, h₁, h⟩ := bind_eq_ok_iff.mp h
    obtain ⟨hfetch, rfl⟩ := attempt_eq_ok_iff.mp h₁
    obtain ⟨_, h₁, h⟩ := unit_bind_eq_ok_iff.mp h
    obtain ⟨rfl, rfl⟩ := EStateM.Result.ok.inj h
    exact .inr ⟨rfl, hfetch, h₁⟩
  · obtain ⟨rfl, rfl⟩ := EStateM.Result.ok.inj h
    exact .inl ⟨rfl, rfl⟩

theorem cachedPubkey_eq (state : Value) (contractId : String) :
    cachedPubkey state contractId =
      ((state.index "channel_counterparties").get? contractId).bind Value.asStr := by
  unfold cachedPubkey Value.index
  cases state.get? "channel_counterparties" <;> rfl

/-- Putting a key into the cache adds that key of that contract at most. -/
theorem cachedPubkey_putPubkey {state state' : Value} {contractId pubkey other k : String}
    (h : putPubkey state contractId pubkey = some state')
    (hk : cachedPubkey state' other = some k) :
    cachedPubkey state other = some k ∨ other = contractId ∧ k = pubkey := by
  simp only [putPubkey, bind, Option.bind_eq_some_iff] at h
  obtain ⟨base, hbase, cache, hcache, h⟩ := h
  have hindex : state'.index "channel_counterparties" = cache := by
    rw [Value.index, Value.get?_assign_self h, Option.getD_some]
  rw [cachedPubkey_eq, hindex] at hk
  by_cases hother : other = contractId
  · subst hother
    rw [Value.get?_assign_self hcache] at hk
    exact .inr ⟨rfl, (Option.some.inj hk : pubkey = k).symm⟩
  rw [Value.get?_assign_ne hother hcache, ← cachedPubkey_eq] at hk
  unfold withCache at hbase
  split at hbase
  · -- the cache has just been created, and is empty
    rw [cachedPubkey_eq, Value.index, Value.get?_assign_self hbase] at hk
    cases hk
  · obtain rfl := Option.some.inj hbase
    exact .inl hk

/-- Keeping a key adds that key of that contract to the file at most. -/
theorem filePubkey_after_cachePubkey {io : SettleIo} {contractId pubkey other k : String}
    {f : File} (hk : filePubkey (after (cachePubkey io contractId pubkey) f) other = some k) :
    filePubkey f other = some k ∨ other = contractId ∧ k = pubkey := by
  rw [cachePubkey, after_bind_of_ok (get_apply f)] at hk
  split at hk
  swap
  · exact .inl hk
  rcases hput : putPubkey (cacheBase io f) contractId pubkey with _ | state
  · rw [hput, after_bind_of_error (expect_none _ f)] at hk
    exact .inl hk
  rw [hput, after_bind_of_ok (expect_some state _ f)] at hk
  rcases hw : io.writeState with e | ⟨⟩ <;> simp only [hw] at hk
  · exact .inl hk
  refine (cachedPubkey_putPubkey hput hk).imp_left fun hbase => ?_
  unfold cacheBase at hbase
  split at hbase
  · rename_i v hread
    obtain ⟨rfl, -⟩ := File.read_eq_ok_iff.mp hread
    exact hbase
  · cases hbase

/-- Looking a key up adds a fetched key of that contract to the file at most. -/
theorem filePubkey_after_counterpartyPubkey {io : SettleIo} {contractId other k : String}
    {f : File} (hk : filePubkey (after (counterpartyPubkey io contractId) f) other = some k) :
    filePubkey f other = some k ∨ other = contractId ∧ fetchPubkey io contractId = .ok k := by
  rw [counterpartyPubkey, after_bind_of_ok (get_apply f)] at hk
  rcases hcache : readCache io contractId f with exit | _ | pubkey
  · rw [hcache, after_bind_of_error (attempt_error exit f)] at hk
    exact .inl hk
  · rw [hcache, after_bind_of_ok (attempt_ok _ f)] at hk
    rcases hfetch : fetchPubkey io contractId with exit | pubkey
    · rw [hfetch, after_bind_of_error (attempt_error exit f)] at hk
      exact .inl hk
    rw [hfetch, after_bind_of_ok (attempt_ok pubkey f)] at hk
    have hafter : after (cachePubkey io contractId pubkey >>= fun _ =>
        (pure pubkey : Fallible (Exit String) File String)) f =
          after (cachePubkey io contractId pubkey) f :=
      after_bind_attempt _ (fun _ => .ok pubkey) f
    rw [hafter] at hk
    exact (filePubkey_after_cachePubkey hk).imp_right fun ⟨ho, hkey⟩ => ⟨ho, by rw [hkey]⟩
  · rw [hcache, after_bind_of_ok (attempt_ok _ f)] at hk
    exact .inl hk

theorem callSettle_of_ok {io : SettleIo}
    {fundingUtxo contractId signingKey holderPubkey pubkey : String}
    {holderAmount counterpartyAmount : Nat} {call : SettleCall}
    (h : callSettle io fundingUtxo holderAmount counterpartyAmount contractId signingKey
      holderPubkey pubkey = .ok call) :
    call.contractId = contractId ∧ call.counterpartyPubKey = pubkey ∧
      call.holderWitness = channelWitness io.sha256 fundingUtxo "holder" ∧
      call.counterpartyWitness = channelWitness io.sha256 fundingUtxo "counterparty" := by
  obtain ⟨signature, _, h⟩ := except_bind_eq_ok_iff.mp h
  obtain ⟨_, _, h⟩ := except_bind_eq_ok_iff.mp h
  obtain ⟨_, _, h⟩ := except_bind_eq_ok_iff.mp h
  obtain ⟨_, _, h⟩ := except_bind_eq_ok_iff.mp h
  obtain rfl := Except.ok.inj h
  exact ⟨rfl, rfl, rfl, rfl⟩

theorem joinThread_eq_ok_iff {σ α : Type} {x : Fallible (Exit String) σ α} {s t : σ} {a : α} :
    joinThread x s = .ok a t ↔ x s = .ok a t := by
  unfold joinThread
  rcases x s with ⟨a, t⟩ | ⟨_ | _, t⟩ <;> simp

theorem after_joinThread {σ α : Type} (x : Fallible (Exit String) σ α) (s : σ) :
    after (joinThread x) s = after x s := by
  unfold after joinThread
  rcases x s with ⟨a, t⟩ | ⟨_ | _, t⟩ <;> rfl

/-- A settlement adds a fetched key of its contract to the file at most, also
when it fails. -/
theorem filePubkey_after_settleChannelClose {io : SettleIo}
    {fundingUtxo contractId other k : String} {holderAmount counterpartyAmount : Nat} {f : File}
    (hk : filePubkey (after (settleChannelClose io fundingUtxo holderAmount counterpartyAmount
      contractId) f) other = some k) :
    filePubkey f other = some k ∨ other = contractId ∧ fetchPubkey io contractId = .ok k := by
  rw [settleChannelClose, after_joinThread] at hk
  rcases after_attempt_bind (settleKeys io contractId) _ f with hstop | ⟨keys, -, hgo⟩
  · rw [hstop] at hk
    exact .inl hk
  · rw [hgo, after_bind_attempt] at hk
    exact filePubkey_after_counterpartyPubkey hk

/-- A settlement that is carried out registers the other side under the key
that the cache or the proxy has for the contract. -/
theorem settleChannelClose_of_ok {io : SettleIo} {fundingUtxo contractId : String}
    {holderAmount counterpartyAmount : Nat} {call : SettleCall} {f f' : File}
    (h : settleChannelClose io fundingUtxo holderAmount counterpartyAmount contractId f =
      .ok call f') :
    counterpartyPubkey io contractId f = .ok call.counterpartyPubKey f' ∧
      call.contractId = contractId ∧
      call.holderWitness = channelWitness io.sha256 fundingUtxo "holder" ∧
      call.counterpartyWitness = channelWitness io.sha256 fundingUtxo "counterparty" := by
  obtain ⟨_, _, h₁, h⟩ := bind_eq_ok_iff.mp (joinThread_eq_ok_iff.mp h)
  obtain ⟨-, rfl⟩ := attempt_eq_ok_iff.mp h₁
  obtain ⟨pubkey, _, h₁, h⟩ := bind_eq_ok_iff.mp h
  obtain ⟨hcall, rfl⟩ := attempt_eq_ok_iff.mp h
  obtain ⟨hcontract, rfl, hwitnesses⟩ := callSettle_of_ok hcall
  exact ⟨h₁, hcontract, hwitnesses⟩

end RgbLightningNode
