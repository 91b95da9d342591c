import RgbLightningNode.Lib.Ledger
import RgbLightningNode.Adapter.SendEnd
import RgbLightningNode.Adapter.Settlement
import RgbLightningNode.Routes.OpenChannel

/-!
# Balance and source

What the wallet reports as the balance of a contract is the sum over all its
outputs. What a transfer names as its source is the genesis UTXO of the
contract. This module has the two side by side, on the contract's own ledger.
-/

namespace RgbLightningNode

open Fallible SerdeJson

/-- The texts that name a witness, and no output of the wallet. -/
def IsWitness (place : String) : Prop := "witness:".toList <+: place.toList

instance : DecidablePred IsWitness := fun place =>
  inferInstanceAs (Decidable ("witness:".toList <+: place.toList))

theorem isWitness_witnessId (out : FundingOutput) : IsWitness out.witnessId := by
  simp [IsWitness, FundingOutput.witnessId, toString, String.toList_append]

theorem isWitness_channelWitness (sha256 : String → String) (fundingUtxo role : String) :
    IsWitness (channelWitness sha256 fundingUtxo role) := by
  simp [IsWitness, channelWitness, toString, String.toList_append]

/-- What the contracts manager knows of a contract. -/
structure ContractRecord where
  genesisTxid : String
  genesisVout : UInt32
  derivationIndex : Option Nat
  deriving DecidableEq

def ContractRecord.genesisUtxo (r : ContractRecord) : String :=
  s!"{r.genesisTxid}:{r.genesisVout.toNat}"

/-- The contracts a wallet knows, its keys and outputs, and for each contract
the ledger of places and public keys that the contract keeps. -/
structure TokenWallet where
  contracts : List (String × ContractRecord)
  /-- The public key of the child key at an index. -/
  childKey : Nat → String
  utxos : Finset String
  ledger : String → Ledger String String
  notWitness : ∀ u ∈ utxos, ¬IsWitness u

namespace TokenWallet

/-- The state file, as far as transfers read it. -/
def stateFile (w : TokenWallet) : Value :=
  .obj [("genesis_utxos", .obj (w.contracts.map fun c =>
    (c.1, .obj [("txid", .str c.2.genesisTxid), ("vout", .num c.2.genesisVout.toNat)])))]

/-- The wallet library's balance: the sum over the wallet's outputs. -/
def total (w : TokenWallet) (contractId : String) : Nat := (w.ledger contractId).total w.utxos

/-- The answers to a transfer: the contract carries it out when the signer owns
the source and the source holds the amount. -/
def sendEndIo (w : TokenWallet) (contractId : String) : SendEndIo where
  readDetails := .ok ()
  broadcast := .ok ()
  readState := .ok ()
  state := .doc w.stateFile
  contractsManager := true
  parseContractId := fun _ => .ok ()
  derivationIndex := fun c =>
    match (w.contracts.lookup c).bind ContractRecord.derivationIndex with
    | some index => .ok index
    | none => .error s!"no derivation index for {c}"
  childKey := fun index => .ok (w.childKey index)
  signature := fun _ _ _ => .ok ()
  contractLoaded := fun c => (w.contracts.lookup c).isSome
  transfer := fun t =>
    if ((w.ledger contractId).transfer t.toPubKey t.source t.target t.amount t.toPubKey).isSome
    then .ok () else .error "transfer refused"
  saveState := .ok ()
  locked := ⟨.ok (), .ok (), .ok ()⟩
  now := 0
  removeDetails := true

/-- The first output that is not an OP_RETURN, to which an on-chain send moves
the tokens. -/
def recipientVout (output : List TxOut) : Option Nat :=
  output.findIdx? fun out => !out.scriptPubkey.isOpReturn

/-- The transfer of an on-chain send. -/
def sendTokens (io : SendEndIo) (assetId : String) (rgbAmount : Nat) (tx : Transaction) :
    Except (Exit String) Transfer := do
  let vout ← orErr (recipientVout tx.output) "No recipient output found"
  transferTokens io ⟨assetId, rgbAmount⟩ ⟨tx.txid, vout⟩

/-- The source a transfer of the contract names holds the amount, and belongs to
the contract's derivation key. -/
def SourceHolds (w : TokenWallet) (contractId : String) (amount : Nat) : Prop :=
  ∃ source index, genesisSource w.stateFile contractId = .ok source ∧
    (w.contracts.lookup contractId).bind ContractRecord.derivationIndex = some index ∧
    (w.ledger contractId).owner source = some (w.childKey index) ∧
    amount ≤ (w.ledger contractId).amount source

/-- A place that the node can name as the source of a contract's tokens. -/
def SpendableAt (w : TokenWallet) (contractId place : String) : Prop :=
  ∃ r index, w.contracts.lookup contractId = some r ∧ r.genesisUtxo = place ∧
    r.derivationIndex = some index ∧
    (w.ledger contractId).owner place = some (w.childKey index)

variable {w : TokenWallet} {contractId : String} {amount : Nat}

/-! ### The named source -/

theorem lookup_map_snd {α β : Type} (f : α → β) (fields : List (String × α)) (key : String) :
    (fields.map fun c => (c.1, f c.2)).lookup key = (fields.lookup key).map f := by
  induction fields with
  | nil => rfl
  | cons c fields ih =>
    obtain ⟨k, a⟩ := c
    simp only [List.map_cons, List.lookup_cons, ih]
    cases key == k <;> rfl

theorem index_genesis_utxos (w : TokenWallet) (contractId : String) :
    (w.stateFile.index "genesis_utxos").index contractId =
      ((w.contracts.lookup contractId).map fun r =>
        .obj [("txid", .str r.genesisTxid), ("vout", .num r.genesisVout.toNat)]).getD .null := by
  have hmap := lookup_map_snd (fun r : ContractRecord =>
    Value.obj [("txid", .str r.genesisTxid), ("vout", .num r.genesisVout.toNat)]) w.contracts
      contractId
  rw [← hmap]
  rfl

/-- The named source is the genesis UTXO of the contract. -/
theorem genesisSource_eq_ok_iff {source : String} :
    genesisSource w.stateFile contractId = .ok source ↔
      ∃ r, w.contracts.lookup contractId = some r ∧ r.genesisUtxo = source := by
  rw [genesisSource, index_genesis_utxos]
  rcases w.contracts.lookup contractId with _ | r
  · simp [orErr, Value.asObject, bind, Except.bind]
  · have hvout : (r.genesisVout.toNat : Nat) < 2 ^ 64 := r.genesisVout.toNat_lt.trans (by decide)
    have hlookup : [("txid", Value.str r.genesisTxid), ("vout", .num r.genesisVout.toNat)].lookup
      "vout" = some (.num r.genesisVout.toNat) := rfl
    simp only [Option.map_some, Option.getD_some, Value.asObject, orErr, mapIndex, hlookup,
      List.lookup_cons_self, Value.asStr, Value.asU64, if_pos hvout, bind, Except.bind, pure,
      Except.pure, Except.ok.injEq, Option.some.injEq, exists_eq_left', ContractRecord.genesisUtxo]

theorem sourceHolds_iff : SourceHolds w contractId amount ↔
    ∃ place, SpendableAt w contractId place ∧ amount ≤ (w.ledger contractId).amount place := by
  constructor
  · rintro ⟨source, index, hsource, hindex, howner, hamount⟩
    obtain ⟨r, hr, hg⟩ := genesisSource_eq_ok_iff.mp hsource
    rw [hr] at hindex
    exact ⟨source, ⟨r, index, hr, hg, hindex, howner⟩, hamount⟩
  · rintro ⟨place, ⟨r, index, hr, hg, hindex, howner⟩, hamount⟩
    exact ⟨place, index, genesisSource_eq_ok_iff.mpr ⟨r, hr, hg⟩, by rw [hr]; exact hindex,
      howner, hamount⟩

/-- The contract carries a transfer out exactly when its source holds the amount
and belongs to the derivation key. -/
theorem transferTokens_eq_ok_iff {out : FundingOutput} {t : Transfer} :
    transferTokens (w.sendEndIo contractId) ⟨contractId, amount⟩ out = .ok t ↔
      ∃ r index, w.contracts.lookup contractId = some r ∧ r.derivationIndex = some index ∧
        t = ⟨r.genesisUtxo, out.witnessId, amount, w.childKey index⟩ ∧
        (w.ledger contractId).owner r.genesisUtxo = some (w.childKey index) ∧
        amount ≤ (w.ledger contractId).amount r.genesisUtxo := by
  have hread : readJson "f1r3fly_state.json" (w.sendEndIo contractId).readState
      (w.sendEndIo contractId).state = .ok w.stateFile := rfl
  rw [transferTokens, hread, except_bind_eq_ok_iff]
  constructor
  · rintro ⟨_, hstate, h⟩
    obtain rfl := Except.ok.inj hstate
    obtain ⟨source, hsource, h⟩ := except_bind_eq_ok_iff.mp h
    obtain ⟨r, hr, rfl⟩ := genesisSource_eq_ok_iff.mp hsource
    obtain ⟨_, _, h⟩ := except_bind_eq_ok_iff.mp h
    obtain ⟨_, _, h⟩ := except_bind_eq_ok_iff.mp h
    obtain ⟨index, hindex, h⟩ := except_bind_eq_ok_iff.mp h
    obtain ⟨key, hkey, h⟩ := except_bind_eq_ok_iff.mp h
    obtain ⟨_, _, h⟩ := except_bind_eq_ok_iff.mp h
    obtain ⟨_, _, h⟩ := except_bind_eq_ok_iff.mp h
    obtain ⟨_, hcall, h⟩ := except_bind_eq_ok_iff.mp h
    obtain rfl := Except.ok.inj h
    obtain rfl := Except.ok.inj (withContext_eq_ok_iff.mp hkey)
    have hindex := withContext_eq_ok_iff.mp hindex
    have hcall := withContext_eq_ok_iff.mp hcall
    simp only [sendEndIo, hr, Option.bind_some] at hindex hcall
    split at hindex
    swap
    · cases hindex
    rename_i i hi
    obtain rfl := Except.ok.inj hindex
    split at hcall
    swap
    · cases hcall
    rename_i hsome
    obtain ⟨howner, hamount⟩ := Ledger.transfer_isSome_iff.mp hsome
    exact ⟨r, i, hr, hi, rfl, howner, hamount⟩
  · rintro ⟨r, index, hr, hindex, rfl, howner, hamount⟩
    have hsource := genesisSource_eq_ok_iff.mpr ⟨r, hr, rfl⟩
    have hcall : ((w.ledger contractId).transfer (w.childKey index) r.genesisUtxo out.witnessId
        amount (w.childKey index)).isSome := Ledger.transfer_isSome_iff.mpr ⟨howner, hamount⟩
    refine ⟨w.stateFile, rfl, ?_⟩
    rw [hsource]
    simp [sendEndIo, orErr, withContext, hr, hindex, hcall, bind, Except.bind, pure, Except.pure]

/-- An on-chain send moves tokens to a witness, as a funding does. -/
theorem sendTokens_of_ok {io : SendEndIo} {tx : Transaction} {t : Transfer}
    (h : sendTokens io contractId amount tx = .ok t) :
    ∃ out, transferTokens io ⟨contractId, amount⟩ out = .ok t := by
  obtain ⟨vout, _, h⟩ := except_bind_eq_ok_iff.mp h
  exact ⟨⟨tx.txid, vout⟩, h⟩

end TokenWallet

end RgbLightningNode
