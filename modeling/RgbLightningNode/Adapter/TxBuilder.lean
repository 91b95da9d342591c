import RgbLightningNode.Lib.Text
import RgbLightningNode.Adapter.Files
import RgbLightningNode.Utils

/-!
# Building transactions

Four operations of the adapter have the wallet build a transaction. Each first
declares the outputs that carry tokens as unspendable, from a list of texts the
contract layer gives. Three of them stop at a text that is no outpoint; the one
that creates outputs goes past it.
-/

namespace RgbLightningNode

open Fallible

structure ScriptBuf where
  bytes : List UInt8
  deriving DecidableEq

namespace ScriptBuf

def isOpReturn (script : ScriptBuf) : Bool := script.bytes.head? = some 0x6a

/-- The script that carries some bytes and cannot be spent. -/
def newOpReturn (data : List UInt8) : ScriptBuf :=
  ⟨0x6a :: UInt8.ofNat data.length :: data⟩

@[simp] theorem isOpReturn_newOpReturn (data : List UInt8) :
    (newOpReturn data).isOpReturn = true := by
  simp [isOpReturn, newOpReturn]

end ScriptBuf

structure TxOut where
  value : Nat
  scriptPubkey : ScriptBuf
  deriving DecidableEq

/-- An output of another transaction, on the side of Bitcoin. -/
structure BitcoinOutPoint (Txid : Type) where
  txid : Txid
  vout : Nat
  deriving DecidableEq

/-- An unsigned transaction: what it spends, and its outputs. -/
structure Psbt (Txid : Type) where
  input : List (BitcoinOutPoint Txid)
  output : List TxOut

/-- What the wallet is asked to build. -/
structure TxRequest (Txid : Type) where
  recipients : List (ScriptBuf × Nat)
  feeRate : Nat
  unspendable : List (BitcoinOutPoint Txid)

/-- Why the text of an address is not one of the wallet's network. -/
inductive AddressError where
  | invalid (e : String)
  | networkMismatch (e : String)

def AddressError.text : AddressError → String
  | invalid e => s!"Invalid address: {e}"
  | networkMismatch e => s!"Address network mismatch: {e}"

/-- What the wallet library and the Bitcoin library answer while a transaction is built. -/
structure BuilderIo (Txid : Type) where
  walletLoaded : Bool
  address : String → Except AddressError ScriptBuf
  occupiedUtxos : Except String (List String)
  stateHash : String → Except String (List UInt8)
  parseTxid : List Char → Except String Txid
  /-- The Bitcoin library's own reading of an outpoint. -/
  parseOutPoint : String → Except String (BitcoinOutPoint Txid)
  /-- The scripts of the addresses that are revealed one after the other. -/
  nextAddress : Nat → ScriptBuf
  finish : TxRequest Txid → Except String (Psbt Txid)

namespace BuilderIo

variable {Txid : Type} (io : BuilderIo Txid)

/-- The outpoint a text names: a transaction id and an index with a colon between them. -/
def named (text : String) : Option (BitcoinOutPoint Txid) :=
  match Text.splitOn ':' text.toList with
  | [txid, vout] => do
    let txid ← (io.parseTxid txid).toOption
    let vout ← (parseU32 vout).toOption
    return ⟨txid, vout⟩
  | _ => none

/-- The library reads no text as another outpoint than it names, and the wallet
does not spend what was declared unspendable. -/
structure Lawful : Prop where
  named_of_parseOutPoint : ∀ text o, io.parseOutPoint text = .ok o → io.named text = some o
  unspendable : ∀ request psbt, io.finish request = .ok psbt →
    ∀ o ∈ request.unspendable, o ∉ psbt.input

/-! ### The loops over the occupied outputs -/

/-- The loop of the operations that send. -/
def unspendable : List String → Except (Exit String) (List (BitcoinOutPoint Txid))
  | [] => .ok []
  | outpoint :: occupied => do
    let o ← withContext s!"Invalid outpoint {outpoint}" (io.parseOutPoint outpoint)
    let rest ← unspendable occupied
    return o :: rest

/-- The loop of the operation that creates outputs. -/
def unspendableOfParts : List String → Except (Exit String) (List (BitcoinOutPoint Txid))
  | [] => .ok []
  | outpoint :: occupied =>
    match Text.splitOn ':' outpoint.toList with
    | [txid, vout] => do
      let txid ← withContext s!"Invalid txid in {outpoint}" (io.parseTxid txid)
      let vout ← withContext s!"Invalid vout in {outpoint}" (parseU32 vout)
      let rest ← unspendableOfParts occupied
      return ⟨txid, vout⟩ :: rest
    -- skipped, with a warning
    | _ => unspendableOfParts occupied

/-! ### The transactions -/

/-- The script of an address of the wallet's network. -/
def recipientScript (address : String) : Except (Exit String) ScriptBuf :=
  (io.address address).mapError fun e => .err e.text

/-- The transaction that creates outputs. -/
def splitTx (count amountPerUtxo feeRate : Nat) : Except (Exit String) (Psbt Txid) := do
  let occupied ← withContext "Failed to get occupied UTXOs" io.occupiedUtxos
  orErr (if io.walletLoaded then some () else none) "Bitcoin wallet not loaded"
  let unspendable ← io.unspendableOfParts occupied
  let recipients := (List.range count).map fun i => (io.nextAddress i, amountPerUtxo)
  withContext "Failed to build split transaction" (io.finish ⟨recipients, feeRate, unspendable⟩)

/-- A transaction with one recipient that spends no occupied output. -/
def recipientTx (script : ScriptBuf) (amount feeRate : Nat) (occupied : List String) :
    Except (Exit String) (Psbt Txid) := do
  let unspendable ← io.unspendable occupied
  withContext "Failed to build PSBT" (io.finish ⟨[(script, amount)], feeRate, unspendable⟩)

/-- A transaction for a contract, before the state hash is put behind its outputs. -/
structure ContractTx (Txid : Type) where
  script : ScriptBuf
  built : Psbt Txid
  stateHash : List UInt8

/-- With the state hash in an OP_RETURN. -/
def ContractTx.psbt {Txid : Type} (tx : ContractTx Txid) : Psbt Txid :=
  { tx.built with output := tx.built.output ++ [⟨0, .newOpReturn tx.stateHash⟩] }

def contractTx (assetId address : String) (amount feeRate : Nat) :
    Except (Exit String) (ContractTx Txid) := do
  orErr (if io.walletLoaded then some () else none) "Wallet not loaded"
  let script ← io.recipientScript address
  let occupied ← withContext "Failed to get occupied UTXOs" io.occupiedUtxos
  let stateHash ← withContext "Failed to get state hash" (io.stateHash assetId)
  let built ← io.recipientTx script amount feeRate occupied
  return ⟨script, built, stateHash⟩

/-- The transaction of an on-chain send. -/
def sendTx (assetId recipientId : String) (feeRate : Nat) :
    Except (Exit String) (ContractTx Txid) :=
  io.contractTx assetId recipientId 546 feeRate

/-- The funding transaction of a plain channel. -/
def sendBtcBegin (address : String) (amount feeRate : Nat) : Except (Exit String) (Psbt Txid) := do
  orErr (if io.walletLoaded then some () else none) "Wallet not loaded"
  let script ← io.recipientScript address
  let occupied ← withContext "Failed to get occupied UTXOs" io.occupiedUtxos
  io.recipientTx script amount feeRate occupied

/-! ### Creating outputs -/

/-- The answers to the steps around the building of the transaction. -/
structure CreateUtxosIo (Txid : Type) where
  syncWallet : Except String Unit
  sign : Psbt Txid → Except String Unit
  extractTx : Psbt Txid → Except String Unit
  esploraClient : Except String Unit
  broadcast : Psbt Txid → Except String Unit
  persist : Except String Unit
  syncAfter : Except String Unit

/-- The state is what has been broadcast. -/
def createUtxos (steps : CreateUtxosIo Txid) (num size : Option Nat) (feeRate : Nat)
    (skipSync : Bool) : Fallible (Exit String) (List (Psbt Txid)) Nat := do
  let count := num.getD 1
  let amountPerUtxo := size.getD 1000
  attempt (if skipSync then .ok () else withContext "Sync failed" steps.syncWallet)
  let psbt ← attempt (io.splitTx count amountPerUtxo feeRate)
  attempt (withContext "Failed to sign transaction" (steps.sign psbt))
  attempt (withContext "Failed to extract transaction" (steps.extractTx psbt))
  attempt (withContext "Failed to create Esplora client" steps.esploraClient)
  attempt (withContext "Failed to broadcast transaction" (steps.broadcast psbt))
  modify fun broadcasts => broadcasts ++ [psbt]
  attempt (withContext "Failed to persist wallet" steps.persist)
  attempt (withContext "Sync after createutxos failed" steps.syncAfter)
  return count

/-! ### The results of the loops -/

variable {io} {occupied : List String} {unspendable : List (BitcoinOutPoint Txid)}

/-- Two parts with a colon between them. -/
def IsPair (text : String) : Prop := (Text.splitOn ':' text.toList).length = 2

instance : DecidablePred IsPair := fun text =>
  inferInstanceAs (Decidable ((Text.splitOn ':' text.toList).length = 2))

theorem isPair_of_named {text : String} {o : BitcoinOutPoint Txid} (h : io.named text = some o) :
    IsPair text := by
  rw [named] at h
  rw [IsPair]
  split at h
  · rename_i hparts
    rw [hparts]
    rfl
  · cases h

/-- The outpoint the library reads. -/
def parsed? (io : BuilderIo Txid) (text : String) : Option (BitcoinOutPoint Txid) :=
  (io.parseOutPoint text).toOption

/-- The loop of the sends declares all that is read unspendable, and fails at
anything else. -/
theorem unspendable_eq_ok_iff :
    io.unspendable occupied = .ok unspendable ↔
      (∀ text ∈ occupied, ∃ o, io.parseOutPoint text = .ok o) ∧
        unspendable = occupied.filterMap io.parsed? := by
  induction occupied generalizing unspendable with
  | nil =>
    constructor
    · intro h
      exact ⟨fun _ hmem => absurd hmem List.not_mem_nil, (Except.ok.inj h).symm⟩
    · rintro ⟨-, rfl⟩
      rfl
  | cons outpoint occupied ih =>
    rw [List.forall_mem_cons, BuilderIo.unspendable]
    simp only [except_bind_eq_ok_iff, withContext_eq_ok_iff, ih]
    constructor
    · rintro ⟨o, ho, _, ⟨hall, rfl⟩, heq⟩
      obtain rfl := Except.ok.inj heq
      have hparsed : io.parsed? outpoint = some o := except_toOption_eq_some_iff.mpr ho
      exact ⟨⟨⟨o, ho⟩, hall⟩, (List.filterMap_cons_some hparsed).symm⟩
    · rintro ⟨⟨⟨o, ho⟩, hall⟩, rfl⟩
      have hparsed : io.parsed? outpoint = some o := except_toOption_eq_some_iff.mpr ho
      refine ⟨o, ho, _, ⟨hall, rfl⟩, ?_⟩
      rw [List.filterMap_cons_some hparsed]
      rfl

/-- What passes it is named, and declared unspendable. -/
theorem unspendable_of_ok (hlaw : io.Lawful) (h : io.unspendable occupied = .ok unspendable) :
    ∀ text ∈ occupied, ∃ o ∈ unspendable, io.named text = some o := by
  obtain ⟨hall, rfl⟩ := unspendable_eq_ok_iff.mp h
  intro text hmem
  obtain ⟨o, ho⟩ := hall text hmem
  exact ⟨o, List.mem_filterMap.mpr ⟨text, hmem, except_toOption_eq_some_iff.mpr ho⟩,
    hlaw.named_of_parseOutPoint text o ho⟩

theorem named_eq_some_iff_of_pair {text : String} {txid vout : List Char}
    {o : BitcoinOutPoint Txid} (h : Text.splitOn ':' text.toList = [txid, vout]) :
    io.named text = some o ↔
      ∃ t v, io.parseTxid txid = .ok t ∧ parseU32 vout = .ok v ∧ o = ⟨t, v⟩ := by
  rw [named, h]
  change ((io.parseTxid txid).toOption.bind fun t =>
    (parseU32 vout).toOption.bind fun v => some ⟨t, v⟩) = some o ↔ _
  simp only [Option.bind_eq_some_iff, except_toOption_eq_some_iff, Option.some.injEq]
  constructor
  · rintro ⟨t, ht, v, hv, rfl⟩
    exact ⟨t, v, ht, hv, rfl⟩
  · rintro ⟨t, v, ht, hv, rfl⟩
    exact ⟨t, ht, v, hv, rfl⟩

/-- One turn of the other loop, at a pair. -/
theorem unspendableOfParts_cons_of_pair {outpoint : String} {txid vout : List Char}
    (h : Text.splitOn ':' outpoint.toList = [txid, vout]) :
    io.unspendableOfParts (outpoint :: occupied) = .ok unspendable ↔
      ∃ o rest, io.named outpoint = some o ∧ io.unspendableOfParts occupied = .ok rest ∧
        unspendable = o :: rest := by
  rw [unspendableOfParts, h]
  simp only [except_bind_eq_ok_iff, withContext_eq_ok_iff, named_eq_some_iff_of_pair h]
  constructor
  · rintro ⟨t, ht, v, hv, rest, hrest, heq⟩
    exact ⟨⟨t, v⟩, rest, ⟨t, v, ht, hv, rfl⟩, hrest, (Except.ok.inj heq).symm⟩
  · rintro ⟨o, rest, ⟨t, v, ht, hv, rfl⟩, hrest, rfl⟩
    exact ⟨t, ht, v, hv, rest, hrest, rfl⟩

/-- Anything else is passed over. -/
theorem unspendableOfParts_cons_of_not_pair {outpoint : String} (h : ¬IsPair outpoint) :
    io.unspendableOfParts (outpoint :: occupied) = io.unspendableOfParts occupied := by
  rw [unspendableOfParts]
  split
  · rename_i hparts
    rw [IsPair, hparts] at h
    exact absurd rfl h
  · rfl

theorem exists_parts_of_isPair {text : String} (h : IsPair text) :
    ∃ txid vout, Text.splitOn ':' text.toList = [txid, vout] :=
  List.length_eq_two.mp h

/-- The other loop declares what is named unspendable, and fails only at a pair
that names nothing. -/
theorem unspendableOfParts_eq_ok_iff :
    io.unspendableOfParts occupied = .ok unspendable ↔
      (∀ text ∈ occupied, IsPair text → (io.named text).isSome) ∧
        unspendable = occupied.filterMap io.named := by
  induction occupied generalizing unspendable with
  | nil =>
    constructor
    · intro h
      exact ⟨fun _ hmem => absurd hmem List.not_mem_nil, (Except.ok.inj h).symm⟩
    · rintro ⟨-, rfl⟩
      rfl
  | cons outpoint occupied ih =>
    rw [List.forall_mem_cons]
    by_cases hpair : IsPair outpoint
    · obtain ⟨txid, vout, hparts⟩ := exists_parts_of_isPair hpair
      rw [unspendableOfParts_cons_of_pair hparts]
      constructor
      · rintro ⟨o, rest, hnamed, hrest, rfl⟩
        obtain ⟨hall, rfl⟩ := ih.mp hrest
        exact ⟨⟨fun _ => by rw [hnamed]; rfl, hall⟩, (List.filterMap_cons_some hnamed).symm⟩
      · rintro ⟨⟨hsome, hall⟩, rfl⟩
        obtain ⟨o, hnamed⟩ := Option.isSome_iff_exists.mp (hsome hpair)
        exact ⟨o, _, hnamed, ih.mpr ⟨hall, rfl⟩, List.filterMap_cons_some hnamed⟩
    · have hnone : io.named outpoint = none := by
        by_contra hsome
        obtain ⟨o, hnamed⟩ := Option.ne_none_iff_exists'.mp hsome
        exact hpair (isPair_of_named hnamed)
      rw [unspendableOfParts_cons_of_not_pair hpair, ih, List.filterMap_cons_none hnone]
      exact ⟨fun ⟨hall, heq⟩ => ⟨⟨fun h => absurd h hpair, hall⟩, heq⟩,
        fun ⟨⟨_, hall⟩, heq⟩ => ⟨hall, heq⟩⟩

/-! ### What is built -/

/-- A transaction spends nothing that the list names, and the list names
something at each of its places. -/
def Spares (io : BuilderIo Txid) (occupied : List String) (psbt : Psbt Txid) : Prop :=
  ∀ text ∈ occupied, ∃ o, io.named text = some o ∧ o ∉ psbt.input

theorem recipientTx_eq_ok_iff {script : ScriptBuf} {amount feeRate : Nat} {psbt : Psbt Txid} :
    io.recipientTx script amount feeRate occupied = .ok psbt ↔
      (∀ text ∈ occupied, ∃ o, io.parseOutPoint text = .ok o) ∧
        io.finish ⟨[(script, amount)], feeRate, occupied.filterMap io.parsed?⟩ = .ok psbt := by
  rw [recipientTx]
  simp only [except_bind_eq_ok_iff, withContext_eq_ok_iff, unspendable_eq_ok_iff]
  constructor
  · rintro ⟨_, ⟨hall, rfl⟩, hfinish⟩
    exact ⟨hall, hfinish⟩
  · rintro ⟨hall, hfinish⟩
    exact ⟨_, ⟨hall, rfl⟩, hfinish⟩

theorem spares_of_recipientTx (hlaw : io.Lawful) {script : ScriptBuf} {amount feeRate : Nat}
    {psbt : Psbt Txid} (h : io.recipientTx script amount feeRate occupied = .ok psbt) :
    io.Spares occupied psbt := by
  obtain ⟨unspendable, hloop, h⟩ := except_bind_eq_ok_iff.mp h
  intro text hmem
  obtain ⟨o, ho, hnamed⟩ := unspendable_of_ok hlaw hloop text hmem
  exact ⟨o, hnamed, hlaw.unspendable _ psbt (withContext_eq_ok_iff.mp h) o ho⟩

/-- The wallet builds this transaction to pay an address: it is loaded, parses the
address, lists the occupied outputs as outpoints, and can pay from the others. -/
def Builds (io : BuilderIo Txid) (address : String) (amount feeRate : Nat) (psbt : Psbt Txid) :
    Prop :=
  io.walletLoaded = true ∧ ∃ script occupied, io.address address = .ok script ∧
    io.occupiedUtxos = .ok occupied ∧ io.recipientTx script amount feeRate occupied = .ok psbt

theorem spares_of_builds (hlaw : io.Lawful) (hoccupied : io.occupiedUtxos = .ok occupied)
    {address : String} {amount feeRate : Nat} {psbt : Psbt Txid}
    (h : io.Builds address amount feeRate psbt) : io.Spares occupied psbt := by
  obtain ⟨-, script, occupied', -, hoccupied', hbuilt⟩ := h
  obtain rfl := Except.ok.inj (hoccupied.symm.trans hoccupied')
  exact spares_of_recipientTx hlaw hbuilt

theorem sendBtcBegin_eq_ok_iff {address : String} {amount feeRate : Nat} {psbt : Psbt Txid} :
    io.sendBtcBegin address amount feeRate = .ok psbt ↔ io.Builds address amount feeRate psbt := by
  rw [sendBtcBegin, recipientScript, Builds]
  simp only [except_bind_eq_ok_iff, orErr_loaded_eq_ok_iff, except_mapError_eq_ok_iff,
    withContext_eq_ok_iff]
  constructor
  · rintro ⟨_, hloaded, script, hscript, occupied, hoccupied, hbuilt⟩
    exact ⟨hloaded, script, occupied, hscript, hoccupied, hbuilt⟩
  · rintro ⟨hloaded, script, occupied, hscript, hoccupied, hbuilt⟩
    exact ⟨(), hloaded, script, hscript, occupied, hoccupied, hbuilt⟩

theorem contractTx_of_ok {assetId address : String} {amount feeRate : Nat}
    {tx : ContractTx Txid} (h : io.contractTx assetId address amount feeRate = .ok tx) :
    ∃ occupied, io.address address = .ok tx.script ∧ io.occupiedUtxos = .ok occupied ∧
      io.stateHash assetId = .ok tx.stateHash ∧
      io.recipientTx tx.script amount feeRate occupied = .ok tx.built := by
  obtain ⟨_, _, h⟩ := except_bind_eq_ok_iff.mp h
  obtain ⟨script, hscript, h⟩ := except_bind_eq_ok_iff.mp h
  obtain ⟨occupied, hoccupied, h⟩ := except_bind_eq_ok_iff.mp h
  obtain ⟨hash, hhash, h⟩ := except_bind_eq_ok_iff.mp h
  obtain ⟨built, hbuilt, h⟩ := except_bind_eq_ok_iff.mp h
  obtain rfl := Except.ok.inj h
  exact ⟨occupied, except_mapError_eq_ok_iff.mp hscript, withContext_eq_ok_iff.mp hoccupied,
    withContext_eq_ok_iff.mp hhash, hbuilt⟩

/-- A transaction for a contract is one that pays the address, with the state hash
behind its outputs. -/
theorem exists_contractTx_iff {assetId address : String} {amount feeRate : Nat}
    {psbt : Psbt Txid} :
    (∃ tx, io.contractTx assetId address amount feeRate = .ok tx ∧ tx.psbt = psbt) ↔
      ∃ built stateHash, io.Builds address amount feeRate built ∧
        io.stateHash assetId = .ok stateHash ∧
        { built with output := built.output ++ [⟨0, .newOpReturn stateHash⟩] } = psbt := by
  simp only [contractTx, except_bind_eq_ok_iff, orErr_loaded_eq_ok_iff, recipientScript,
    except_mapError_eq_ok_iff, withContext_eq_ok_iff]
  constructor
  · rintro ⟨_, ⟨_, hloaded, script, hscript, occupied, hoccupied, hash, hhash, built, hbuilt, heq⟩,
      rfl⟩
    obtain rfl := Except.ok.inj heq
    exact ⟨built, hash, ⟨hloaded, script, occupied, hscript, hoccupied, hbuilt⟩, hhash, rfl⟩
  · rintro ⟨built, hash, ⟨hloaded, script, occupied, hscript, hoccupied, hbuilt⟩, hhash, rfl⟩
    exact ⟨⟨script, built, hash⟩,
      ⟨(), hloaded, script, hscript, occupied, hoccupied, hash, hhash, built, hbuilt, rfl⟩, rfl⟩

theorem splitTx_eq_ok_iff {count amountPerUtxo feeRate : Nat} {psbt : Psbt Txid} :
    io.splitTx count amountPerUtxo feeRate = .ok psbt ↔
      ∃ occupied, io.occupiedUtxos = .ok occupied ∧ io.walletLoaded = true ∧
        (∀ text ∈ occupied, IsPair text → (io.named text).isSome) ∧
        io.finish ⟨(List.range count).map fun i => (io.nextAddress i, amountPerUtxo), feeRate,
          occupied.filterMap io.named⟩ = .ok psbt := by
  rw [splitTx]
  simp only [except_bind_eq_ok_iff, withContext_eq_ok_iff, orErr_loaded_eq_ok_iff,
    unspendableOfParts_eq_ok_iff]
  constructor
  · rintro ⟨occupied, hoccupied, _, hloaded, _, ⟨hall, rfl⟩, hfinish⟩
    exact ⟨occupied, hoccupied, hloaded, hall, hfinish⟩
  · rintro ⟨occupied, hoccupied, hloaded, hall, hfinish⟩
    exact ⟨occupied, hoccupied, (), hloaded, _, ⟨hall, rfl⟩, hfinish⟩

/-- What has been broadcast when outputs were created was built for it. -/
theorem createUtxos_of_ok {steps : CreateUtxosIo Txid} {num size : Option Nat} {feeRate : Nat}
    {skipSync : Bool} {w w' : List (Psbt Txid)} {count : Nat}
    (h : io.createUtxos steps num size feeRate skipSync w = .ok count w') :
    ∃ psbt, io.splitTx (num.getD 1) (size.getD 1000) feeRate = .ok psbt ∧ w' = w ++ [psbt] := by
  obtain ⟨_, _, h⟩ := attempt_bind_eq_ok_iff.mp h
  obtain ⟨psbt, hpsbt, h⟩ := attempt_bind_eq_ok_iff.mp h
  obtain ⟨_, _, h⟩ := attempt_bind_eq_ok_iff.mp h
  obtain ⟨_, _, h⟩ := attempt_bind_eq_ok_iff.mp h
  obtain ⟨_, _, h⟩ := attempt_bind_eq_ok_iff.mp h
  obtain ⟨_, _, h⟩ := attempt_bind_eq_ok_iff.mp h
  rw [bind_of_ok (modify_apply _ w)] at h
  obtain ⟨_, _, h⟩ := attempt_bind_eq_ok_iff.mp h
  obtain ⟨_, _, h⟩ := attempt_bind_eq_ok_iff.mp h
  exact ⟨psbt, hpsbt, (EStateM.Result.ok.inj h).2.symm⟩

end BuilderIo

/-! ### A wallet with one output -/

/-- The outputs of a transaction with change, before or behind the others. -/
def withChange (changeFirst : Bool) (recipients : List TxOut) : List TxOut :=
  if changeFirst then ⟨9000, ⟨[0, 20, 3]⟩⟩ :: recipients
  else recipients ++ [⟨9000, ⟨[0, 20, 3]⟩⟩]

/-- The transaction `aa` is number 170. -/
def readTxid (text : List Char) : Except String Nat :=
  if text = ['a', 'a'] then .ok 170 else .error "bad hex string"

def readOutPoint (text : String) : Except String (BitcoinOutPoint Nat) :=
  match Text.splitOn ':' text.toList with
  | [txid, vout] => do
    let txid ← readTxid txid
    let vout ← parseU32 vout
    return ⟨txid, vout⟩
  | _ => .error "OutPoint not in <txid>:<vout> format"

/-- It spends its output when it may. -/
def oneOutput (changeFirst : Bool) (occupied : List String) : BuilderIo Nat where
  walletLoaded := true
  address _ := .ok ⟨[0, 20, 1]⟩
  occupiedUtxos := .ok occupied
  stateHash _ := .ok [7]
  parseTxid := readTxid
  parseOutPoint := readOutPoint
  nextAddress _ := ⟨[0, 20, 2]⟩
  finish request :=
    if ⟨170, 1⟩ ∈ request.unspendable then .error "Insufficient funds"
    else .ok ⟨[⟨170, 1⟩], withChange changeFirst (request.recipients.map fun r => ⟨r.2, r.1⟩)⟩

theorem lawful_oneOutput (changeFirst : Bool) (occupied : List String) :
    (oneOutput changeFirst occupied).Lawful where
  named_of_parseOutPoint text o h := by
    change readOutPoint text = .ok o at h
    unfold readOutPoint at h
    split at h
    · rename_i txid vout hparts
      obtain ⟨t, ht, h⟩ := except_bind_eq_ok_iff.mp h
      obtain ⟨v, hv, h⟩ := except_bind_eq_ok_iff.mp h
      exact (BuilderIo.named_eq_some_iff_of_pair hparts).mpr
        ⟨t, v, ht, hv, (Except.ok.inj h).symm⟩
    · cases h
  unspendable request psbt h o ho hinput := by
    rw [oneOutput] at h
    dsimp only at h
    split_ifs at h with hspendable
    obtain rfl := Except.ok.inj h
    obtain rfl := List.mem_singleton.mp hinput
    exact hspendable ho

end RgbLightningNode
