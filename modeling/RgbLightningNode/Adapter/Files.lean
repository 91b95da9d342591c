import RgbLightningNode.Lib.Fallible
import RgbLightningNode.Lib.SerdeJson
import RgbLightningNode.Types

/-!
# The wallet adapter's files

The transfer details a coloured funding leaves for its completion, the state
file of the contracts manager as far as the adapter reads it, and the list of
outputs that are locked in channels.
-/

namespace RgbLightningNode

open Fallible SerdeJson

/-- The value of an option, or an error with this text. -/
def orErr {α : Type} (x : Option α) (text : String) : Except (Exit String) α :=
  match x with
  | some a => .ok a
  | none => .error (.err text)

/-- A result whose error is put into a longer text. -/
def withContext {α : Type} (context : String) (x : Except String α) : Except (Exit String) α :=
  match x with
  | .ok a => .ok a
  | .error e => .error (.err s!"{context}: {e}")

theorem orErr_eq_ok_iff {α : Type} {x : Option α} {text : String} {a : α} :
    orErr x text = .ok a ↔ x = some a := by
  cases x <;> simp [orErr]

theorem withContext_eq_ok_iff {α : Type} {context : String} {x : Except String α} {a : α} :
    withContext context x = .ok a ↔ x = .ok a := by
  cases x <;> simp [withContext]

theorem orErr_loaded_eq_ok_iff {loaded : Bool} {text : String} {u : Unit} :
    orErr (if loaded then some () else none) text = .ok u ↔ loaded = true := by
  cases loaded <;> simp [orErr]

theorem failsOnly_orErr {α : Type} (x : Option α) (text : String) :
    FailsOnly Exit.answers (orErr x text) := by
  cases x with
  | none => exact FailsOnly.error_iff.mpr trivial
  | some a => exact FailsOnly.ok a

theorem failsOnly_withContext {α : Type} (context : String) (x : Except String α) :
    FailsOnly Exit.answers (withContext context x) := by
  cases x with
  | error e => exact FailsOnly.error_iff.mpr trivial
  | ok a => exact FailsOnly.ok a

/-- Read and parse a file that is called `name` in the errors. -/
def readJson (name : String) (io : Except String Unit) (f : File) :
    Except (Exit String) Value :=
  match f.read io with
  | .ok v => .ok v
  | .error (.inl e) => .error (.err s!"Failed to read {name}: {e}")
  | .error (.inr e) => .error (.err s!"Failed to parse {name}: {e}")

/-- Indexing a map panics when the key is not there. -/
def mapIndex (fields : List (String × Value)) (key : String) : Except (Exit String) Value :=
  match fields.lookup key with
  | some v => .ok v
  | none => .error (.panic (some .walletManager) "no entry found for key")

/-- The genesis UTXO of a contract, the source of every transfer. -/
def genesisSource (state : Value) (contractId : String) : Except (Exit String) String := do
  let genesisUtxoData ← orErr ((state.index "genesis_utxos").index contractId).asObject
    s!"Contract {contractId} not found in genesis_utxos"
  let txid ← mapIndex genesisUtxoData "txid"
  let genesisTxid ← orErr txid.asStr "Missing txid in genesis UTXO"
  let vout ← mapIndex genesisUtxoData "vout"
  let genesisVout ← orErr vout.asU64 "Missing vout in genesis UTXO"
  return s!"{genesisTxid}:{genesisVout}"

/-- What a coloured funding moves. -/
structure TransferDetails where
  contractId : String
  rgbAmount : Nat
  deriving DecidableEq

def readTransferDetails (io : Except String Unit) (f : File) :
    Except (Exit String) TransferDetails := do
  let details ← readJson "transfer details" io f
  let contractId ← orErr (details.index "contract_id").asStr
    "Missing contract_id in transfer details"
  let rgbAmount ← orErr (details.index "rgb_amount").asU64
    "Missing rgb_amount in transfer details"
  return ⟨contractId, rgbAmount⟩

/-- Details that are read come from a file the system has read. -/
theorem readTransferDetails_io {io : Except String Unit} {f : File} {details : TransferDetails}
    (h : readTransferDetails io f = .ok details) : io = .ok () := by
  obtain ⟨v, hv, -⟩ := except_bind_eq_ok_iff.mp h
  unfold readJson at hv
  split at hv
  · rename_i hread
    exact (File.read_eq_ok_iff.mp hread).2
  · cases hv
  · cases hv

/-! ### Locked outputs -/

/-- The answers of the file system to one update of the locked outputs. -/
structure LockedIo where
  read : Except String Unit
  createDir : Except String Unit
  write : Except String Unit

/-- The locked outputs an update starts from; text that does not parse counts
as none. -/
def lockedData (io : LockedIo) : File → Except (Exit String) Value
  | .missing => match io.createDir with
    | .ok () => .ok (.obj [])
    | .error e => .error (.err s!"Failed to create directory: {e}")
  | .corrupt _ => match io.read with
    | .ok () => .ok (.obj [])
    | .error e => .error (.err s!"Failed to read locked UTXOs file: {e}")
  | .doc v => match io.read with
    | .ok () => .ok v
    | .error e => .error (.err s!"Failed to read locked UTXOs file: {e}")

def trackLockedUtxo (io : LockedIo) (contractId txid : String) (vout amount now : Nat) :
    Fallible (Exit String) File Unit := do
  let f ← get
  let data ← attempt (lockedData io f)
  let data ← expect (data.assign s!"{txid}:{vout}" (.obj [("contract_id", .str contractId),
    ("amount", .num amount), ("locked_at", .num now)]))
    (.panic (some .walletManager) "cannot access key in JSON value")
  attempt (withContext "Failed to write locked UTXOs file" io.write)
  set (File.doc data)

def releaseLockedUtxo (io : LockedIo) (txid : String) (vout : Nat) :
    Fallible (Exit String) File Unit := do
  let f ← get
  -- the key is removed whether it is there or not, and the file is written again
  if f.exists then do
    let data ← attempt (lockedData io f)
    attempt (withContext "Failed to write locked UTXOs file" io.write)
    set (File.doc (data.remove s!"{txid}:{vout}"))
  else pure ()

/-- An output is released when the file is written, or was not locked at all. -/
theorem get?_after_releaseLockedUtxo_eq_none_iff {io : LockedIo} {txid : String} {vout : Nat}
    {f : File} : (after (releaseLockedUtxo io txid vout) f).get? s!"{txid}:{vout}" = none ↔
      f.get? s!"{txid}:{vout}" = none ∨ ∃ f', releaseLockedUtxo io txid vout f = .ok () f' := by
  have hmissing : f.exists = false → f.get? s!"{txid}:{vout}" = none := by
    rcases f with _ | _ | _ <;> simp [File.exists, File.get?]
  rw [after, releaseLockedUtxo, bind_of_ok (get_apply f)]
  by_cases hf : f.exists = true
  swap
  · have hgone := hmissing (by simpa using hf)
    rw [if_neg hf]
    exact iff_of_true hgone (.inl hgone)
  simp only [if_pos hf]
  rcases hd : lockedData io f with exit | data
  · rw [bind_of_error (attempt_error exit f)]
    simp
  rw [bind_of_ok (attempt_ok data f)]
  rcases withContext "Failed to write locked UTXOs file" io.write with exit | ⟨⟩
  · rw [bind_of_error (attempt_error exit f)]
    simp
  · rw [bind_of_ok (attempt_ok () f), set_apply]
    simp

end RgbLightningNode
