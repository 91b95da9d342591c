import Mathlib.Algebra.BigOperators.Group.List.Basic
import Mathlib.Algebra.Ring.Nat
import Mathlib.Data.List.MinMax
import RgbLightningNode.Lib.Text
import RgbLightningNode.Utils
import RgbLightningNode.Adapter.Files

/-!
# Claiming the tokens of a closed channel

A closed channel leaves this node's tokens at a witness id. `claim` has the
contract move them to an output of the wallet, and then records the claim.
-/

namespace RgbLightningNode

open Fallible

structure OutPoint where
  txid : String
  index : Nat
  deriving DecidableEq

def OutPoint.utxo (txo : OutPoint) : String := s!"{txo.txid}:{txo.index}"

/-- The witness id under which a settled channel leaves the tokens of a role;
the hash is the SHA-256 of a text, in hex. -/
def channelWitness (sha256 : String → String) (fundingUtxo role : String) : String :=
  let hash := (sha256 s!"witness:{fundingUtxo}{role}").toList.take 32
  s!"witness:{String.ofList hash}:0"

/-! ### The output to claim to -/

structure Unspent where
  txid : String
  vout : Nat
  btcAmount : Nat
  hasAllocations : Bool

def Unspent.utxo (u : Unspent) : String := s!"{u.txid}:{u.vout}"

/-- The wallet's answers while an output is looked for. -/
structure ClaimUtxoIo where
  listUnspents : Except String (List Unspent)
  createUtxos : Except String Unit
  listAgain : Except String (List Unspent)

/-- The smallest free output of the size of a claim. -/
def smallestFree (unspents : List Unspent) : Option Unspent :=
  List.argmin Unspent.btcAmount
    ((unspents.filter fun u => !u.hasAllocations).filter fun u => decide (u.btcAmount ≤ 2000))

def getClaimUtxo (io : ClaimUtxoIo) : Except String String := do
  let unspents ← io.listUnspents
  match smallestFree unspents with
  | some u => return u.utxo
  | none =>
    io.createUtxos
    -- the last output listed, with or without allocations
    let unspents ← io.listAgain
    match unspents.getLast? with
    | some u => return u.utxo
    | none => throw "Failed to create claim UTXO"

/-! ### The claim -/

/-- A call of the contract's claim method. -/
structure ClaimCall where
  contractId : String
  witnessId : String
  realUtxo : String
  claimantSignatureHex : String
  deriving DecidableEq

inductive ClaimStatus where
  | pending | claimed
  deriving DecidableEq

structure PendingClaim where
  id : Option Nat
  witnessId : String
  recipientAddress : String
  expectedVout : Nat
  contractId : String
  consignmentFile : String
  status : ClaimStatus
  error : Option String
  createdAt : Nat
  claimedAt : Option Nat
  actualTxid : Option String
  actualVout : Option Nat
  deriving DecidableEq

/-- What the storage keeps a record under. -/
def PendingClaim.key (c : PendingClaim) : String × String := (c.contractId, c.witnessId)

/-- The answers of everything outside to one claim. The storage of the records is a
library's, with a state of its own. -/
structure ClaimIo (S : Type) where
  contractsManager : Bool
  parseContractId : String → Except String Unit
  masterKey : Except String String
  signature : (witnessId claimUtxo key : String) → Except String String
  contractLoaded : String → Bool
  runtime : Except String Unit
  callMethod : ClaimCall → Except String Unit
  getAllClaims : (contractId : String) → S → Except String (List PendingClaim)
  insertPendingClaim : PendingClaim → Fallible String S Nat
  markClaimCompleted : (claimId : Nat) → Fallible String S Unit
  saveState : Except String Unit
  now : Nat

variable {S : Type}

/-- The steps up to the contract's answer. -/
def callClaim (io : ClaimIo S) (witnessId claimUtxo contractId : String) :
    Except (Exit String) ClaimCall := do
  orErr (if io.contractsManager then some () else none) "F1r3fly contracts not initialized"
  withContext "Invalid contract ID" (io.parseContractId contractId)
  let signingKey ← withContext "Failed to get wallet master key" io.masterKey
  let signature ← withContext "Signature generation failed"
    (io.signature witnessId claimUtxo signingKey)
  orErr (if io.contractLoaded contractId then some () else none)
    s!"Contract {contractId} not found"
  withContext "Failed to create tokio runtime" io.runtime
  withContext "F1r3node claim call failed"
    (io.callMethod ⟨contractId, witnessId, claimUtxo, signature⟩)
  return ⟨contractId, witnessId, claimUtxo, signature⟩

/-- The transaction id and the index an output text names. -/
def parseClaimUtxo (claimUtxo : String) : Except (Exit String) (String × Nat) :=
  match Text.splitOn ':' claimUtxo.toList with
  | [txid, vout] => do
    let vout ← withContext "Invalid vout" (parseU32 vout)
    return (String.ofList txid, vout)
  | _ => .error (.err s!"Invalid claim UTXO format: {claimUtxo}. Expected 'txid:vout'")

/-- The record of a claim that has just been made. -/
def newPendingClaim (witnessId contractId txid : String) (vout now : Nat) : PendingClaim where
  id := none
  witnessId := witnessId
  recipientAddress := ""
  expectedVout := vout
  contractId := contractId
  consignmentFile := ""
  status := .pending
  error := none
  createdAt := now
  claimedAt := none
  actualTxid := some txid
  actualVout := some vout

/-- The claims on record of a contract; none when they cannot be read. -/
def existingClaims (io : ClaimIo S) (contractId : String) (storage : S) : List PendingClaim :=
  match io.getAllClaims contractId storage with
  | .ok claims => claims
  | .error _ => []

/-- Store a record, and mark it as claimed under the id it is given. -/
def insertClaim (io : ClaimIo S) (claim : PendingClaim) : Fallible (Exit String) S Unit := do
  let claimId ← EStateM.adaptExcept (fun e => .err s!"Failed to insert claim: {e}")
    (io.insertPendingClaim claim)
  EStateM.adaptExcept (fun e => .err s!"Failed to mark claim completed: {e}")
    (io.markClaimCompleted claimId)

/-- The bookkeeping behind a claim that the contract has carried out. -/
def recordClaim (io : ClaimIo S) (witnessId claimUtxo contractId : String) :
    Fallible (Exit String) S Unit := do
  let (txid, vout) ← attempt (parseClaimUtxo claimUtxo)
  let storage ← get
  -- a claim of the witness that is on record is not recorded again
  if (existingClaims io contractId storage).any fun c => c.witnessId = witnessId then pure ()
  else insertClaim io (newPendingClaim witnessId contractId txid vout io.now)
  attempt (withContext "Failed to save state after claim" io.saveState)

/-- The claims the contract has carried out, and the storage of their records. -/
structure ClaimWorld (S : Type) where
  claims : List ClaimCall
  storage : S

def claim (io : ClaimIo S) (witnessId claimUtxo contractId : String) :
    Fallible (Exit String) (ClaimWorld S) Unit := do
  let call ← attempt (callClaim io witnessId claimUtxo contractId)
  modify fun w => { w with claims := w.claims ++ [call] }
  zoom ClaimWorld.storage (fun s w => { w with storage := s })
    (recordClaim io witnessId claimUtxo contractId)

/-- The call names the contract and the witness it was asked for. -/
theorem callClaim_of_ok {io : ClaimIo S} {witnessId claimUtxo contractId : String}
    {call : ClaimCall} (h : callClaim io witnessId claimUtxo contractId = .ok call) :
    call.contractId = contractId ∧ call.witnessId = witnessId ∧ call.realUtxo = claimUtxo := by
  obtain ⟨_, _, h⟩ := except_bind_eq_ok_iff.mp h
  obtain ⟨_, _, h⟩ := except_bind_eq_ok_iff.mp h
  obtain ⟨signingKey, _, h⟩ := except_bind_eq_ok_iff.mp h
  obtain ⟨signature, _, h⟩ := except_bind_eq_ok_iff.mp h
  obtain ⟨_, _, h⟩ := except_bind_eq_ok_iff.mp h
  obtain ⟨_, _, h⟩ := except_bind_eq_ok_iff.mp h
  obtain ⟨_, _, h⟩ := except_bind_eq_ok_iff.mp h
  obtain rfl := Except.ok.inj h
  exact ⟨rfl, rfl, rfl⟩

/-- A claim that the contract has not carried out leaves no trace. -/
theorem claim_of_error {io : ClaimIo S} {witnessId claimUtxo contractId : String} {w : ClaimWorld S}
    {exit : Exit String} (h : callClaim io witnessId claimUtxo contractId = .error exit) :
    claim io witnessId claimUtxo contractId w = .error exit w := by
  rw [claim, h, bind_of_error (attempt_error exit w)]

/-- A claim that is carried out is one more, whatever the bookkeeping does. -/
theorem claim_of_ok {io : ClaimIo S} {witnessId claimUtxo contractId : String} {w : ClaimWorld S}
    {call : ClaimCall} (h : callClaim io witnessId claimUtxo contractId = .ok call) :
    claim io witnessId claimUtxo contractId w =
      zoom ClaimWorld.storage (fun s w => { w with storage := s })
        (recordClaim io witnessId claimUtxo contractId)
        { w with claims := w.claims ++ [call] } := by
  rw [claim, h, bind_of_ok (attempt_ok call w), bind_of_ok (modify_apply _ w)]

/-! ### A table of records -/

namespace ClaimTable

/-- A record as it is marked under an id. -/
def complete (claimId now : Nat) (c : PendingClaim) : PendingClaim :=
  if c.id = some claimId then { c with status := .claimed, claimedAt := some now } else c

def getAllClaims (contractId : String) (records : List PendingClaim) :
    Except String (List PendingClaim) :=
  .ok (records.filter fun c => c.contractId = contractId)

/-- A number above the ids in use. -/
def nextId (records : List PendingClaim) : Nat := (records.map fun c => c.id.getD 0).sum + 1

def insertPendingClaim (claim : PendingClaim) : Fallible String (List PendingClaim) Nat := do
  let records ← get
  if claim.key ∈ records.map PendingClaim.key then throw "UNIQUE constraint failed"
  set (records ++ [{ claim with id := some (nextId records) }])
  return nextId records

def markClaimCompleted (now claimId : Nat) : Fallible String (List PendingClaim) Unit :=
  modify (List.map (complete claimId now))

/-- Everything outside works, with the records in a table. -/
def everyClaimStepWorks : ClaimIo (List PendingClaim) where
  contractsManager := true
  parseContractId := fun _ => .ok ()
  masterKey := .ok "key"
  signature := fun _ _ _ => .ok "3044"
  contractLoaded := fun _ => true
  runtime := .ok ()
  callMethod := fun _ => .ok ()
  getAllClaims := getAllClaims
  insertPendingClaim := insertPendingClaim
  markClaimCompleted := markClaimCompleted 100
  saveState := .ok ()
  now := 100

end ClaimTable

end RgbLightningNode
