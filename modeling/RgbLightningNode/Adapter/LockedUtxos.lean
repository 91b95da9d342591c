import Mathlib.Algebra.BigOperators.Group.List.Basic
import Mathlib.Data.UInt
import RgbLightningNode.Adapter.SendEnd

/-!
# The file of locked outputs

What the three functions on the file make of its entries: one is put in front
when an output is locked, one is taken out when it is released, and the amounts
of a contract are added up.
-/

namespace RgbLightningNode

open Fallible SerdeJson

/-- Under which key an output is locked. -/
def FundingOutput.utxo (out : FundingOutput) : String := s!"{out.txid}:{out.vout}"

/-- One entry of the sum; a field that is missing or of another kind counts as
none. -/
def addLocked (contractId : String) (total : UInt64) (utxoData : Value) : UInt64 :=
  match (utxoData.get? "contract_id").bind Value.asStr with
  | some utxoContractId =>
    if utxoContractId = contractId then
      match (utxoData.get? "amount").bind Value.asU64 with
      | some amount => total + UInt64.ofNat amount
      | none => total
    else total
  | none => total

/-- The amount locked in channels of a contract. Text that does not parse counts
as an empty object. -/
def getLockedAmount (read : Except String Unit) (contractId : String) : File → Except String UInt64
  | .missing => .ok 0
  | .corrupt _ => match read with
    | .ok () => .ok 0
    | .error e => .error s!"Failed to read locked UTXOs file: {e}"
  | .doc v => match read with
    | .ok () => .ok (match v.asObject with
      | some fields => fields.foldl (fun total f => addLocked contractId total f.2) 0
      | none => 0)
    | .error e => .error s!"Failed to read locked UTXOs file: {e}"

/-- What an entry says was locked. -/
def lockedDetails (utxoData : Value) : Option TransferDetails :=
  match (utxoData.get? "contract_id").bind Value.asStr,
    (utxoData.get? "amount").bind Value.asU64 with
  | some contractId, some amount => some ⟨contractId, amount⟩
  | _, _ => none

/-- The entries of the file, none before it is written first. -/
def LockedFields (f : File) (fields : List (String × Value)) : Prop :=
  f = .missing ∧ fields = [] ∨ f = .doc (.obj fields)

/-- The entry that is written for an output. -/
def lockedEntry (details : TransferDetails) (now : Nat) : Value :=
  .obj [("contract_id", .str details.contractId), ("amount", .num details.rgbAmount),
    ("locked_at", .num now)]

theorem lockedDetails_lockedEntry {details : TransferDetails} (h : details.rgbAmount < 2 ^ 64)
    (now : Nat) : lockedDetails (lockedEntry details now) = some details := by
  have hamount : (Value.num details.rgbAmount).asU64 = some details.rgbAmount := if_pos h
  change (match some details.contractId, (Value.num details.rgbAmount).asU64 with
    | some contractId, some amount => some (⟨contractId, amount⟩ : TransferDetails)
    | _, _ => none) = _
  rw [hamount]

namespace LockedFields

variable {f f' : File} {fields : List (String × Value)} {io : LockedIo}

theorem get? (h : LockedFields f fields) (key : String) : f.get? key = fields.lookup key := by
  obtain ⟨rfl, rfl⟩ | rfl := h
  · rfl
  · rfl

theorem lockedData (h : LockedFields f fields) {data : Value}
    (hdata : RgbLightningNode.lockedData io f = .ok data) : data = .obj fields := by
  obtain ⟨rfl, rfl⟩ | rfl := h
  · simp only [RgbLightningNode.lockedData] at hdata
    split at hdata
    · exact (Except.ok.inj hdata).symm
    · cases hdata
  · simp only [RgbLightningNode.lockedData] at hdata
    split at hdata
    · exact (Except.ok.inj hdata).symm
    · cases hdata

/-- Locking an output puts its entry in front of those of the others. -/
theorem trackLockedUtxo (h : LockedFields f fields) {details : TransferDetails} {txid : String}
    {vout now : Nat} (hok : RgbLightningNode.trackLockedUtxo io details.contractId txid vout
      details.rgbAmount now f = .ok () f') :
    LockedFields f' ((s!"{txid}:{vout}", lockedEntry details now) ::
      fields.filter fun field => !(field.1 == s!"{txid}:{vout}")) := by
  obtain ⟨_, _, hget, hok⟩ := bind_eq_ok_iff.mp hok
  cases hget
  obtain ⟨data, _, hread, hok⟩ := bind_eq_ok_iff.mp hok
  obtain ⟨hdata, rfl⟩ := attempt_eq_ok_iff.mp hread
  obtain rfl := h.lockedData hdata
  obtain ⟨written, _, hassign, hok⟩ := bind_eq_ok_iff.mp hok
  cases hassign
  obtain ⟨_, _, hwrite, hok⟩ := bind_eq_ok_iff.mp hok
  obtain ⟨-, rfl⟩ := attempt_eq_ok_iff.mp hwrite
  cases hok
  exact .inr rfl

/-- Releasing an output takes its entry out. -/
theorem releaseLockedUtxo (h : LockedFields f fields) {txid : String} {vout : Nat}
    (hok : RgbLightningNode.releaseLockedUtxo io txid vout f = .ok () f') :
    LockedFields f' (fields.filter fun field => !(field.1 == s!"{txid}:{vout}")) := by
  obtain ⟨_, _, hget, hok⟩ := bind_eq_ok_iff.mp hok
  cases hget
  split at hok
  · obtain ⟨data, _, hread, hok⟩ := bind_eq_ok_iff.mp hok
    obtain ⟨hdata, rfl⟩ := attempt_eq_ok_iff.mp hread
    obtain rfl := h.lockedData hdata
    obtain ⟨_, _, hwrite, hok⟩ := bind_eq_ok_iff.mp hok
    obtain ⟨-, rfl⟩ := attempt_eq_ok_iff.mp hwrite
    cases hok
    exact .inr rfl
  · rename_i hmissing
    cases hok
    obtain ⟨rfl, rfl⟩ | rfl := h
    · exact .inl ⟨rfl, rfl⟩
    · exact absurd rfl hmissing

end LockedFields

/-- An output that cannot be locked leaves the file as it is. -/
theorem trackLockedUtxo_of_error {io : LockedIo} {contractId txid : String}
    {vout amount now : Nat} {f f' : File} {exit : Exit String}
    (h : trackLockedUtxo io contractId txid vout amount now f = .error exit f') : f' = f := by
  rw [trackLockedUtxo, bind_of_ok (get_apply f)] at h
  obtain rfl | ⟨data, _, h⟩ := attempt_bind_eq_error h
  · rfl
  cases hassign : data.assign s!"{txid}:{vout}" (.obj [("contract_id", .str contractId),
      ("amount", .num amount), ("locked_at", .num now)]) with
  | none =>
    rw [hassign, bind_of_error (expect_none _ f)] at h
    exact (EStateM.Result.error.inj h).2.symm
  | some data =>
    rw [hassign, bind_of_ok (expect_some data _ f)] at h
    obtain rfl | ⟨_, _, h⟩ := attempt_bind_eq_error h
    · rfl
    cases h

/-- An output that cannot be released stays in the file as it is. -/
theorem releaseLockedUtxo_of_error {io : LockedIo} {txid : String} {vout : Nat} {f f' : File}
    {exit : Exit String} (h : releaseLockedUtxo io txid vout f = .error exit f') : f' = f := by
  rw [releaseLockedUtxo, bind_of_ok (get_apply f)] at h
  split at h
  · obtain rfl | ⟨_, _, h⟩ := attempt_bind_eq_error h
    · rfl
    obtain rfl | ⟨_, _, h⟩ := attempt_bind_eq_error h
    · rfl
    cases h
  · cases h

/-! ### The sum -/

end RgbLightningNode
