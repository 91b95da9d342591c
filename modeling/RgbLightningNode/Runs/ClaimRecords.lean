import Mathlib.Algebra.Order.BigOperators.Group.List
import Mathlib.Algebra.Order.Group.Nat
import RgbLightningNode.Lib.Mealy
import RgbLightningNode.Adapter.Claim

/-!
# The records of claims

The balances count the tokens of a claim through its record. Over all sequences of
claims, also repeated ones and ones that fail, the records only grow, a witness is
on record once, and every claim that is reported as made has a record.
-/

namespace RgbLightningNode

open Fallible

/-- A claim, with everything that is answered to it. -/
structure ClaimRequest (S : Type) where
  io : ClaimIo S
  witnessId : String
  claimUtxo : String
  contractId : String

def ClaimCall.key (call : ClaimCall) : String × String := (call.contractId, call.witnessId)

variable {S : Type}

/-- What the storage of the claim records is documented to do: a state of it holds a
list of records. It lists those of a contract, takes no second record of a witness of a
contract, gives a record it takes an id that no other has, marks the record of an id,
and is as it was behind an error. -/
structure ClaimIo.KeepsRecords (io : ClaimIo S) (records : S → List PendingClaim) : Prop where
  lists : ∀ contractId s claims, io.getAllClaims contractId s = .ok claims →
    ∀ c, c ∈ claims ↔ c ∈ records s ∧ c.contractId = contractId
  inserts : ∀ claim s t id, io.insertPendingClaim claim s = .ok id t →
    records t = records s ++ [{ claim with id := some id }]
  unique : ∀ claim s t id, io.insertPendingClaim claim s = .ok id t →
    claim.key ∉ (records s).map PendingClaim.key
  fresh : ∀ claim s t id, io.insertPendingClaim claim s = .ok id t →
    ∀ c ∈ records s, c.id ≠ some id
  insertFails : ∀ claim s t e, io.insertPendingClaim claim s = .error e t → records t = records s
  marks : ∀ id s t, io.markClaimCompleted id s = .ok () t →
    ∃ now, records t = (records s).map (ClaimTable.complete id now)
  markFails : ∀ id s t e, io.markClaimCompleted id s = .error e t → records t = records s

namespace ClaimRequest

def key (r : ClaimRequest S) : String × String := (r.contractId, r.witnessId)

/-- The record names the output that the request claims to. -/
def Names (claimUtxo : String) (c : PendingClaim) : Prop :=
  ∃ txid vout, parseClaimUtxo claimUtxo = .ok (txid, vout) ∧ c.actualTxid = some txid ∧
    c.actualVout = some vout

/-- A record that a request makes; it is left pending only by a request that answers
with an error. -/
structure Makes (r : ClaimRequest S) (answer : Except (Exit String) Unit) (c : PendingClaim) :
    Prop where
  key : c.key = r.key
  names : Names r.claimUtxo c
  claimed : answer = .ok () → c.status = .claimed

end ClaimRequest

namespace ClaimWorld

/-- Serve a claim. -/
def step (w : ClaimWorld S) (r : ClaimRequest S) : Except (Exit String) Unit × ClaimWorld S :=
  outcome (claim r.io r.witnessId r.claimUtxo r.contractId) w

variable {records : S → List PendingClaim} {w : ClaimWorld S} {r : ClaimRequest S}

/-! ### One claim -/

theorem mem_keys_of_existing {io : ClaimIo S} (h : io.KeepsRecords records)
    {contractId witnessId : String} {s : S}
    (hfound : ((existingClaims io contractId s).any fun c => c.witnessId = witnessId) = true) :
    (contractId, witnessId) ∈ (records s).map PendingClaim.key := by
  obtain ⟨c, hc, hwitness⟩ := List.any_eq_true.mp hfound
  rw [existingClaims] at hc
  split at hc
  · rename_i hall
    obtain ⟨hmem, hcontract⟩ := (h.lists _ _ _ hall c).mp hc
    refine List.mem_map.mpr ⟨c, hmem, ?_⟩
    rw [PendingClaim.key, hcontract, of_decide_eq_true hwitness]
  · cases hc

/-- What the bookkeeping of a claim does to the records. -/
inductive Books (r : ClaimRequest S) (old : List PendingClaim) :
    Except (Exit String) Unit × List PendingClaim → Prop where
  /-- The records stay, and a request that answers has found its witness there. -/
  | stay {answer} (found : answer = .ok () → r.key ∈ old.map PendingClaim.key) :
    Books r old (answer, old)
  | add {answer c} (makes : r.Makes answer c) (absent : r.key ∉ old.map PendingClaim.key) :
    Books r old (answer, old ++ [c])

theorem Books.saved {old new : List PendingClaim} {ended : Except (Exit String) Unit}
    (h : Books r old (.ok (), new)) : Books r old (ended, new) := by
  cases h with
  | stay found => exact .stay fun _ => found rfl
  | add makes absent => exact .add ⟨makes.key, makes.names, fun _ => makes.claimed rfl⟩ absent

/-- Marking the id of a new record changes no other one. -/
theorem map_complete_append {old : List PendingClaim} {id now : Nat} (c : PendingClaim)
    (hfresh : ∀ c ∈ old, c.id ≠ some id) :
    (old ++ [{ c with id := some id }]).map (ClaimTable.complete id now) =
      old ++ [{ c with id := some id, status := .claimed, claimedAt := some now }] := by
  have hothers : ∀ c ∈ old, ClaimTable.complete id now c = c := fun c hc => if_neg (hfresh c hc)
  rw [List.map_append, List.map_congr_left hothers, List.map_id']
  simp [ClaimTable.complete]

theorem books_insertClaim (h : r.io.KeepsRecords records) {s : S} {txid : String} {vout : Nat}
    (hparse : parseClaimUtxo r.claimUtxo = .ok (txid, vout)) :
    Books r (records s) ((outcome (insertClaim r.io
        (newPendingClaim r.witnessId r.contractId txid vout r.io.now)) s).1,
      records (outcome (insertClaim r.io
        (newPendingClaim r.witnessId r.contractId txid vout r.io.now)) s).2) := by
  have hnames : ∀ c : PendingClaim, c.actualTxid = some txid → c.actualVout = some vout →
      ClaimRequest.Names r.claimUtxo c := fun c htxid hvout => ⟨txid, vout, hparse, htxid, hvout⟩
  cases hinsert : r.io.insertPendingClaim
      (newPendingClaim r.witnessId r.contractId txid vout r.io.now) s with
  | error e t =>
    rw [insertClaim, outcome_bind_of_error (adaptExcept_of_error hinsert)]
    rw [h.insertFails _ _ _ _ hinsert]
    exact .stay (by simp)
  | ok id t =>
    have habsent : r.key ∉ (records s).map PendingClaim.key := h.unique _ _ _ _ hinsert
    rw [insertClaim, outcome_bind_of_ok (adaptExcept_eq_ok_iff.mpr hinsert)]
    cases hmark : r.io.markClaimCompleted id t with
    | error e u =>
      rw [outcome, adaptExcept_of_error hmark]
      rw [h.markFails _ _ _ _ hmark, h.inserts _ _ _ _ hinsert]
      exact .add ⟨rfl, hnames _ rfl rfl, by simp⟩ habsent
    | ok _ u =>
      rw [outcome, adaptExcept_eq_ok_iff.mpr hmark]
      obtain ⟨now, hmarked⟩ := h.marks _ _ _ hmark
      rw [hmarked, h.inserts _ _ _ _ hinsert, map_complete_append _ (h.fresh _ _ _ _ hinsert)]
      exact .add ⟨rfl, hnames _ rfl rfl, fun _ => rfl⟩ habsent

theorem books_recordClaim (h : r.io.KeepsRecords records) (s : S) :
    Books r (records s)
      ((outcome (recordClaim r.io r.witnessId r.claimUtxo r.contractId) s).1,
        records (outcome (recordClaim r.io r.witnessId r.claimUtxo r.contractId) s).2) := by
  cases hparse : parseClaimUtxo r.claimUtxo with
  | error e =>
    rw [recordClaim, hparse, outcome_bind_of_error (attempt_error _ _)]
    exact .stay (by simp)
  | ok output =>
    obtain ⟨txid, vout⟩ := output
    rw [recordClaim, hparse, outcome_bind_of_ok (attempt_ok _ _), outcome_bind_of_ok (get_apply _)]
    have hsave : ∀ t, outcome (attempt (withContext "Failed to save state after claim"
        r.io.saveState) : Fallible (Exit String) S Unit) t =
          (withContext "Failed to save state after claim" r.io.saveState, t) := by
      intro t
      cases r.io.saveState <;> rfl
    split
    · rename_i hfound
      rw [hsave]
      exact .stay fun _ => mem_keys_of_existing h hfound
    · have hbooks := books_insertClaim h (s := s) hparse
      cases hinsert : insertClaim r.io
          (newPendingClaim r.witnessId r.contractId txid vout r.io.now) s with
      | error e t =>
        rw [outcome, hinsert] at hbooks
        rw [outcome_bind_of_error hinsert]
        exact hbooks
      | ok u t =>
        rw [outcome, hinsert] at hbooks
        rw [outcome_bind_of_ok hinsert, hsave]
        exact hbooks.saved

/-- What one claim does: nothing, or the contract carries it out and the records
come by at most its own. -/
inductive Claims (records : S → List PendingClaim) (w : ClaimWorld S) (r : ClaimRequest S) :
    Except (Exit String) Unit × ClaimWorld S → Prop where
  | refused {answer} (failed : answer ≠ .ok ()) : Claims records w r (answer, w)
  | carried {answer call storage} (key : call.key = r.key) (utxo : call.realUtxo = r.claimUtxo)
      (books : Books r (records w.storage) (answer, records storage)) :
    Claims records w r (answer, ⟨w.claims ++ [call], storage⟩)

theorem claims_step (h : r.io.KeepsRecords records) : Claims records w r (w.step r) := by
  rw [step]
  cases hcall : callClaim r.io r.witnessId r.claimUtxo r.contractId with
  | error exit =>
    rw [outcome, claim_of_error hcall]
    exact .refused (by simp)
  | ok call =>
    obtain ⟨hcontract, hwitness, hutxo⟩ := callClaim_of_ok hcall
    have hkey : call.key = r.key := Prod.ext hcontract hwitness
    have hprogram := claim_of_ok (w := w) hcall
    rw [outcome, hprogram]
    change Claims records w r
      (outcome (zoom ClaimWorld.storage _ _) ⟨w.claims ++ [call], w.storage⟩)
    rw [outcome_zoom]
    exact .carried hkey hutxo (books_recordClaim h w.storage)

/-! ### All claims -/

/-- A witness is on record once, and the record names the output of a claim that the
contract has carried out. -/
structure Kept (records : S → List PendingClaim) (w : ClaimWorld S) : Prop where
  once : ((records w.storage).map PendingClaim.key).Nodup
  backed : ∀ c ∈ records w.storage, ∃ call ∈ w.claims, call.key = c.key ∧
    ClaimRequest.Names call.realUtxo c

theorem Kept.step (hw : w.Kept records) (h : r.io.KeepsRecords records) :
    (w.step r).2.Kept records := by
  have hclaims := claims_step (w := w) h
  generalize w.step r = ended at hclaims
  cases hclaims with
  | refused failed => exact hw
  | @carried answer call storage key utxo books =>
    have hbacked : ∀ c ∈ records w.storage, ∃ call' ∈ w.claims ++ [call], call'.key = c.key ∧
        ClaimRequest.Names call'.realUtxo c := by
      intro c hc
      obtain ⟨call', hmem, hrest⟩ := hw.backed c hc
      exact ⟨call', List.mem_append_left _ hmem, hrest⟩
    generalize hnew : records storage = new at books
    cases books with
    | stay found =>
      constructor
      · rw [hnew]
        exact hw.once
      · rw [hnew]
        exact hbacked
    | @add _ c makes absent =>
      constructor
      · rw [hnew, List.map_append, List.nodup_append]
        refine ⟨hw.once, List.nodup_singleton _, ?_⟩
        rintro _ hmem _ hkey rfl
        rw [List.map_singleton, List.mem_singleton, makes.key] at hkey
        exact absent (hkey ▸ hmem)
      · rw [hnew]
        intro c' hc'
        obtain hold | hadded := List.mem_append.mp hc'
        · exact hbacked c' hold
        · obtain rfl := List.mem_singleton.mp hadded
          exact ⟨call, by simp, key.trans makes.key.symm, utxo ▸ makes.names⟩

/-- What one claim does to the records alone. -/
theorem books_step (h : r.io.KeepsRecords records) :
    (w.step r).1 ≠ .ok () ∧ records (w.step r).2.storage = records w.storage ∨
      Books r (records w.storage) ((w.step r).1, records (w.step r).2.storage) := by
  have hclaims := claims_step (w := w) h
  generalize w.step r = ended at hclaims
  cases hclaims with
  | refused failed => exact .inl ⟨failed, rfl⟩
  | carried key utxo books => exact .inr books

theorem records_step (h : r.io.KeepsRecords records) :
    records w.storage <+: records (w.step r).2.storage := by
  obtain ⟨-, hsame⟩ | hbooks := books_step (w := w) h
  · rw [hsame]
  · generalize records (w.step r).2.storage = new at hbooks
    cases hbooks with
    | stay found => exact List.prefix_rfl
    | add makes absent => exact List.prefix_append _ _

/-- A record that was not there before the claim is the one the claim has made. -/
theorem makes_of_step (h : r.io.KeepsRecords records) {c : PendingClaim}
    (hc : c ∈ records (w.step r).2.storage) :
    c ∈ records w.storage ∨ r.Makes (w.step r).1 c := by
  obtain ⟨-, hsame⟩ | hbooks := books_step (w := w) h
  · exact .inl (hsame ▸ hc)
  · generalize records (w.step r).2.storage = new at hbooks hc
    cases hbooks with
    | stay found => exact .inl hc
    | add makes absent =>
      obtain hold | hnew := List.mem_append.mp hc
      · exact .inl hold
      · obtain rfl := List.mem_singleton.mp hnew
        exact .inr makes

/-- A claim that is reported as made is on record, from before or as a new record. -/
theorem found_of_step (h : r.io.KeepsRecords records) (hok : (w.step r).1 = .ok ()) :
    ∃ c ∈ records (w.step r).2.storage, c.key = r.key ∧
      (c ∈ records w.storage ∨ c.status = .claimed ∧ ClaimRequest.Names r.claimUtxo c) := by
  obtain ⟨hfailed, -⟩ | hbooks := books_step (w := w) h
  · exact absurd hok hfailed
  · generalize records (w.step r).2.storage = new at hbooks
    cases hbooks with
    | stay found =>
      obtain ⟨c, hc, hkey⟩ := List.mem_map.mp (found hok)
      exact ⟨c, hc, hkey, .inl hc⟩
    | @add _ c makes absent =>
      exact ⟨c, by simp, makes.key, .inr ⟨makes.claimed hok, makes.names⟩⟩

/-- What the records say of a run of claims. -/
structure Recorded (records : S → List PendingClaim) (w : ClaimWorld S)
    (rs : List (ClaimRequest S)) : Prop where
  kept : (Mealy.final step w rs).Kept records
  /-- No record is lost or changed. -/
  grows : records w.storage <+: records (Mealy.final step w rs).storage
  made : ∀ c ∈ records (Mealy.final step w rs).storage,
    c ∈ records w.storage ∨ Mealy.Sometime step (fun v r => r.Makes (v.step r).1 c) w rs
  /-- What is reported as claimed is on record at the end. -/
  found : Mealy.Along step (fun v r => (v.step r).1 = .ok () →
    ∃ c ∈ records (Mealy.final step w rs).storage, c.key = r.key ∧
      (c ∈ records v.storage ∨ c.status = .claimed ∧ ClaimRequest.Names r.claimUtxo c)) w rs

/-- In every run of claims against a storage that does what it is documented to do,
whatever the contract, the storage and the file system answer: the records only grow,
none of them changes, a witness of a contract is on record once, each record names the
output of a claim that the contract has carried out, and every claim that is
reported as made is on record for good, as claimed if it has made the record. -/
theorem claims_recorded {w : ClaimWorld S} {rs : List (ClaimRequest S)} (hw : w.Kept records)
    (h : ∀ r ∈ rs, r.io.KeepsRecords records) : Recorded records w rs := by
  induction rs generalizing w with
  | nil => exact ⟨hw, List.prefix_rfl, fun c hc => .inl hc, trivial⟩
  | cons r rs ih =>
    obtain ⟨hr, hrs⟩ := List.forall_mem_cons.mp h
    have hrest := ih (hw.step hr) hrs
    refine ⟨hrest.kept, (records_step hr).trans hrest.grows, fun c hc => ?_, fun hok => ?_,
      hrest.found⟩
    · obtain hnext | hlater := hrest.made c hc
      · obtain hold | hmakes := makes_of_step hr hnext
        · exact .inl hold
        · exact .inr (.inl hmakes)
      · exact .inr (.inr hlater)
    · obtain ⟨c, hc, hfound⟩ := found_of_step hr hok
      exact ⟨c, hrest.grows.subset hc, hfound⟩

/-! ### Records in a table -/

theorem insertPendingClaim_of_ok {claim : PendingClaim} {s t : List PendingClaim} {claimId : Nat}
    (h : ClaimTable.insertPendingClaim claim s = .ok claimId t) :
    claim.key ∉ s.map PendingClaim.key ∧ claimId = ClaimTable.nextId s ∧
      t = s ++ [{ claim with id := some claimId }] := by
  rw [ClaimTable.insertPendingClaim, bind_of_ok (get_apply s)] at h
  by_cases hkey : claim.key ∈ s.map PendingClaim.key
  · rw [if_pos hkey] at h
    cases h
  · rw [if_neg hkey] at h
    cases h
    exact ⟨hkey, rfl, rfl⟩

theorem insertPendingClaim_of_error {claim : PendingClaim} {s t : List PendingClaim} {e : String}
    (h : ClaimTable.insertPendingClaim claim s = .error e t) : t = s := by
  rw [ClaimTable.insertPendingClaim, bind_of_ok (get_apply s)] at h
  by_cases hkey : claim.key ∈ s.map PendingClaim.key
  · rw [if_pos hkey] at h
    cases h
    rfl
  · rw [if_neg hkey] at h
    cases h

theorem id_ne_nextId {records : List PendingClaim} {c : PendingClaim} (hc : c ∈ records) :
    c.id ≠ some (ClaimTable.nextId records) := by
  intro hid
  have hmem : ClaimTable.nextId records ∈ records.map fun c => c.id.getD 0 :=
    List.mem_map.mpr ⟨c, hc, by rw [hid, Option.getD_some]⟩
  have hle := (List.singleton_sublist.mpr hmem).sum_le_sum fun _ _ => Nat.zero_le _
  rw [List.sum_singleton] at hle
  exact absurd hle (Nat.not_succ_le_self _)

/-- A table does what a storage is documented to do. -/
theorem keepsRecords_table : ClaimTable.everyClaimStepWorks.KeepsRecords id where
  lists := by
    intro contractId s claims h c
    obtain rfl := Except.ok.inj h
    simp
  inserts _ _ _ _ h := (insertPendingClaim_of_ok h).2.2
  unique _ _ _ _ h := (insertPendingClaim_of_ok h).1
  fresh _ _ _ _ h _ hc := (insertPendingClaim_of_ok h).2.1 ▸ id_ne_nextId hc
  insertFails _ _ _ _ h := insertPendingClaim_of_error h
  marks := by
    intro claimId s t h
    exact ⟨100, (EStateM.Result.ok.inj h).2.symm⟩
  markFails := by
    intro claimId s t e h
    cases h

/-- A claim of a witness to an output. -/
def claimOf (witnessId claimUtxo : String) : ClaimRequest (List PendingClaim) :=
  ⟨ClaimTable.everyClaimStepWorks, witnessId, claimUtxo, "contract"⟩

/-- The same claim when the records cannot be listed. -/
def claimUnlisted (witnessId claimUtxo : String) : ClaimRequest (List PendingClaim) :=
  { claimOf witnessId claimUtxo with
    io := { ClaimTable.everyClaimStepWorks with
      getAllClaims := fun _ _ => .error "database is locked" } }

/-- Two witnesses are claimed, the first of them twice more to other outputs. -/
def claimsOfTwo : List (ClaimRequest (List PendingClaim)) :=
  [claimOf "witness:ab:0" "tx1:0", claimOf "witness:cd:0" "tx2:1",
    claimOf "witness:ab:0" "tx3:1", claimUnlisted "witness:ab:0" "tx4:0"]

theorem claimsOfTwo_recorded :
    Recorded id ⟨[], []⟩ claimsOfTwo ∧
      Mealy.outputs step ⟨[], []⟩ claimsOfTwo =
        [.ok (), .ok (), .ok (),
          .error (.err "Failed to insert claim: UNIQUE constraint failed")] := by
  have hkept : Kept id (⟨[], []⟩ : ClaimWorld (List PendingClaim)) :=
    ⟨List.nodup_nil, List.forall_mem_nil _⟩
  have hunlisted : (claimUnlisted "witness:ab:0" "tx4:0").io.KeepsRecords id :=
    { keepsRecords_table with lists := fun _ _ _ h => by cases h }
  refine ⟨claims_recorded hkept fun r hr => ?_, by decide +kernel⟩
  simp only [claimsOfTwo, List.mem_cons, List.not_mem_nil, or_false] at hr
  rcases hr with rfl | rfl | rfl | rfl
  · exact keepsRecords_table
  · exact keepsRecords_table
  · exact keepsRecords_table
  · exact hunlisted

end ClaimWorld

end RgbLightningNode
