import RgbLightningNode.Lib.Fallible
import RgbLightningNode.Lib.MachineInt
import RgbLightningNode.Lib.PoisonMutex
import RgbLightningNode.Types

/-!
# Issuing an asset

An asset is issued on an output that carries none, with the sum of the requested
amounts as its supply. The sum is formed with the wallet manager locked, before
anything that may fail.
-/

namespace RgbLightningNode

open Fallible

inductive RgbLibError where
  | insufficientBitcoins (needed available : Nat)
  | failedIssuance (details : String)
  | other (details : String)
  deriving DecidableEq

structure UtxoFilter where
  availableOnly : Bool
  rgbOnly : Bool
  confirmedOnly : Bool
  minAmountSats : Option Nat

structure IssueAssetRequest where
  ticker : String
  name : String
  supply : Nat
  precision : Nat
  genesisUtxo : String

/-- The same fields for an asset of the other schema. -/
structure AssetCFA where
  assetId : String
  addedAt : Nat
  balance : Balance
  issuedSupply : Nat
  ticker : String
  name : String
  precision : Nat
  timestamp : Nat

/-- What the wallet manager and the clock answer during one issuance. -/
structure IssuanceIo where
  syncWallet : Except String Unit
  /-- The outpoints of the outputs that pass a filter. -/
  listUtxos : UtxoFilter → Except String (List String)
  issueAsset : IssueAssetRequest → Except String AssetInfo
  /-- The total balance of an asset. -/
  assetBalance : String → Except String Nat
  addedAt : Nat
  timestamp : Nat

/-- The wallet manager under its lock: what has been requested of the contract layer. -/
abbrev IssuingWallet := PoisonMutex (List IssueAssetRequest)

def sumU64 (overflowChecks : Bool) (amounts : List UInt64) : Except (Exit RgbLibError) Nat :=
  MachineInt.sum 64 overflowChecks
    (.panic (some .walletManager) "attempt to add with overflow") (amounts.map UInt64.toNat)

/-- A result whose error is put into a longer text. -/
def otherError {α : Type} (context : String) (x : Except String α) :
    Except (Exit RgbLibError) α :=
  x.mapError fun e => .err (.other s!"{context}: {e}")

section Programs

variable (overflowChecks : Bool) (io : IssuanceIo)

/-- What is done once the total supply is known. -/
def issueSupply (ticker name : String) (precision totalSupply : Nat) :
    Fallible (Exit RgbLibError) (List IssueAssetRequest) (AssetNIA Balance) := do
  attempt (otherError "Sync before issuance failed" io.syncWallet)
  let utxos ← attempt (otherError "Failed to list UTXOs"
    (io.listUtxos ⟨true, false, true, some 1000⟩))
  let genesisUtxo ← expect utxos.head? (.err (.insufficientBitcoins 1000 0))
  let request := ⟨ticker, name, totalSupply, precision, genesisUtxo⟩
  modify (· ++ [request])
  let assetInfo ← attempt ((io.issueAsset request).mapError fun e =>
    .err (.failedIssuance s!"F1r3fly issuance failed: {e}"))
  let total ← attempt (otherError "Failed to get balance" (io.assetBalance assetInfo.contractId))
  return {
    assetId := assetInfo.contractId
    addedAt := io.addedAt
    balance := ⟨total, total, total⟩
    issuedSupply := assetInfo.supply
    ticker := ticker
    name := name
    precision := precision
    timestamp := io.timestamp }

def issueAssetNia (ticker name : String) (precision : Nat) (amounts : List UInt64) :
    Fallible (Exit RgbLibError) IssuingWallet (AssetNIA Balance) :=
  PoisonMutex.locked Exit.answers poisonError do
    let totalSupply ← attempt (sumU64 overflowChecks amounts)
    issueSupply io ticker name precision totalSupply

/-- The name is the ticker too. -/
def issueAssetCfa (name : String) (precision : Nat) (amounts : List UInt64) :
    Fallible (Exit RgbLibError) IssuingWallet AssetCFA := do
  let assetNia ← issueAssetNia overflowChecks io name name precision amounts
  return {
    assetId := assetNia.assetId
    addedAt := assetNia.addedAt
    balance := assetNia.balance
    issuedSupply := assetNia.issuedSupply
    ticker := assetNia.ticker
    name := assetNia.name
    precision := assetNia.precision
    timestamp := assetNia.timestamp }

end Programs

/-! ### The supply that is requested -/

def totalAmount (amounts : List UInt64) : Nat := (amounts.map UInt64.toNat).sum

/-- The program requests this supply of the contract layer, or it ends with an error
before it has requested anything. -/
def RequestsSupply {α : Type} (supply : Nat)
    (x : Fallible (Exit RgbLibError) (List IssueAssetRequest) α)
    (requests : List IssueAssetRequest) : Prop :=
  (∃ request, after x requests = requests ++ [request] ∧ request.supply = supply) ∨
    ∃ e, x requests = .error e requests

/-- The sum is that of the integers, nothing panics, and what is requested is the sum,
unless the program ends with an error before it has requested anything. -/
structure IssuesTotal {α : Type} (overflowChecks : Bool) (amounts : List UInt64)
    (x : Fallible (Exit RgbLibError) IssuingWallet α) (w : IssuingWallet) : Prop where
  sum : sumU64 overflowChecks amounts = .ok (totalAmount amounts)
  answers : StopsOnly Exit.answers x w
  requests : (∃ request, (after x w).inner = w.inner ++ [request] ∧
      request.supply = totalAmount amounts) ∨
    ∃ e w', x w = .error e w' ∧ w'.inner = w.inner

variable {overflowChecks : Bool} {io : IssuanceIo} {w : IssuingWallet} {amounts : List UInt64}

theorem sumU64_eq_ok_iff :
    sumU64 overflowChecks amounts = .ok (totalAmount amounts) ↔ totalAmount amounts < 2 ^ 64 :=
  MachineInt.sum_eq_ok_sum_iff

theorem failsOnly_otherError {α : Type} (context : String) (x : Except String α) :
    FailsOnly Exit.answers (otherError context x) := by
  cases x with
  | ok a => exact .ok a
  | error e => exact FailsOnly.error_iff.mpr trivial

/-- What is done once the supply is known never panics. -/
theorem stopsOnly_issueSupply (ticker name : String) (precision totalSupply : Nat)
    (requests : List IssueAssetRequest) :
    StopsOnly Exit.answers (issueSupply io ticker name precision totalSupply) requests := by
  refine StopsOnly.attempt_bind_iff.mpr ⟨failsOnly_otherError _ _, fun _ _ => ?_⟩
  refine StopsOnly.attempt_bind_iff.mpr ⟨failsOnly_otherError _ _, fun utxos _ => ?_⟩
  cases utxos with
  | nil => exact StopsOnly.throw_iff.mpr trivial
  | cons genesisUtxo utxos =>
    rw [List.head?_cons, StopsOnly.bind_of_ok_iff (expect_some genesisUtxo _ requests),
      StopsOnly.bind_of_ok_iff (modify_apply _ requests), StopsOnly.attempt_bind_iff]
    constructor
    · cases io.issueAsset ⟨ticker, name, totalSupply, precision, genesisUtxo⟩ with
      | ok assetInfo => exact .ok assetInfo
      | error e => exact FailsOnly.error_iff.mpr trivial
    · intro assetInfo _
      exact StopsOnly.attempt_bind_iff.mpr ⟨failsOnly_otherError _ _, fun total _ => .pure _⟩

/-- Once there is an output to issue on, the supply is requested. -/
theorem requestsSupply_issueSupply (io : IssuanceIo) (ticker name : String)
    (precision totalSupply : Nat) (requests : List IssueAssetRequest) :
    RequestsSupply totalSupply (issueSupply io ticker name precision totalSupply) requests := by
  simp only [RequestsSupply, issueSupply, otherError]
  cases hsync : io.syncWallet with
  | error e => exact .inr ⟨_, rfl⟩
  | ok u =>
    cases hutxos : io.listUtxos ⟨true, false, true, some 1000⟩ with
    | error e => exact .inr ⟨_, rfl⟩
    | ok utxos =>
      cases utxos with
      | nil => exact .inr ⟨_, rfl⟩
      | cons genesisUtxo utxos =>
        refine .inl ⟨⟨ticker, name, totalSupply, precision, genesisUtxo⟩, ?_, rfl⟩
        rw [after_bind_of_ok (attempt_mapError_ok _ u requests),
          after_bind_of_ok (attempt_mapError_ok _ _ requests), List.head?_cons,
          after_bind_of_ok (expect_some genesisUtxo _ requests),
          after_bind_of_ok (modify_apply _ requests)]
        -- the steps after the request keep it
        have hkeeps : ∀ {β : Type} (x : Except (Exit RgbLibError) AssetInfo)
            (y : AssetInfo → Except (Exit RgbLibError) Nat) (f : AssetInfo → Nat → β),
            Keeps (fun l : List IssueAssetRequest => l) (attempt x >>= fun assetInfo =>
              attempt (y assetInfo) >>= fun total => pure (f assetInfo total)) :=
          fun x y f => .bind (.attempt x) fun assetInfo =>
            .bind (.attempt (y assetInfo)) fun total => .pure (f assetInfo total)
        exact hkeeps _ _ _ _

/-- An asset is issued with the sum of the amounts if and only if that is a 64-bit
number and the lock is not poisoned. -/
theorem issuesTotal_issueAssetNia_iff (ticker name : String) (precision : Nat) :
    IssuesTotal overflowChecks amounts
        (issueAssetNia overflowChecks io ticker name precision amounts) w ↔
      w.poisoned = false ∧ totalAmount amounts < 2 ^ 64 := by
  constructor
  · intro h
    exact ⟨((PoisonMutex.stopsOnly_locked_iff not_answers_poisonError).mp h.answers).1,
      sumU64_eq_ok_iff.mp h.sum⟩
  · rintro ⟨hw, hfits⟩
    have hsum : sumU64 overflowChecks amounts = .ok (totalAmount amounts) :=
      sumU64_eq_ok_iff.mpr hfits
    have hissue : issueAssetNia overflowChecks io ticker name precision amounts =
        PoisonMutex.locked Exit.answers poisonError
          (issueSupply io ticker name precision (totalAmount amounts)) := by
      rw [issueAssetNia, hsum]
      rfl
    rw [hissue]
    refine ⟨hsum, (PoisonMutex.stopsOnly_locked_iff not_answers_poisonError).mpr
      ⟨hw, stopsOnly_issueSupply ticker name precision _ w.inner⟩, ?_⟩
    rw [PoisonMutex.inner_after_locked hw]
    obtain hrequest | ⟨e, herror⟩ :=
      requestsSupply_issueSupply io ticker name precision (totalAmount amounts) w.inner
    · exact .inl hrequest
    · exact .inr ⟨e, _, PoisonMutex.locked_of_error hw herror, rfl⟩

/-- Computing an answer from the result of a program does not change the supply. -/
theorem issuesTotal_bind_pure_iff {α β : Type} {x : Fallible (Exit RgbLibError) IssuingWallet α}
    (f : α → β) : IssuesTotal overflowChecks amounts (x >>= fun a => pure (f a)) w ↔
      IssuesTotal overflowChecks amounts x w := by
  have herror : ∀ e w', (x >>= fun a => pure (f a)) w = .error e w' ↔ x w = .error e w' := by
    intro e w'
    rw [bind_apply]
    cases x w <;> simp
  have hafter : after (x >>= fun a => pure (f a)) w = after x w :=
    after_bind_of_keeps (fun a => .pure (f a)) w
  constructor
  · rintro ⟨hsum, hanswers, hrequests⟩
    refine ⟨hsum, fun e w' hx => hanswers e w' ((herror e w').mpr hx), ?_⟩
    simpa only [hafter, herror] using hrequests
  · rintro ⟨hsum, hanswers, hrequests⟩
    refine ⟨hsum, fun e w' hx => hanswers e w' ((herror e w').mp hx), ?_⟩
    simpa only [hafter, herror] using hrequests

/-- The same for an asset that is issued with one name for the ticker and the name. -/
theorem issuesTotal_issueAssetCfa_iff (name : String) (precision : Nat) :
    IssuesTotal overflowChecks amounts (issueAssetCfa overflowChecks io name precision amounts) w ↔
      w.poisoned = false ∧ totalAmount amounts < 2 ^ 64 := by
  exact (issuesTotal_bind_pure_iff _).trans (issuesTotal_issueAssetNia_iff name name precision)

/-- Every asset is issued with the sum of its amounts if and only if that is a 64-bit
number and the lock is not poisoned. -/
theorem issuesTotal_iff (overflowChecks : Bool) (io : IssuanceIo) (ticker name : String)
    (precision : Nat) (amounts : List UInt64) (w : IssuingWallet) :
    (IssuesTotal overflowChecks amounts
        (issueAssetNia overflowChecks io ticker name precision amounts) w ↔
      w.poisoned = false ∧ totalAmount amounts < 2 ^ 64) ∧
    (IssuesTotal overflowChecks amounts
        (issueAssetCfa overflowChecks io name precision amounts) w ↔
      w.poisoned = false ∧ totalAmount amounts < 2 ^ 64) :=
  ⟨issuesTotal_issueAssetNia_iff ticker name precision,
    issuesTotal_issueAssetCfa_iff name precision⟩

/-- A wallet manager that issues what it is asked to. -/
def issuingIo : IssuanceIo where
  syncWallet := .ok ()
  listUtxos _ := .ok ["00:0"]
  issueAsset request :=
    .ok ⟨"contract", request.ticker, request.name, request.precision, request.supply⟩
  assetBalance _ := .ok 0
  addedAt := 0
  timestamp := 0

/-- Two amounts of which a release build issues nothing at all, and a debug build
poisons the lock. -/
theorem issues_wrapped_sum :
    ¬IssuesTotal false [0xffffffffffffffff, 1]
        (issueAssetNia false issuingIo "T" "N" 0 [0xffffffffffffffff, 1]) ⟨false, []⟩ ∧
      (after (issueAssetNia false issuingIo "T" "N" 0 [0xffffffffffffffff, 1])
        ⟨false, []⟩).inner.map IssueAssetRequest.supply = [0] ∧
      ¬IssuesTotal true [0xffffffffffffffff, 1]
        (issueAssetNia true issuingIo "T" "N" 0 [0xffffffffffffffff, 1]) ⟨false, []⟩ ∧
      (after (issueAssetNia true issuingIo "T" "N" 0 [0xffffffffffffffff, 1])
        ⟨false, []⟩).poisoned = true := by
  refine ⟨fun h => ?_, by decide, fun h => ?_, by decide⟩
  · exact absurd ((issuesTotal_issueAssetNia_iff "T" "N" 0).mp h).2 (by decide)
  · exact absurd ((issuesTotal_issueAssetNia_iff "T" "N" 0).mp h).2 (by decide)

end RgbLightningNode
