import RgbLightningNode.Adapter.Claim

/-!
# The output a claim lands on

A claim is made to a small output of the wallet that carries no tokens. When
there is none, one is created, and the output that is listed last is taken for
it. The wallet lists its outputs in no particular order.
-/

namespace RgbLightningNode

open Fallible

/-- An allocation of a contract on an output. -/
structure SealInfo where
  contractId : String
  amount : Option Nat

structure UtxoInfo where
  txid : String
  vout : Nat
  amountSats : Nat
  rgbAssets : List SealInfo

def UtxoInfo.toUnspent (utxo : UtxoInfo) : Unspent where
  txid := utxo.txid
  vout := utxo.vout
  btcAmount := utxo.amountSats
  hasAllocations := !utxo.rgbAssets.isEmpty

def listUnspents : Except String (List UtxoInfo) → Except String (List Unspent)
  | .ok utxos => .ok (utxos.map UtxoInfo.toUnspent)
  | .error e => .error s!"Failed to list UTXOs: {e}"

/-- The wallet, before and after an output is created on demand. -/
structure ClaimWallet where
  listUtxos : Except String (List UtxoInfo)
  createUtxos : Except String Unit
  listAgain : Except String (List UtxoInfo)

namespace ClaimWallet

def io (w : ClaimWallet) : ClaimUtxoIo where
  listUnspents := RgbLightningNode.listUnspents w.listUtxos
  createUtxos := w.createUtxos
  listAgain := RgbLightningNode.listUnspents w.listAgain

end ClaimWallet

namespace UtxoInfo

def utxo (utxo : UtxoInfo) : String := utxo.toUnspent.utxo

/-- Fit for a claim: free and small. -/
def IsClaimable (utxo : UtxoInfo) : Prop := utxo.rgbAssets = [] ∧ utxo.amountSats ≤ 2000

instance (utxo : UtxoInfo) : Decidable utxo.IsClaimable :=
  inferInstanceAs (Decidable (_ ∧ _))

/-- Some output of the text is listed, and none of it carries tokens. -/
def Free (utxos : List UtxoInfo) (claimUtxo : String) : Prop :=
  (∃ u ∈ utxos, u.utxo = claimUtxo) ∧ ∀ u ∈ utxos, u.utxo = claimUtxo → u.rgbAssets = []

theorem hasAllocations_toUnspent_eq_false_iff {utxo : UtxoInfo} :
    utxo.toUnspent.hasAllocations = false ↔ utxo.rgbAssets = [] := by
  rw [toUnspent, Bool.not_eq_false', List.isEmpty_iff]

/-- Where every outpoint is listed once, an outpoint is free if and only if its listed
output carries no tokens. -/
theorem free_iff {utxos : List UtxoInfo} {u : UtxoInfo} (honce : (utxos.map utxo).Nodup)
    (hu : u ∈ utxos) : Free utxos u.utxo ↔ u.rgbAssets = [] := by
  constructor
  · intro h
    exact h.2 u hu rfl
  · intro h
    refine ⟨⟨u, hu, rfl⟩, fun v hv hutxo => ?_⟩
    rw [List.inj_on_of_nodup_map honce hv hu hutxo]
    exact h

end UtxoInfo

/-! ### The smallest free output -/

theorem mem_of_smallestFree {utxos : List UtxoInfo} {found : Unspent}
    (h : smallestFree (utxos.map UtxoInfo.toUnspent) = some found) :
    ∃ u ∈ utxos, u.IsClaimable ∧ u.toUnspent = found := by
  have hmem := List.argmin_mem h
  rw [List.mem_filter, List.mem_filter, List.mem_map] at hmem
  obtain ⟨⟨⟨u, hu, rfl⟩, hfree⟩, hsmall⟩ := hmem
  have hnone : u.toUnspent.hasAllocations = false := by simpa using hfree
  exact ⟨u, hu, ⟨UtxoInfo.hasAllocations_toUnspent_eq_false_iff.mp hnone,
    of_decide_eq_true hsmall⟩, rfl⟩

theorem smallestFree_eq_none_iff {utxos : List UtxoInfo} :
    smallestFree (utxos.map UtxoInfo.toUnspent) = none ↔ ∀ u ∈ utxos, ¬u.IsClaimable := by
  constructor
  · intro h u hu ⟨hfree, hsmall⟩
    have hempty := List.argmin_eq_none.mp h
    have hmem : u.toUnspent ∈ ((utxos.map UtxoInfo.toUnspent).filter
        fun u => !u.hasAllocations).filter fun u => decide (u.btcAmount ≤ 2000) := by
      rw [List.mem_filter, List.mem_filter]
      refine ⟨⟨List.mem_map_of_mem hu, ?_⟩, decide_eq_true hsmall⟩
      rw [UtxoInfo.hasAllocations_toUnspent_eq_false_iff.mpr hfree]
      rfl
    rw [hempty] at hmem
    cases hmem
  · intro h
    cases hfound : smallestFree (utxos.map UtxoInfo.toUnspent) with
    | none => rfl
    | some found =>
      obtain ⟨u, hu, hclaimable, -⟩ := mem_of_smallestFree hfound
      exact absurd hclaimable (h u hu)

/-! ### The two paths -/

namespace ClaimWallet

variable {w : ClaimWallet} {before after : List UtxoInfo} {claimUtxo : String}

/-- The outputs the wallet has listed last when an output is chosen. -/
def Listed (w : ClaimWallet) (utxos : List UtxoInfo) : Prop :=
  w.listUtxos = .ok utxos ∧ (∃ u ∈ utxos, u.IsClaimable) ∨
    (∃ before, w.listUtxos = .ok before ∧ ∀ u ∈ before, ¬u.IsClaimable) ∧
      w.createUtxos = .ok () ∧ w.listAgain = .ok utxos

/-- The wallet lists an outpoint once. -/
def ListsOnce (w : ClaimWallet) : Prop :=
  ∀ utxos, w.listUtxos = .ok utxos ∨ w.listAgain = .ok utxos → (utxos.map UtxoInfo.utxo).Nodup

/-- Creating outputs leaves those that are listed, and adds free ones among them. -/
def AddsFree (w : ClaimWallet) : Prop :=
  ∀ before after, w.listUtxos = .ok before → w.createUtxos = .ok () → w.listAgain = .ok after →
    before.Sublist after ∧ before.length < after.length ∧
      ∀ u ∈ after, u ∈ before ∨ u.rgbAssets = []

/-- What is returned is an outpoint of the wallet without tokens. -/
def ClaimsToFree (w : ClaimWallet) : Prop :=
  ∀ claimUtxo, getClaimUtxo w.io = .ok claimUtxo →
    ∃ utxos, w.Listed utxos ∧ UtxoInfo.Free utxos claimUtxo

/-- The direct path takes a claimable output. -/
theorem getClaimUtxo_of_claimable (h : w.listUtxos = .ok before)
    (hsome : ∃ u ∈ before, u.IsClaimable) :
    ∃ u ∈ before, u.IsClaimable ∧ getClaimUtxo w.io = .ok u.utxo := by
  cases hfound : smallestFree (before.map UtxoInfo.toUnspent) with
  | none =>
    obtain ⟨u, hu, hclaimable⟩ := hsome
    exact absurd hclaimable (smallestFree_eq_none_iff.mp hfound u hu)
  | some found =>
    obtain ⟨u, hu, hclaimable, rfl⟩ := mem_of_smallestFree hfound
    refine ⟨u, hu, hclaimable, ?_⟩
    rw [getClaimUtxo, io, h]
    dsimp only [listUnspents]
    rw [except_ok_bind, hfound]
    rfl

/-- The other path takes the last output that is listed after the creation. -/
theorem getClaimUtxo_of_none (h : w.listUtxos = .ok before)
    (hnone : ∀ u ∈ before, ¬u.IsClaimable) :
    getClaimUtxo w.io = .ok claimUtxo ↔
      w.createUtxos = .ok () ∧ ∃ after, w.listAgain = .ok after ∧
        ∃ u, after.getLast? = some u ∧ u.utxo = claimUtxo := by
  rw [getClaimUtxo, io, h]
  dsimp only [listUnspents]
  rw [except_ok_bind, smallestFree_eq_none_iff.mpr hnone]
  dsimp only
  cases w.createUtxos with
  | error e =>
    constructor
    · intro hclaim
      cases hclaim
    · intro ⟨hcreated, _⟩
      cases hcreated
  | ok _ =>
    rw [except_ok_bind]
    cases w.listAgain with
    | error e =>
      constructor
      · intro hclaim
        cases hclaim
      · intro ⟨_, after, hagain, _⟩
        cases hagain
    | ok after =>
      rw [except_ok_bind, List.getLast?_map]
      cases hlast : after.getLast? with
      | none => simp [hlast]
      | some u =>
        constructor
        · intro hclaim
          exact ⟨rfl, after, rfl, u, hlast, Except.ok.inj hclaim⟩
        · intro ⟨_, utxos, hutxos, v, hv, hutxo⟩
          obtain rfl := Except.ok.inj hutxos
          obtain rfl := Option.some.inj (hlast.symm.trans hv)
          exact congrArg Except.ok hutxo

/-! ### When a claim lands on a free output -/

theorem claimsToFree_of_claimable (honce : w.ListsOnce) (h : w.listUtxos = .ok before)
    (hsome : ∃ u ∈ before, u.IsClaimable) : w.ClaimsToFree := by
  intro claimUtxo hclaim
  obtain ⟨u, hu, hclaimable, hreturned⟩ := getClaimUtxo_of_claimable h hsome
  obtain rfl := Except.ok.inj (hreturned.symm.trans hclaim)
  exact ⟨before, .inl ⟨h, hsome⟩,
    (UtxoInfo.free_iff (honce before (.inl h)) hu).mpr hclaimable.1⟩

/-- On the other path, the outputs listed last are those after the creation. -/
theorem listed_iff_of_none (h : w.listUtxos = .ok before)
    (hnone : ∀ u ∈ before, ¬u.IsClaimable) :
    w.Listed after ↔ w.createUtxos = .ok () ∧ w.listAgain = .ok after := by
  constructor
  · intro hlisted
    obtain ⟨hbefore, u, hu, hclaimable⟩ | ⟨-, hcreated, hagain⟩ := hlisted
    · obtain rfl := Except.ok.inj (h.symm.trans hbefore)
      exact absurd hclaimable (hnone u hu)
    · exact ⟨hcreated, hagain⟩
  · intro ⟨hcreated, hagain⟩
    exact .inr ⟨⟨before, h, hnone⟩, hcreated, hagain⟩

theorem claimsToFree_iff_of_none (honce : w.ListsOnce) (h : w.listUtxos = .ok before)
    (hnone : ∀ u ∈ before, ¬u.IsClaimable) :
    w.ClaimsToFree ↔ ∀ after u, w.createUtxos = .ok () → w.listAgain = .ok after →
      after.getLast? = some u → u.rgbAssets = [] := by
  constructor
  · intro hfree after u hcreated hagain hlast
    obtain ⟨utxos, hlisted, hu⟩ := hfree u.utxo
      ((getClaimUtxo_of_none h hnone).mpr ⟨hcreated, after, hagain, u, hlast, rfl⟩)
    obtain ⟨-, hutxos⟩ := (listed_iff_of_none h hnone).mp hlisted
    obtain rfl := Except.ok.inj (hagain.symm.trans hutxos)
    exact hu.2 u (List.mem_of_getLast? hlast) rfl
  · intro hlast claimUtxo hclaim
    obtain ⟨hcreated, after, hagain, u, hu, rfl⟩ := (getClaimUtxo_of_none h hnone).mp hclaim
    refine ⟨after, (listed_iff_of_none h hnone).mpr ⟨hcreated, hagain⟩, ?_⟩
    exact (UtxoInfo.free_iff (honce after (.inr hagain)) (List.mem_of_getLast? hu)).mpr
      (hlast after u hcreated hagain hu)

/-- A claim lands on a free output if and only if the wallet has one of the size
of a claim, or the output it lists last after one has been created is free. -/
theorem claimsToFree_iff (honce : w.ListsOnce) :
    w.ClaimsToFree ↔ ∀ before after u, w.listUtxos = .ok before →
      (∀ v ∈ before, ¬v.IsClaimable) → w.createUtxos = .ok () → w.listAgain = .ok after →
      after.getLast? = some u → u.rgbAssets = [] := by
  cases h : w.listUtxos with
  | error e =>
    have hclaim : getClaimUtxo w.io = .error s!"Failed to list UTXOs: {e}" := by
      rw [getClaimUtxo, io, h]
      rfl
    simp [ClaimsToFree, hclaim]
  | ok before =>
    by_cases hsome : ∃ u ∈ before, u.IsClaimable
    · refine ⟨fun _ utxos after u hutxos hnone => ?_, fun _ =>
        claimsToFree_of_claimable honce h hsome⟩
      obtain rfl := Except.ok.inj hutxos
      obtain ⟨v, hv, hclaimable⟩ := hsome
      exact absurd hclaimable (hnone v hv)
    · have hnone : ∀ u ∈ before, ¬u.IsClaimable := fun u hu hclaimable =>
        hsome ⟨u, hu, hclaimable⟩
      rw [claimsToFree_iff_of_none honce h hnone]
      constructor
      · intro hlast utxos after u _ _
        exact hlast after u
      · intro hlast after u
        exact hlast before after u rfl hnone

/-- A wallet with one occupied output, which is listed before or behind the new one. -/
def oneOccupied (newFirst : Bool) : ClaimWallet where
  listUtxos := .ok [⟨"aa", 0, 1000, [⟨"c1", some 5⟩]⟩]
  createUtxos := .ok ()
  listAgain :=
    if newFirst then .ok [⟨"bb", 1, 1000, []⟩, ⟨"aa", 0, 1000, [⟨"c1", some 5⟩]⟩]
    else .ok [⟨"aa", 0, 1000, [⟨"c1", some 5⟩]⟩, ⟨"bb", 1, 1000, []⟩]

theorem listsOnce_oneOccupied (newFirst : Bool) : (oneOccupied newFirst).ListsOnce := by
  intro utxos h
  cases newFirst <;> obtain h | h := h <;> cases h <;> decide

/-- The new output is taken when it is listed last. -/
theorem claimsToFree_of_newLast :
    (oneOccupied false).ClaimsToFree ↔ ∀ before after u,
      (oneOccupied false).listUtxos = .ok before → (∀ v ∈ before, ¬v.IsClaimable) →
      (oneOccupied false).createUtxos = .ok () → (oneOccupied false).listAgain = .ok after →
      after.getLast? = some u → u.rgbAssets = [] :=
  claimsToFree_iff (listsOnce_oneOccupied false)

/-- When it is not, the claim lands on the tokens of another contract. -/
theorem claims_to_occupied :
    ¬∀ w : ClaimWallet, w.ListsOnce → w.AddsFree → w.ClaimsToFree := by
  intro h
  have hadds : (oneOccupied true).AddsFree := by
    intro before after hbefore _ hafter
    obtain rfl := Except.ok.inj hbefore
    obtain rfl := Except.ok.inj hafter
    exact ⟨.cons _ (.refl _), by decide, by simp⟩
  have hclaim : getClaimUtxo (oneOccupied true).io = .ok "aa:0" := by decide
  obtain ⟨utxos, hlisted, hfree⟩ := h _ (listsOnce_oneOccupied true) hadds _ hclaim
  have hnone : ∀ u ∈ [(⟨"aa", 0, 1000, [⟨"c1", some 5⟩]⟩ : UtxoInfo)], ¬u.IsClaimable := by
    intro u hu hclaimable
    obtain rfl := List.mem_singleton.mp hu
    cases hclaimable.1
  obtain ⟨-, hutxos⟩ := (listed_iff_of_none rfl hnone).mp hlisted
  obtain rfl := Except.ok.inj hutxos
  have hempty := hfree.2 ⟨"aa", 0, 1000, [⟨"c1", some 5⟩]⟩ (by simp) (by decide)
  cases hempty

end ClaimWallet

end RgbLightningNode
