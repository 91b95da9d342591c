import RgbLightningNode.Lib.Mealy
import RgbLightningNode.Adapter.TokenWallet
import RgbLightningNode.SwapString

/-!
# Balance and source over a history

Tokens start at the genesis UTXO and leave from there; claims and receipts bring
them to other outputs of the wallet, which count in the balance and are never
named as a source. The invariant is that every output of the wallet that holds
tokens is a genesis UTXO of the wallet's own key.
-/

namespace RgbLightningNode

open Fallible

namespace TokenWallet

inductive Step where
  /-- A new contract starts with its supply at the genesis UTXO. -/
  | issue (contractId genesisTxid : String) (genesisVout : UInt32) (derivationIndex supply : Nat)
  /-- A contract of others becomes known. -/
  | importContract (contractId : String) (r : ContractRecord)
  /-- A coloured channel is funded. -/
  | fundChannel (contractId : String) (amount : Nat) (out : FundingOutput)
  /-- Tokens are sent on chain. -/
  | send (contractId : String) (amount : Nat) (tx : Transaction)
  /-- The tokens of a closed channel are split between the two sides. -/
  | settleChannel (contractId fundingUtxo : String) (sha256 : String → String)
      (holderAmount counterpartyAmount : Nat) (holderPubkey counterpartyPubkey : String)
  /-- This node's tokens of a closed channel are moved to an output. -/
  | claim (contractId witnessId claimUtxo owner : String)
  /-- Another key moves tokens to a place. -/
  | receive (contractId place : String) (amount : Nat) (owner : String)
  /-- Transactions change the outputs of the wallet. -/
  | setUtxos (utxos : Finset String) (notWitness : ∀ u ∈ utxos, ¬IsWitness u)

def setLedger (w : TokenWallet) (contractId : String) (l : Ledger String String) : TokenWallet :=
  { w with ledger := Function.update w.ledger contractId l }

/-- The ledger behind a transfer that the contract carries out. -/
def applyTransfer (w : TokenWallet) (contractId : String) :
    Except (Exit String) Transfer → TokenWallet
  | .ok t => w.setLedger contractId
      (((w.ledger contractId).withdraw t.source t.amount).deposit t.target t.amount t.toPubKey)
  | .error _ => w

def step (w : TokenWallet) : Step → Unit × TokenWallet
  | .issue contractId genesisTxid genesisVout derivationIndex supply =>
    ((), { w with
      contracts := (contractId, ⟨genesisTxid, genesisVout, some derivationIndex⟩) :: w.contracts
      ledger := Function.update w.ledger contractId (Ledger.empty.deposit
        (ContractRecord.genesisUtxo ⟨genesisTxid, genesisVout, some derivationIndex⟩) supply
        (w.childKey derivationIndex)) })
  | .importContract contractId r =>
    ((), if (w.contracts.lookup contractId).isSome then w
      else { w with contracts := (contractId, r) :: w.contracts })
  | .fundChannel contractId amount out =>
    ((), w.applyTransfer contractId
      (transferTokens (w.sendEndIo contractId) ⟨contractId, amount⟩ out))
  | .send contractId amount tx =>
    ((), w.applyTransfer contractId (sendTokens (w.sendEndIo contractId) contractId amount tx))
  | .settleChannel contractId fundingUtxo sha256 holderAmount counterpartyAmount holderPubkey
      counterpartyPubkey =>
    ((), w.setLedger contractId
      ((((w.ledger contractId).withdraw ("witness:" ++ fundingUtxo)
        (holderAmount + counterpartyAmount)).deposit (channelWitness sha256 fundingUtxo "holder")
          holderAmount holderPubkey).deposit (channelWitness sha256 fundingUtxo "counterparty")
          counterpartyAmount counterpartyPubkey))
  | .claim contractId witnessId claimUtxo owner =>
    ((), w.setLedger contractId
      (((w.ledger contractId).withdraw witnessId ((w.ledger contractId).amount witnessId)).deposit
        claimUtxo ((w.ledger contractId).amount witnessId) owner))
  | .receive contractId place amount owner =>
    ((), w.setLedger contractId ((w.ledger contractId).deposit place amount owner))
  | .setUtxos utxos notWitness => ((), { w with utxos := utxos, notWitness := notWitness })

/-- Every amount that is accepted against the balance is there to be moved. -/
structure AmountsThere (ContractId : Type) [ContractIdText ContractId] (w : TokenWallet) :
    Prop where
  openChannel : ∀ (req : OpenChannelRequest) (contractId : ContractId) (amount : Nat)
    (balance : Balance), coloredInfo req.assetId req.assetAmount = .ok (some (contractId, amount)) →
    getAssetBalance (.ok (w.total (ContractIdText.toText contractId))) = .ok balance →
    checkSpendable balance amount = .ok () → w.SourceHolds (ContractIdText.toText contractId) amount
  send : ∀ (assetId : String) (amount : Nat) (balance : Balance),
    getAssetBalance (.ok (w.total assetId)) = .ok balance → 1 ≤ amount →
    amount ≤ balance.spendable → w.SourceHolds assetId amount

/-- An output of the wallet that gets tokens from elsewhere is the genesis UTXO
of the contract, and the tokens then belong to the derivation key. -/
def TokensComeTo (w : TokenWallet) (contractId place owner : String) (amount : Nat) : Prop :=
  0 < amount → place ∈ w.utxos → ∃ r index, w.contracts.lookup contractId = some r ∧
    r.genesisUtxo = place ∧ r.derivationIndex = some index ∧ owner = w.childKey index

/-- The step brings no tokens to an output of the wallet that is not named as
the source of its contract. -/
def KeepsSource (w : TokenWallet) : Step → Prop
  | .claim contractId witnessId claimUtxo owner =>
    w.TokensComeTo contractId claimUtxo owner ((w.ledger contractId).amount witnessId)
  | .receive contractId place amount owner => w.TokensComeTo contractId place owner amount
  | .setUtxos utxos _ => ∀ contractId, ∀ u ∈ utxos, u ∉ w.utxos →
    0 < (w.ledger contractId).amount u → w.SpendableAt contractId u
  | _ => True

/-- The wallet keeps a genesis UTXO of its own as long as it holds tokens: coin selection
does not spend it. -/
def GenesisKept (w : TokenWallet) : Prop :=
  ∀ contractId place, w.SpendableAt contractId place →
    0 < (w.ledger contractId).amount place → place ∈ w.utxos

/-- Where the wallet holds tokens it can name the place as their source. -/
def OnlyAtSource (w : TokenWallet) : Prop :=
  ∀ contractId, ∀ u ∈ w.utxos, 0 < (w.ledger contractId).amount u → w.SpendableAt contractId u

variable {w : TokenWallet} {contractId : String}

/-! ### What one step does to the invariant -/

theorem spendableAt_setLedger_iff {l : Ledger String String} {other place : String} :
    (w.setLedger contractId l).SpendableAt other place ↔
      ∃ r index, w.contracts.lookup other = some r ∧ r.genesisUtxo = place ∧
        r.derivationIndex = some index ∧
        (if other = contractId then l else w.ledger other).owner place =
          some (w.childKey index) := by
  simp only [SpendableAt, setLedger, Function.update_apply]

theorem ledger_setLedger (w : TokenWallet) (contractId : String) (l : Ledger String String)
    (other : String) :
    (w.setLedger contractId l).ledger other = if other = contractId then l else w.ledger other := by
  simp only [setLedger, Function.update_apply]

/-- A contract that puts tokens nowhere in the wallet keeps the invariant. -/
theorem onlyAtSource_setLedger {l : Ledger String String} (h : w.OnlyAtSource)
    (hl : (w.ledger contractId).NoNewAt w.utxos l) : (w.setLedger contractId l).OnlyAtSource := by
  intro other u hu hpos
  rw [ledger_setLedger] at hpos
  rw [spendableAt_setLedger_iff]
  split at hpos
  · rename_i heq
    subst heq
    obtain ⟨hpos, howner⟩ := hl u hu hpos
    obtain ⟨r, index, hr, hg, hindex, hown⟩ := h other u hu hpos
    exact ⟨r, index, hr, hg, hindex, by rw [if_pos rfl, howner, hown]⟩
  · rename_i hne
    obtain ⟨r, index, hr, hg, hindex, hown⟩ := h other u hu hpos
    exact ⟨r, index, hr, hg, hindex, by rw [if_neg hne, hown]⟩

/-- A deposit at a place keeps the invariant exactly when the place is no output of the
wallet, or can be named as the source of the tokens. -/
theorem onlyAtSource_deposit_iff {l : Ledger String String} {place owner : String} {n : Nat}
    (h : w.OnlyAtSource) (hl : (w.ledger contractId).NoNewAt w.utxos l) :
    (w.setLedger contractId (l.deposit place n owner)).OnlyAtSource ↔
      w.TokensComeTo contractId place owner n := by
  constructor
  · intro hafter hn hplace
    have hpos : 0 < ((w.setLedger contractId (l.deposit place n owner)).ledger contractId).amount
        place := by
      rw [ledger_setLedger, if_pos rfl, Ledger.amount_deposit_self]
      omega
    obtain ⟨r, index, hr, hg, hindex, hown⟩ :=
      spendableAt_setLedger_iff.mp (hafter contractId place hplace hpos)
    rw [if_pos rfl, Ledger.owner_deposit_self hn.ne'] at hown
    exact ⟨r, index, hr, hg, hindex, Option.some.inj hown⟩
  · intro hcome
    rcases Nat.eq_zero_or_pos n with rfl | hn
    · rw [Ledger.deposit_zero]
      exact onlyAtSource_setLedger h hl
    by_cases hplace : place ∈ w.utxos
    swap
    · exact onlyAtSource_setLedger h (hl.deposit hplace n owner)
    obtain ⟨r, index, hr, hg, hindex, rfl⟩ := hcome hn hplace
    intro other u hu hpos
    by_cases hu' : other = contractId ∧ u = place
    · obtain ⟨rfl, rfl⟩ := hu'
      exact spendableAt_setLedger_iff.mpr ⟨r, index, hr, hg, hindex, by
        rw [if_pos rfl, Ledger.owner_deposit_self hn.ne']⟩
    · -- every other place is as it was
      rw [ledger_setLedger] at hpos
      rw [spendableAt_setLedger_iff]
      split at hpos
      · rename_i heq
        subst heq
        have hne : u ≠ place := fun he => hu' ⟨rfl, he⟩
        rw [Ledger.amount_deposit_of_ne hne] at hpos
        obtain ⟨hpos, howner⟩ := hl u hu hpos
        obtain ⟨r', i', hr', hg', hi', hown⟩ := h other u hu hpos
        exact ⟨r', i', hr', hg', hi', by
          rw [if_pos rfl, Ledger.owner_deposit_of_ne hne, howner, hown]⟩
      · rename_i hne
        obtain ⟨r', i', hr', hg', hi', hown⟩ := h other u hu hpos
        exact ⟨r', i', hr', hg', hi', by rw [if_neg hne, hown]⟩

theorem onlyAtSource_applyTransfer (h : w.OnlyAtSource) {t : Except (Exit String) Transfer}
    (hwitness : ∀ transfer, t = .ok transfer → IsWitness transfer.target) :
    (w.applyTransfer contractId t).OnlyAtSource := by
  rcases t with exit | t
  · exact h
  · have hplace : t.target ∉ w.utxos := fun hu => w.notWitness _ hu (hwitness t rfl)
    exact onlyAtSource_setLedger h ((Ledger.noNewAt_withdraw _ _ _ _).deposit hplace _ _)

theorem target_of_transferTokens {amount : Nat} {out : FundingOutput} {t : Transfer}
    (h : transferTokens (w.sendEndIo contractId) ⟨contractId, amount⟩ out = .ok t) :
    IsWitness t.target := by
  obtain ⟨_, _, _, _, rfl, _⟩ := transferTokens_eq_ok_iff.mp h
  exact isWitness_witnessId out

/-- From a wallet that holds tokens only where it can name them, a step leads to
such a wallet exactly when it brings none to another output. -/
theorem onlyAtSource_step_iff (h : w.OnlyAtSource) (s : Step) :
    (w.step s).2.OnlyAtSource ↔ w.KeepsSource s := by
  cases s with
  | issue contractId genesisTxid genesisVout derivationIndex supply =>
    -- the supply starts at the genesis UTXO and nowhere else
    refine iff_of_true (fun other u hu hpos => ?_) trivial
    by_cases ho : other = contractId
    · subst ho
      simp only [step, Function.update_self] at hpos
      by_cases hplace : u = ContractRecord.genesisUtxo
          ⟨genesisTxid, genesisVout, some derivationIndex⟩
      · subst hplace
        have hsupply : supply ≠ 0 := by
          rintro rfl
          simp [Ledger.empty] at hpos
        exact ⟨_, derivationIndex, List.lookup_cons_self, rfl, rfl, by
          simp only [step, Function.update_self, Ledger.owner_deposit_self hsupply]⟩
      · rw [Ledger.amount_deposit_of_ne hplace] at hpos
        simp [Ledger.empty] at hpos
    · simp only [step, Function.update_of_ne ho] at hpos
      obtain ⟨r, index, hr, hg, hindex, hown⟩ := h other u hu hpos
      have hb : (other == contractId) = false := by simpa using ho
      exact ⟨r, index, by simp only [step, List.lookup_cons, hb, hr], hg, hindex, by
        simp only [step, Function.update_of_ne ho, hown]⟩
  | importContract contractId r =>
    refine iff_of_true ?_ trivial
    by_cases hold : (w.contracts.lookup contractId).isSome
    · simpa only [step, if_pos hold] using h
    simp only [step, if_neg hold]
    intro other u hu hpos
    obtain ⟨r', index, hr, hg, hindex, hown⟩ := h other u hu hpos
    have hne : other ≠ contractId := by
      rintro rfl
      exact hold (by rw [hr]; rfl)
    have hb : (other == contractId) = false := by simpa using hne
    exact ⟨r', index, by simp only [List.lookup_cons, hb, hr], hg, hindex, hown⟩
  | fundChannel contractId amount out =>
    exact iff_of_true (onlyAtSource_applyTransfer h fun _ => target_of_transferTokens) trivial
  | send contractId amount tx =>
    refine iff_of_true (onlyAtSource_applyTransfer h fun t ht => ?_) trivial
    obtain ⟨out, ht⟩ := sendTokens_of_ok ht
    exact target_of_transferTokens ht
  | settleChannel contractId fundingUtxo sha256 holderAmount counterpartyAmount holderPubkey
      counterpartyPubkey =>
    have hrole : ∀ role, channelWitness sha256 fundingUtxo role ∉ w.utxos := fun role hu =>
      w.notWitness _ hu (isWitness_channelWitness sha256 fundingUtxo role)
    exact iff_of_true (onlyAtSource_setLedger h
      (((Ledger.noNewAt_withdraw _ _ _ _).deposit (hrole "holder") _ _).deposit
        (hrole "counterparty") _ _)) trivial
  | claim contractId witnessId claimUtxo owner =>
    exact onlyAtSource_deposit_iff h (Ledger.noNewAt_withdraw _ _ _ _)
  | receive contractId place amount owner =>
    exact onlyAtSource_deposit_iff h (Ledger.noNewAt_refl _ _)
  | setUtxos utxos notWitness =>
    constructor
    · exact fun hafter contractId u hu _ hpos => hafter contractId u hu hpos
    · intro hkeeps contractId u hu hpos
      by_cases hold : u ∈ w.utxos
      · exact h contractId u hold hpos
      · exact hkeeps contractId u hu hold hpos

/-! ### What the invariant says about the balance -/

/-- Tokens that lie only where they can be named are there to be moved. -/
theorem sourceHolds_of_onlyAtSource (h : w.OnlyAtSource) {amount : Nat} (hmin : 1 ≤ amount)
    (hamount : amount ≤ w.total contractId) : w.SourceHolds contractId amount := by
  obtain ⟨place, hplace, hpos⟩ := Ledger.exists_pos_of_total_pos (hmin.trans hamount)
  have hspend := h contractId place hplace hpos
  refine sourceHolds_iff.mpr ⟨place, hspend, hamount.trans (Ledger.total_le_amount ?_)⟩
  intro other ho hne
  by_contra hnz
  obtain ⟨r, _, hr, hg, _⟩ := hspend
  obtain ⟨r', _, hr', hg', _⟩ := h contractId other ho (Nat.pos_of_ne_zero hnz)
  obtain rfl := Option.some.inj (hr.symm.trans hr')
  exact hne (hg'.symm.trans hg)

variable {ContractId : Type} [ContractIdText ContractId]

theorem amountsThere_of_onlyAtSource (h : w.OnlyAtSource) : w.AmountsThere ContractId := by
  constructor
  · intro req contractId amount balance hinfo hbalance hcheck
    obtain rfl := Except.ok.inj hbalance
    have hle := checkSpendable_eq_ok_iff.mp hcheck
    exact sourceHolds_of_onlyAtSource h (coloredInfo_of_ok hinfo) hle
  · intro assetId amount balance hbalance hmin hamount
    obtain rfl := Except.ok.inj hbalance
    exact sourceHolds_of_onlyAtSource h hmin hamount

theorem onlyAtSource_of_amountsThere (hkept : w.GenesisKept) (h : w.AmountsThere ContractId) :
    w.OnlyAtSource := by
  intro contractId u hu hpos
  have htotal : 1 ≤ w.total contractId :=
    le_trans hpos (Finset.single_le_sum (fun _ _ => Nat.zero_le _) hu)
  obtain ⟨place, hspend, hamount⟩ :=
    sourceHolds_iff.mp (h.send contractId (w.total contractId) _ rfl htotal le_rfl)
  -- the source holds the whole total, so nothing lies anywhere else
  have hplace := hkept contractId place hspend (htotal.trans hamount)
  by_cases hne : u = place
  · exact hne ▸ hspend
  · exact absurd (Ledger.amount_eq_zero_of_total_le hplace hamount hu hne) hpos.ne'

/-! ### A history -/

/-- From a wallet without outputs: every amount that is accepted along a history
is there to be moved, when no step brings tokens to an output that is not named
as their source; and only then, when the wallet keeps its genesis UTXOs. -/
theorem amountsThere_run {steps : List Step} (hnew : w.utxos = ∅) :
    (Mealy.Along step KeepsSource w steps →
      Mealy.Along step (fun w s => (w.step s).2.AmountsThere ContractId) w steps) ∧
    (Mealy.Along step (fun w s => (w.step s).2.GenesisKept) w steps →
      Mealy.Along step (fun w s => (w.step s).2.AmountsThere ContractId) w steps →
      Mealy.Along step KeepsSource w steps) := by
  have hstart : w.OnlyAtSource := fun _ u hu => absurd hu (by simp [hnew])
  constructor
  · exact Mealy.along_of_invariant (I := OnlyAtSource)
      (fun _ s h hs => (onlyAtSource_step_iff h s).mpr hs)
      (fun _ s h hs => amountsThere_of_onlyAtSource ((onlyAtSource_step_iff h s).mpr hs)) hstart
  · intro hkept hthere
    refine Mealy.along_of_invariant (I := OnlyAtSource)
      (C := fun w s => (w.step s).2.GenesisKept ∧ (w.step s).2.AmountsThere ContractId)
      (fun _ _ _ hs => onlyAtSource_of_amountsThere hs.1 hs.2)
      (fun _ s h hs => (onlyAtSource_step_iff h s).mp (onlyAtSource_of_amountsThere hs.1 hs.2))
      hstart (Mealy.along_and.mpr ⟨hkept, hthere⟩)

/-! ### A channel that is opened and closed -/

/-- A wallet with nothing in it. -/
def newWallet : TokenWallet where
  contracts := []
  childKey := fun index => if index = 4 then "02ab" else "02ac"
  utxos := ∅
  ledger := fun _ => .empty
  notWitness := by simp

/-- Two outputs; a contract with 1000 tokens at the first; 600 of them go into a
channel. -/
def issueAndFund : List Step :=
  [.setUtxos {"ab01:0", "cafe:2"} (by decide +kernel), .issue "7" "ab01" 0 4 1000,
    .fundChannel "7" 600 ⟨"f00d", 0⟩]

/-- The channel is closed with all tokens on this side, and they are claimed to
the second output. -/
def closeAndClaim : List Step :=
  [.settleChannel "7" "f00d:0"
      (fun _ => "909ab3923df8cdf869ecddf6c93bd86d068632eb417f9504eedde1c4136638be") 600 0
      "02cc" "02aa",
    .claim "7" "witness:909ab3923df8cdf869ecddf6c93bd86d:0" "cafe:2" "02cc"]

/-- The rule at a history with one coloured channel that stays open. -/
theorem amountsThere_of_issueAndFund :
    Mealy.Along step (fun w s => (w.step s).2.AmountsThere ℕ) newWallet issueAndFund :=
  (amountsThere_run rfl).1 ⟨fun _ _ _ _ hpos => absurd hpos (by simp [newWallet, Ledger.empty]),
    trivial, trivial, trivial⟩

/-- Of the 1000 tokens reported behind the claim only 400 lie at the genesis
UTXO; 690 are accepted and not there. -/
theorem accepts_more_than_source :
    ¬∀ (w : TokenWallet) (steps : List Step), w.utxos = ∅ →
      Mealy.Along step (fun w s => (w.step s).2.AmountsThere ℕ) w steps := by
  intro hall
  obtain ⟨-, -, -, -, hthere, -⟩ := hall newWallet (issueAndFund ++ closeAndClaim) rfl
  obtain ⟨place, ⟨r, _, hr, hg, _⟩, hamount⟩ := sourceHolds_iff.mp
    (hthere.openChannel ⟨none, some "7", some 690, 50000, 0, true⟩ 7 690 _ (by decide +kernel) rfl
      (by decide +kernel))
  obtain rfl : (⟨"ab01", 0, some 4⟩ : ContractRecord) = r := Option.some.inj hr
  subst hg
  exact absurd hamount (by decide +kernel)

end TokenWallet

end RgbLightningNode
