import RgbLightningNode.Lib.Mealy
import RgbLightningNode.Adapter.Settlement

/-!
# The acceptors that channels are settled to

The key of the other side is looked up by the contract alone. A settlement goes to
the channel's own acceptor exactly when the key found under the contract is that
acceptor's, which holds when the channels of a contract have one acceptor.
-/

namespace RgbLightningNode

open Fallible SerdeJson

namespace ChannelSettlement

/-- A channel that has been funded, and the key its acceptor posted for it. -/
structure Funding where
  channelId : ChannelId
  contractId : String
  acceptorKey : String
  deriving DecidableEq

/-- The state file of this node, and the channels of the network whose acceptors
have posted a key, the last one first. -/
structure World where
  stateFile : File
  funded : List Funding

namespace World

/-- The proxy has the key that was posted last under a name. -/
def posted (w : World) (name : String) : Option String :=
  (w.funded.find? fun f => acceptorPubkeyId f.contractId = name).map Funding.acceptorKey

def funding (w : World) (channelId : ChannelId) : Option Funding :=
  w.funded.find? fun f => f.channelId = channelId

end World

inductive Step where
  /-- A channel is funded; its acceptor posts a key. -/
  | fund (f : Funding)
  /-- This node settles a channel. -/
  | settle (io : SettleIo) (channelId : ChannelId) (fundingUtxo : String)
      (holderAmount counterpartyAmount : Nat)
  /-- The state file is saved with other contents. -/
  | saveState (f : File)
  | restart

/-- One step; the answer is the call that the contract has carried out. -/
def step (w : World) : Step → Option SettleCall × World
  | .fund f =>
    if (w.funding f.channelId).isSome then (none, w)
    else (none, { w with funded := f :: w.funded })
  | .settle io channelId fundingUtxo holderAmount counterpartyAmount =>
    match w.funding channelId with
    | none => (none, w)
    | some f =>
      match settleChannelClose io fundingUtxo holderAmount counterpartyAmount f.contractId
          w.stateFile with
      | .ok call file => (some call, { w with stateFile := file })
      | .error _ file => (none, { w with stateFile := file })
  | .saveState f => (none, { w with stateFile := f })
  | .restart => (none, w)

/-- The proxy returns the key posted last under the name. -/
def Honest (w : World) : Step → Prop
  | .settle io .. => ∀ contractId pubkey, fetchPubkey io contractId = .ok pubkey →
      w.posted (acceptorPubkeyId contractId) = some pubkey
  | _ => True

/-- A settlement registers the other side under the key that the acceptor of
this channel posted. -/
def SettlesToOwn (w : World) : Step → Prop
  | .settle io channelId fundingUtxo holderAmount counterpartyAmount =>
    ∀ call, (step w (.settle io channelId fundingUtxo holderAmount counterpartyAmount)).1 =
        some call →
      ∃ f, w.funding channelId = some f ∧ call.counterpartyPubKey = f.acceptorKey ∧
        call.counterpartyWitness = channelWitness io.sha256 fundingUtxo "counterparty"
  | _ => True

/-- The contract's entry in the cache is the key of this acceptor; where there
is none, no channel of the contract with another key was funded since. -/
def OwnKeyCurrent (w : World) (f : Funding) : Prop :=
  match filePubkey w.stateFile f.contractId with
  | some pubkey => pubkey = f.acceptorKey
  | none => ∀ g, (w.funded.find? fun g => g.contractId = f.contractId) = some g →
      g.acceptorKey = f.acceptorKey

/-- The current key of a channel that is settled is that of its own acceptor. -/
def SettlesCurrent (w : World) : Step → Prop
  | .settle io channelId fundingUtxo holderAmount counterpartyAmount =>
    (step w (.settle io channelId fundingUtxo holderAmount counterpartyAmount)).1.isSome →
      ∀ f, w.funding channelId = some f → OwnKeyCurrent w f
  | _ => True

/-! ### One settlement -/

/-- The names under which keys are posted tell contracts apart. -/
theorem acceptorPubkeyId_injective : Function.Injective acceptorPubkeyId := by
  intro a b h
  have h := congrArg String.toList h
  simp only [acceptorPubkeyId, String.toList_append, toString] at h
  exact String.toList_inj.mp (List.append_cancel_right h)

theorem posted_acceptorPubkeyId (w : World) (contractId : String) :
    w.posted (acceptorPubkeyId contractId) =
      (w.funded.find? fun f => f.contractId = contractId).map Funding.acceptorKey := by
  simp only [World.posted, acceptorPubkeyId_injective.eq_iff]

variable {w : World} {io : SettleIo} {channelId : ChannelId} {fundingUtxo : String}
  {holderAmount counterpartyAmount : Nat} {steps : List Step}

theorem step_settle_eq_some_iff {call : SettleCall} :
    (step w (.settle io channelId fundingUtxo holderAmount counterpartyAmount)).1 = some call ↔
      ∃ f file, w.funding channelId = some f ∧
        settleChannelClose io fundingUtxo holderAmount counterpartyAmount f.contractId
          w.stateFile = .ok call file := by
  rcases hf : w.funding channelId with _ | f
  · simp [step, hf]
  · rcases hs : settleChannelClose io fundingUtxo holderAmount counterpartyAmount f.contractId
      w.stateFile with ⟨call', file⟩ | ⟨exit, file⟩ <;> simp [step, hf, hs]

/-- A settlement is the channel's own exactly when its acceptor's key is
current. -/
theorem settlesToOwn_iff {s : Step} (hproxy : Honest w s) :
    SettlesToOwn w s ↔ SettlesCurrent w s := by
  cases s with
  | settle io channelId fundingUtxo holderAmount counterpartyAmount =>
    -- for one call: the key is its own acceptor's exactly when that key is current
    have hkey : ∀ call f, w.funding channelId = some f →
        (step w (.settle io channelId fundingUtxo holderAmount counterpartyAmount)).1 = some call →
        ((∃ g, w.funding channelId = some g ∧ call.counterpartyPubKey = g.acceptorKey ∧
            call.counterpartyWitness = channelWitness io.sha256 fundingUtxo "counterparty") ↔
          OwnKeyCurrent w f) := by
      intro call f hf hcall
      obtain ⟨f', file, hf', hsettle⟩ := step_settle_eq_some_iff.mp hcall
      obtain rfl := Option.some.inj (hf.symm.trans hf')
      obtain ⟨hpubkey, -, -, hwitness⟩ := settleChannelClose_of_ok hsettle
      have hown : (∃ g, w.funding channelId = some g ∧ call.counterpartyPubKey = g.acceptorKey ∧
          call.counterpartyWitness = channelWitness io.sha256 fundingUtxo "counterparty") ↔
            call.counterpartyPubKey = f.acceptorKey := by
        constructor
        · rintro ⟨g, hg, hk, -⟩
          obtain rfl := Option.some.inj (hf.symm.trans hg)
          exact hk
        · exact fun hk => ⟨f, hf, hk, hwitness⟩
      rw [hown, OwnKeyCurrent]
      -- the cache answers, or the honest proxy does with the last key posted
      rcases counterpartyPubkey_of_ok hpubkey with ⟨hcached, -⟩ | ⟨hcached, hfetch, -⟩
      · rw [hcached]
      · rw [hcached]
        have hposted := hproxy _ _ hfetch
        rw [posted_acceptorPubkeyId, Option.map_eq_some_iff] at hposted
        obtain ⟨g, hg, hgk⟩ := hposted
        rw [← hgk]
        constructor
        · intro hk g' hg'
          obtain rfl := Option.some.inj (hg.symm.trans hg')
          exact hk
        · exact fun hlast => hlast g hg
    constructor
    · intro h hsome f hf
      obtain ⟨call, hcall⟩ := Option.isSome_iff_exists.mp hsome
      exact (hkey call f hf hcall).mp (h call hcall)
    · intro h call hcall
      obtain ⟨f, _, hf, _⟩ := step_settle_eq_some_iff.mp hcall
      exact (hkey call f hf hcall).mpr (h (Option.isSome_iff_exists.mpr ⟨call, hcall⟩) f hf)
  | _ => exact Iff.rfl

/-! ### A history of channels -/

/-- In a history with an honest proxy every channel is settled to its own acceptor if and
only if for each channel that is settled the current key is that acceptor's. -/
theorem settlesToOwn_run_iff (hproxy : Mealy.Along step Honest w steps) :
    Mealy.Along step SettlesToOwn w steps ↔ Mealy.Along step SettlesCurrent w steps :=
  Mealy.along_congr (fun _ _ => settlesToOwn_iff) hproxy

/-- Every channel of a contract has the one acceptor key, and so has the cache. -/
def OneAcceptor (key : String → String) (w : World) : Prop :=
  (∀ f ∈ w.funded, f.acceptorKey = key f.contractId) ∧
    ∀ contractId pubkey, filePubkey w.stateFile contractId = some pubkey → pubkey = key contractId

/-- Channels are funded with the one acceptor of their contract, and no other
write of the state file puts a foreign key into the cache. -/
def FundsWith (key : String → String) (w : World) : Step → Prop
  | .fund f => f.acceptorKey = key f.contractId
  | .saveState file => ∀ contractId pubkey, filePubkey file contractId = some pubkey →
      filePubkey w.stateFile contractId = some pubkey
  | _ => True

/-- What a settlement leaves in the file. -/
theorem step_settle_snd {f : Funding} (hf : w.funding channelId = some f) :
    (step w (.settle io channelId fundingUtxo holderAmount counterpartyAmount)).2 =
      { w with
        stateFile := after (settleChannelClose io fundingUtxo holderAmount counterpartyAmount
          f.contractId) w.stateFile } := by
  rcases hs : settleChannelClose io fundingUtxo holderAmount counterpartyAmount f.contractId
    w.stateFile with ⟨call, file⟩ | ⟨exit, file⟩ <;> simp [step, hf, hs, after]

theorem oneAcceptor_step {key : String → String} {s : Step} (hinv : OneAcceptor key w)
    (h : Honest w s ∧ FundsWith key w s) : OneAcceptor key (step w s).2 := by
  obtain ⟨hfunded, hcached⟩ := hinv
  obtain ⟨hproxy, hfunds⟩ := h
  cases s with
  | fund f =>
    by_cases hold : (w.funding f.channelId).isSome
    · rw [step, if_pos hold]
      exact ⟨hfunded, hcached⟩
    · rw [step, if_neg hold]
      refine ⟨fun g hg => ?_, hcached⟩
      rcases List.mem_cons.mp hg with rfl | hg
      · exact hfunds
      · exact hfunded g hg
  | settle io channelId fundingUtxo holderAmount counterpartyAmount =>
    rcases hf : w.funding channelId with _ | f
    · simp only [step, hf]
      exact ⟨hfunded, hcached⟩
    rw [step_settle_snd hf]
    refine ⟨hfunded, fun contractId pubkey hk => ?_⟩
    rcases filePubkey_after_settleChannelClose hk with hk | ⟨rfl, hfetch⟩
    · exact hcached contractId pubkey hk
    · have hposted := hproxy _ _ hfetch
      rw [posted_acceptorPubkeyId, Option.map_eq_some_iff] at hposted
      obtain ⟨g, hg, rfl⟩ := hposted
      have hcontract : g.contractId = f.contractId := by simpa using List.find?_some hg
      rw [hfunded g (List.mem_of_find?_eq_some hg), hcontract]
  | saveState file => exact ⟨hfunded, fun c k hk => hcached c k (hfunds c k hk)⟩
  | restart => exact ⟨hfunded, hcached⟩

theorem ownKeyCurrent_of_oneAcceptor {key : String → String} (hinv : OneAcceptor key w)
    {f : Funding} (hf : f ∈ w.funded) : OwnKeyCurrent w f := by
  obtain ⟨hfunded, hcached⟩ := hinv
  unfold OwnKeyCurrent
  split
  · rename_i pubkey hk
    rw [hcached _ _ hk, hfunded f hf]
  · intro g hg
    have hcontract : g.contractId = f.contractId := by simpa using List.find?_some hg
    rw [hfunded g (List.mem_of_find?_eq_some hg), hcontract, hfunded f hf]

/-- When the channels of a contract have one acceptor, every channel is settled
to its own. -/
theorem settlesToOwn_of_oneAcceptor {key : String → String} (hinv : OneAcceptor key w)
    (hproxy : Mealy.Along step Honest w steps) (hfunds : Mealy.Along step (FundsWith key) w steps) :
    Mealy.Along step SettlesToOwn w steps := by
  refine Mealy.along_of_invariant (I := OneAcceptor key)
    (C := fun w s => Honest w s ∧ FundsWith key w s) (fun _ _ => oneAcceptor_step)
    (fun w s hinv hs => (settlesToOwn_iff hs.1).mpr ?_) hinv (Mealy.along_and.mpr ⟨hproxy, hfunds⟩)
  cases s with
  | settle io channelId fundingUtxo holderAmount counterpartyAmount =>
    exact fun _ f hf => ownKeyCurrent_of_oneAcceptor hinv (List.mem_of_find?_eq_some hf)
  | _ => trivial

/-! ### Two channels of one contract -/

def firstChannel : Funding := ⟨⟨Vector.replicate 32 1⟩, "rgb:asset", "02aa"⟩

def secondChannel : Funding := ⟨⟨Vector.replicate 32 2⟩, "rgb:asset", "02bb"⟩

/-- A node whose every step works, when the proxy has the key 02bb. -/
def settlesWith02bb : SettleIo where
  contractsManager := true
  parseContractId := fun _ => .ok ()
  sha256 := fun text =>
    if text = "witness:f00d:0holder" then
      "909ab3923df8cdf869ecddf6c93bd86d068632eb417f9504eedde1c4136638be"
    else "c2b6f9277c18308dbcb06ccf69c4d5d763a23623c48ae4165697c93347662416"
  derivationIndex := fun _ => .ok 4
  childKey := fun _ => .ok "child key"
  masterPublicKey := .ok "02cc"
  readState := .ok ()
  rgbProxyUrl := none
  consignmentGet := fun _ recipientId =>
    if recipientId = acceptorPubkeyId "rgb:asset" then
      .reply (some "eyJ3YWxsZXRfcHVia2V5IjoiMDJiYiJ9") none
    else .failed "404 Not Found"
  decodeBase64 := fun _ => .ok "\x7b\"wallet_pubkey\":\"02bb\"\x7d".toUTF8.toList
  fromUtf8 := fun _ => .ok "\x7b\"wallet_pubkey\":\"02bb\"\x7d"
  parsePayload := fun _ => .ok "02bb"
  readAgain := .ok ()
  writeState := .ok ()
  now := 100
  signature := fun _ _ _ _ _ => .ok "3044"
  contractLoaded := fun _ => true
  runtime := .ok ()
  callMethod := fun _ => .ok ()

def settleOf (f : Funding) : Step := .settle settlesWith02bb f.channelId "f00d:0" 600 90

theorem honest_of_secondChannel {file : File} {f : Funding} :
    Honest ⟨file, [secondChannel, firstChannel]⟩ (settleOf f) := by
  intro contractId pubkey h
  by_cases hid : acceptorPubkeyId contractId = acceptorPubkeyId "rgb:asset"
  · obtain rfl := acceptorPubkeyId_injective hid
    obtain rfl := Except.ok.inj h
    rfl
  · simp only [fetchPubkey, settlesWith02bb, if_neg hid] at h
    cases h

theorem honest_of_two_channels {f : Funding} :
    Mealy.Along step Honest ⟨.missing, []⟩
      [.fund firstChannel, .fund secondChannel, settleOf f] :=
  ⟨trivial, trivial, honest_of_secondChannel, trivial⟩

/-- The rule at a history that settles the channel funded last. -/
theorem settlesToOwn_of_last_channel :
    Mealy.Along step SettlesToOwn ⟨.missing, []⟩
        [.fund firstChannel, .fund secondChannel, settleOf secondChannel] ↔
      Mealy.Along step SettlesCurrent ⟨.missing, []⟩
        [.fund firstChannel, .fund secondChannel, settleOf secondChannel] :=
  settlesToOwn_run_iff honest_of_two_channels

/-- The first channel is settled to the acceptor of the second. -/
theorem settles_to_another_acceptor :
    ¬∀ (w : World) (steps : List Step), Mealy.Along step Honest w steps →
      Mealy.Along step SettlesToOwn w steps := by
  intro hall
  obtain ⟨-, -, hsettle, -⟩ := hall ⟨.missing, []⟩
    [.fund firstChannel, .fund secondChannel, settleOf firstChannel] honest_of_two_channels
  obtain ⟨f, hf, hk, -⟩ := hsettle _ rfl
  obtain rfl : firstChannel = f := Option.some.inj hf
  exact absurd hk (by decide +kernel)

end ChannelSettlement

end RgbLightningNode
