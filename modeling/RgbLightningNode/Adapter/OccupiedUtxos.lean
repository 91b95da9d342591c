import RgbLightningNode.Adapter.Funding
import RgbLightningNode.Adapter.Send

/-!
# Outputs that carry tokens

None of the operations that build a transaction may spend an output that carries
tokens. The list of these outputs comes as texts, and what each operation makes
of a text that is no outpoint decides whether the list is heeded.
-/

namespace RgbLightningNode

open Fallible

variable {Txid : Type}

namespace BuilderIo

variable {io : BuilderIo Txid} {occupied : List String}

/-- Every text of the list that the loop goes past is a pair, where the
transaction that creates outputs is built at all. -/
def SkipsNothing (io : BuilderIo Txid) (num size : Option Nat) (feeRate : Nat) : Prop :=
  ∀ occupied psbt, io.occupiedUtxos = .ok occupied → io.walletLoaded = true →
    (∀ text ∈ occupied, IsPair text → (io.named text).isSome) →
    io.finish ⟨(List.range (num.getD 1)).map fun i => (io.nextAddress i, size.getD 1000), feeRate,
      occupied.filterMap io.named⟩ = .ok psbt →
    ∀ text ∈ occupied, IsPair text

/-- What the loop that goes past a text leaves unspent is what the list names. -/
theorem spares_splitTx_iff (hlaw : io.Lawful) {num size : Option Nat} {feeRate : Nat} :
    (∀ occupied psbt, io.occupiedUtxos = .ok occupied →
        io.splitTx (num.getD 1) (size.getD 1000) feeRate = .ok psbt → io.Spares occupied psbt) ↔
      io.SkipsNothing num size feeRate := by
  constructor
  · intro hspares occupied psbt hoccupied hloaded hpairs hfinish text hmem
    obtain ⟨o, hnamed, -⟩ := hspares occupied psbt hoccupied
      (splitTx_eq_ok_iff.mpr ⟨occupied, hoccupied, hloaded, hpairs, hfinish⟩) text hmem
    exact isPair_of_named hnamed
  · intro hskips occupied psbt hoccupied hsplit text hmem
    obtain ⟨occupied', hoccupied', hloaded, hpairs, hfinish⟩ := splitTx_eq_ok_iff.mp hsplit
    obtain rfl := Except.ok.inj (hoccupied.symm.trans hoccupied')
    have hpair := hskips occupied psbt hoccupied hloaded hpairs hfinish text hmem
    obtain ⟨o, hnamed⟩ := Option.isSome_iff_exists.mp (hpairs text hmem hpair)
    exact ⟨o, hnamed, hlaw.unspendable _ psbt hfinish o
      (List.mem_filterMap.mpr ⟨text, hmem, hnamed⟩)⟩

/-- Every answer may follow a transaction that has been built. -/
def CreateUtxosIo.smooth : CreateUtxosIo Txid where
  syncWallet := .ok ()
  sign _ := .ok ()
  extractTx _ := .ok ()
  esploraClient := .ok ()
  broadcast _ := .ok ()
  persist := .ok ()
  syncAfter := .ok ()

theorem createUtxos_smooth {num size : Option Nat} {feeRate : Nat} {psbt : Psbt Txid}
    (h : io.splitTx (num.getD 1) (size.getD 1000) feeRate = .ok psbt) :
    io.createUtxos .smooth num size feeRate true [] = .ok (num.getD 1) [psbt] := by
  rw [createUtxos, if_pos rfl, bind_of_ok (attempt_ok () []),
    bind_of_ok (attempt_eq_ok_iff.mpr ⟨h, rfl⟩)]
  rfl

end BuilderIo

/-! ### The four operations -/

/-- Each operation fails, or builds a transaction that spends nothing the list
names and drops nothing of the list. -/
structure FailsClosed (io : SendIo Txid) (num size : Option Nat) (feeRate : Nat)
    (occupied : List String) : Prop where
  createUtxos : ∀ steps skipSync w count w',
    io.createUtxos steps num size feeRate skipSync w = .ok count w' →
      ∃ psbt, w' = w ++ [psbt] ∧ io.Spares occupied psbt
  send : ∀ recipientMap feeRate w txid w', send io recipientMap feeRate w = .ok txid w' →
    ∃ psbt, w'.broadcasts = w.broadcasts ++ [psbt] ∧ io.Spares occupied psbt
  sendBegin : ∀ write recipientMap feeRate w psbt w',
    sendBegin ⟨io.toBuilderIo, write⟩ recipientMap feeRate w = .ok psbt w' →
      io.Spares occupied psbt
  sendBtcBegin : ∀ address amount feeRate psbt,
    io.sendBtcBegin address amount feeRate = .ok psbt → io.Spares occupied psbt

/-- The operations fail closed if and only if the one that creates outputs goes
past no text of the list. -/
theorem failsClosed_iff {io : SendIo Txid} {num size : Option Nat} {feeRate : Nat}
    {occupied : List String} (hlaw : io.toBuilderIo.Lawful)
    (hoccupied : io.occupiedUtxos = .ok occupied) :
    FailsClosed io num size feeRate occupied ↔ io.SkipsNothing num size feeRate := by
  rw [← BuilderIo.spares_splitTx_iff hlaw]
  constructor
  · intro hclosed occupied' psbt hoccupied' hsplit
    obtain rfl := Except.ok.inj (hoccupied.symm.trans hoccupied')
    obtain ⟨psbt', hbroadcast, hspares⟩ :=
      hclosed.createUtxos _ _ _ _ _ (BuilderIo.createUtxos_smooth hsplit)
    obtain rfl := (List.cons.inj hbroadcast).1
    exact hspares
  · intro hsplit
    constructor
    · intro steps skipSync w count w' h
      obtain ⟨psbt, hpsbt, rfl⟩ := BuilderIo.createUtxos_of_ok h
      exact ⟨psbt, rfl, hsplit occupied psbt hoccupied hpsbt⟩
    · intro recipientMap feeRate w txid w' h
      obtain ⟨p, hp, hbroadcasts⟩ := broadcasts_of_send h
      obtain ⟨occupied', -, hoccupied', -, hbuilt⟩ :=
        BuilderIo.contractTx_of_ok (prepareSend_of_ok hp).1
      obtain rfl := Except.ok.inj (hoccupied.symm.trans hoccupied')
      have hspares : io.Spares occupied p.tx.built := BuilderIo.spares_of_recipientTx hlaw hbuilt
      exact ⟨p.tx.psbt, hbroadcasts, hspares⟩
    · intro write recipientMap feeRate w psbt w' h
      obtain ⟨assetId, address, amountSat, tx, htx, rfl⟩ := exists_contractTx_of_sendBegin h
      obtain ⟨occupied', -, hoccupied', -, hbuilt⟩ := BuilderIo.contractTx_of_ok htx
      obtain rfl := Except.ok.inj (hoccupied.symm.trans hoccupied')
      -- the OP_RETURN is one more output, and no input
      have hspares : io.Spares occupied tx.built := BuilderIo.spares_of_recipientTx hlaw hbuilt
      exact hspares
    · intro address amount feeRate psbt h
      exact BuilderIo.spares_of_builds hlaw hoccupied (BuilderIo.sendBtcBegin_eq_ok_iff.mp h)

/-- A wallet whose list names one output. -/
theorem failsClosed_of_named :
    FailsClosed { oneSend false true with toBuilderIo := oneOutput false ["aa:0"] } none none 1
        ["aa:0"] ↔
      (oneOutput false ["aa:0"]).SkipsNothing none none 1 :=
  failsClosed_iff (lawful_oneOutput false ["aa:0"]) rfl

/-- A text that names an output and a colon more is dropped, and the output spent. -/
theorem drops_malformed :
    ¬∀ (io : SendIo Nat) (num size : Option Nat) (feeRate : Nat) (occupied : List String),
      io.toBuilderIo.Lawful → io.occupiedUtxos = .ok occupied →
      FailsClosed io num size feeRate occupied := by
  intro h
  have hclosed := h { oneSend false true with toBuilderIo := oneOutput false ["aa:1:"] } none none 1
    ["aa:1:"] (lawful_oneOutput false ["aa:1:"]) rfl
  obtain ⟨psbt, -, hspares⟩ := hclosed.createUtxos .smooth true [] _ _ rfl
  obtain ⟨o, hnamed, -⟩ := hspares "aa:1:" List.mem_cons_self
  cases hnamed

end RgbLightningNode
