import RgbLightningNode.Lib.Text
import RgbLightningNode.Utils

/-!
# Swap strings

The text in which the terms of a swap travel from the maker to the taker and
back: quantities, assets, expiry and payment hash, separated by slashes.
-/

namespace RgbLightningNode

structure SwapString (ContractId : Type) where
  swapInfo : SwapInfo ContractId
  paymentHash : PaymentHash
  deriving DecidableEq

/-- Contract ids that are plain numbers, to run examples with. -/
instance : ContractIdText ℕ := ⟨toString, fun text => parseU64 text.toList⟩

namespace SwapString

variable {ContractId : Type} [ContractIdText ContractId]

def fromSwapInfo (swapInfo : SwapInfo ContractId) (paymentHash : PaymentHash) :
    SwapString ContractId :=
  ⟨swapInfo, paymentHash⟩

/-- How an asset is written; BTC has no contract id. -/
def assetText (asset : Option ContractId) : String :=
  match asset with
  | some c => ContractIdText.toText c
  | none => "btc"

def display (s : SwapString ContractId) : String :=
  s!"{s.swapInfo.qtyFrom}/{assetText s.swapInfo.fromAsset}/{s.swapInfo.qtyTo}/" ++
    s!"{assetText s.swapInfo.toAsset}/{s.swapInfo.expiry}/{s.paymentHash.hex}"

def parseSwapstringAsset (asset : List Char) : Option (Option ContractId) :=
  if asset = "btc".toList then some none
  else (ContractIdText.ofText (String.ofList asset)).map some

/-- The six parts of a swap string, when they all parse. -/
def parseParts : List (List Char) → Option (SwapString ContractId)
  | [qtyFrom, fromAsset, qtyTo, toAsset, expiry, paymentHash] => do
    let qtyFrom ← parseU64 qtyFrom
    let qtyTo ← parseU64 qtyTo
    let fromAsset ← parseSwapstringAsset fromAsset
    let toAsset ← parseSwapstringAsset toAsset
    let expiry ← parseU64 expiry
    let paymentHash ← (hexStrToVec paymentHash).bind bytes32?
    return ⟨⟨qtyFrom, qtyTo, fromAsset, toAsset, expiry⟩, ⟨paymentHash⟩⟩
  | _ => none

/-- The checks on a swap string whose parts all parse. -/
def validate [DecidableEq ContractId] (s : SwapString ContractId) :
    Except String (SwapString ContractId) :=
  if s.swapInfo.qtyFrom = 0 ∨ s.swapInfo.qtyTo = 0 ∨ s.swapInfo.expiry = 0 then
    .error "qty_from, qty_to and expiry should be positive"
  else if s.swapInfo.sameAsset then .error "From and to assets should be different"
  else .ok s

def fromStr [DecidableEq ContractId] (text : String) : Except String (SwapString ContractId) :=
  if (Text.splitOn '/' text.toList).length ≠ 6 then .error "Wrong number of parts"
  else match parseParts (Text.splitOn '/' text.toList) with
    | none => .error "Unable to parse"
    | some s => s.validate

/-- What a parsed swap string promises. -/
structure WellFormed (s : SwapString ContractId) : Prop where
  qtyFrom_pos : 0 < s.swapInfo.qtyFrom
  qtyTo_pos : 0 < s.swapInfo.qtyTo
  expiry_pos : 0 < s.swapInfo.expiry
  qtyFrom_lt : s.swapInfo.qtyFrom < 2 ^ 64
  qtyTo_lt : s.swapInfo.qtyTo < 2 ^ 64
  expiry_lt : s.swapInfo.expiry < 2 ^ 64
  assets_ne : s.swapInfo.fromAsset ≠ s.swapInfo.toAsset

theorem parseParts_lt {parts : List (List Char)} {s : SwapString ContractId}
    (h : parseParts parts = some s) :
    s.swapInfo.qtyFrom < 2 ^ 64 ∧ s.swapInfo.qtyTo < 2 ^ 64 ∧ s.swapInfo.expiry < 2 ^ 64 := by
  unfold parseParts at h
  split at h
  · simp only [Option.bind_eq_bind, Option.bind_eq_some_iff, Option.pure_def,
      Option.some.injEq] at h
    obtain ⟨qtyFrom, hf, qtyTo, ht, -, -, -, -, expiry, he, -, -, rfl⟩ := h
    exact ⟨parseU64_lt hf, parseU64_lt ht, parseU64_lt he⟩
  · cases h

omit [ContractIdText ContractId] in
theorem validate_eq_ok_iff [DecidableEq ContractId] {s s' : SwapString ContractId} :
    s.validate = .ok s' ↔ s = s' ∧ 0 < s.swapInfo.qtyFrom ∧ 0 < s.swapInfo.qtyTo ∧
      0 < s.swapInfo.expiry ∧ s.swapInfo.fromAsset ≠ s.swapInfo.toAsset := by
  unfold validate
  split
  · rename_i hzero
    simp only [reduceCtorEq, false_iff]
    rintro ⟨-, hf, ht, he, -⟩
    omega
  · rename_i hzero
    have hpos : 0 < s.swapInfo.qtyFrom ∧ 0 < s.swapInfo.qtyTo ∧ 0 < s.swapInfo.expiry := by
      omega
    by_cases hs : s.swapInfo.fromAsset = s.swapInfo.toAsset <;> simp [SwapInfo.sameAsset, hs, hpos]

theorem fromStr_eq_ok_iff [DecidableEq ContractId] {text : String} {s : SwapString ContractId} :
    fromStr text = .ok s ↔ (Text.splitOn '/' text.toList).length = 6 ∧
      ∃ s₀, parseParts (Text.splitOn '/' text.toList) = some s₀ ∧ s₀.validate = .ok s := by
  unfold fromStr
  split
  · simp_all
  · rcases (parseParts (Text.splitOn '/' text.toList) : Option (SwapString ContractId)) with
      _ | s₀ <;> simp_all

theorem fromStr_wellFormed [DecidableEq ContractId] {text : String} {s : SwapString ContractId}
    (h : fromStr text = .ok s) : s.WellFormed := by
  obtain ⟨-, s₀, hp, hv⟩ := fromStr_eq_ok_iff.mp h
  obtain ⟨hf, ht, he⟩ := parseParts_lt hp
  obtain ⟨rfl, hpf, hpt, hpe, hne⟩ := validate_eq_ok_iff.mp hv
  exact ⟨hpf, hpt, hpe, hf, ht, he, hne⟩

/-! ### Reading a displayed swap string back -/

theorem display_toList (s : SwapString ContractId) :
    s.display.toList = Text.joinWith '/' [(toString s.swapInfo.qtyFrom).toList,
      (assetText s.swapInfo.fromAsset).toList, (toString s.swapInfo.qtyTo).toList,
      (assetText s.swapInfo.toAsset).toList, (toString s.swapInfo.expiry).toList,
      s.paymentHash.bytes.toList.flatMap hexByte] := by
  simp [display, Text.joinWith, PaymentHash.hex, hexStr, toString]

theorem slash_notMem_toString (n : Nat) : '/' ∉ (toString n).toList := by
  intro h
  exact absurd (isDigit_of_mem_toString h) (by decide)

theorem bytes32?_toList (bytes : Bytes32) : bytes32? bytes.toList = some bytes := by
  rw [bytes32?, dif_pos (by simp)]
  rfl

section Lawful

variable [LawfulContractIdText ContractId]

theorem slash_notMem_assetText (asset : Option ContractId) : '/' ∉ (assetText asset).toList := by
  cases asset with
  | none =>
    change '/' ∉ "btc".toList
    decide
  | some c => exact LawfulContractIdText.slash_notMem c

theorem parseSwapstringAsset_assetText (asset : Option ContractId) :
    parseSwapstringAsset (assetText asset).toList = some asset := by
  cases asset with
  | none => exact if_pos rfl
  | some c =>
    have hbtc : (ContractIdText.toText c).toList ≠ "btc".toList := fun h =>
      LawfulContractIdText.toText_ne_btc c (String.toList_inj.mp h)
    rw [assetText, parseSwapstringAsset, if_neg hbtc, String.ofList_toList,
      LawfulContractIdText.ofText_toText]
    rfl

/-- The six parts of a displayed swap string. -/
theorem splitOn_display (s : SwapString ContractId) :
    Text.splitOn '/' s.display.toList = [(toString s.swapInfo.qtyFrom).toList,
      (assetText s.swapInfo.fromAsset).toList, (toString s.swapInfo.qtyTo).toList,
      (assetText s.swapInfo.toAsset).toList, (toString s.swapInfo.expiry).toList,
      s.paymentHash.bytes.toList.flatMap hexByte] := by
  have hhash : '/' ∉ s.paymentHash.bytes.toList.flatMap hexByte := fun h =>
    forall_mem_flatMap_hexByte (p := (· ≠ '/')) (by decide) h rfl
  rw [display_toList]
  apply Text.splitOn_joinWith
  simp only [List.forall_mem_cons]
  exact ⟨slash_notMem_toString _, slash_notMem_assetText _, slash_notMem_toString _,
    slash_notMem_assetText _, slash_notMem_toString _, hhash, List.forall_mem_nil _⟩

theorem parseParts_display {s : SwapString ContractId} (hf : s.swapInfo.qtyFrom < 2 ^ 64)
    (ht : s.swapInfo.qtyTo < 2 ^ 64) (he : s.swapInfo.expiry < 2 ^ 64) :
    parseParts (Text.splitOn '/' s.display.toList) = some s := by
  rw [splitOn_display, parseParts, parseU64_toString hf, parseU64_toString ht,
    parseSwapstringAsset_assetText, parseSwapstringAsset_assetText, parseU64_toString he,
    hexStrToVec_flatMap_hexByte, Option.bind_some, bytes32?_toList]
  rfl

/-- A displayed swap string is accepted when it passes the checks, and then
nothing of it has changed. -/
theorem fromStr_display [DecidableEq ContractId] {s : SwapString ContractId}
    (hf : s.swapInfo.qtyFrom < 2 ^ 64) (ht : s.swapInfo.qtyTo < 2 ^ 64)
    (he : s.swapInfo.expiry < 2 ^ 64) : fromStr s.display = s.validate := by
  have hlength : (Text.splitOn '/' s.display.toList).length = 6 := by
    rw [splitOn_display]
    rfl
  rw [fromStr, if_neg (not_not_intro hlength), parseParts_display hf ht he]

theorem WellFormed.fromStr_display [DecidableEq ContractId] {s : SwapString ContractId}
    (h : s.WellFormed) : fromStr s.display = .ok s := by
  rw [SwapString.fromStr_display h.qtyFrom_lt h.qtyTo_lt h.expiry_lt]
  exact validate_eq_ok_iff.mpr ⟨rfl, h.qtyFrom_pos, h.qtyTo_pos, h.expiry_pos, h.assets_ne⟩

/-- What the parser returns is well formed, and a well-formed value is read back
from its own text, which belongs to no other one. -/
theorem swapString_roundTrip [DecidableEq ContractId] :
    (∀ (text : String) (s : SwapString ContractId), fromStr text = .ok s → s.WellFormed) ∧
      (∀ s : SwapString ContractId, s.WellFormed → fromStr s.display = .ok s) ∧
      ∀ s s' : SwapString ContractId, s.WellFormed → s'.WellFormed →
        s.display = s'.display → s = s' := by
  refine ⟨fun _ _ => fromStr_wellFormed, fun _ => WellFormed.fromStr_display, ?_⟩
  intro s s' hs hs' h
  have hok : (.ok s : Except String (SwapString ContractId)) = .ok s' := by
    rw [← hs.fromStr_display, h, hs'.fromStr_display]
  exact Except.ok.inj hok

end Lawful

/-- Contract ids that are numbers of 64 bits, to run the round trip with. -/
abbrev NumberedContract : Type := UInt64

instance : ContractIdText NumberedContract where
  toText c := toString c.toNat
  ofText text := (parseU64 text.toList).map UInt64.ofNat

theorem toText_numberedContract (c : NumberedContract) :
    ContractIdText.toText c = toString c.toNat :=
  rfl

instance : LawfulContractIdText NumberedContract where
  ofText_toText c := by
    change (parseU64 (toString c.toNat).toList).map UInt64.ofNat = some c
    rw [parseU64_toString c.toNat_lt, Option.map_some, UInt64.ofNat_toNat]
  slash_notMem c := slash_notMem_toString c.toNat
  toText_ne_btc c := by
    intro h
    have hb : 'b' ∈ (toString c.toNat).toList := by
      rw [← toText_numberedContract, h]
      decide
    exact absurd (isDigit_of_mem_toString hb) (by decide)

/-- An offer of one unit of an asset for 100000 sat. -/
def sampleSwapString : SwapString NumberedContract :=
  ⟨⟨100000000, 1, none, some 7, 1700000000⟩, ⟨Vector.replicate 32 255⟩⟩

theorem sampleSwapString_wellFormed : sampleSwapString.WellFormed := by
  constructor <;> decide

theorem swapString_roundTrip_sample : fromStr sampleSwapString.display = .ok sampleSwapString :=
  swapString_roundTrip.2.1 sampleSwapString sampleSwapString_wellFormed

end SwapString

end RgbLightningNode
