import Mathlib.Data.UInt
import RgbLightningNode.LdkDataDir

/-!
# Moving RGB amounts between the two sides of channels

Which moves a settled payment stands for, and what a list of moves does to the
info files of all channels.
-/

namespace RgbLightningNode

open Fallible

variable {ContractId ε : Type}

/-- `offered` goes from local to remote on a channel, `received` comes back. -/
structure RgbMove where
  channelId : String
  offered : UInt64
  received : UInt64
  deriving DecidableEq

/-- The first payment-info file of a hash that counts for this side, with the
channel its name leaves when the hash is cut out. -/
def selectPaymentInfo (paymentHash : PaymentHash) (receiver : Bool) :
    List DirEntry → Except (Exit ε) (Option (String × UInt64))
  | [] => .ok none
  | file :: entries =>
    let stem := Text.fileStem file.fileName.toList
    if Text.contains file.fileName.toList paymentHash.hex.toList ∧
        stem ≠ paymentHash.hex.toList then
      match file.paymentInfo with
      | none => .error (.panic none "valid rgb payment info")
      | some rgbPaymentInfo =>
        if rgbPaymentInfo.swapPayment ∧ receiver ≠ rgbPaymentInfo.inbound then
          selectPaymentInfo paymentHash receiver entries
        else
          .ok (some (String.ofList (Text.removeAll paymentHash.hex.toList stem),
            rgbPaymentInfo.amount))
    else selectPaymentInfo paymentHash receiver entries

/-- The move a settled payment stands for, if a payment-info file tells. -/
def paymentMoves (paymentHash : PaymentHash) (receiver : Bool) (entries : List DirEntry) :
    Except (Exit ε) (List RgbMove) := do
  match ← selectPaymentInfo paymentHash receiver entries with
  | none => return []
  | some (channelId, amount) =>
    return [if receiver then ⟨channelId, 0, amount⟩ else ⟨channelId, amount, 0⟩]

/-- Make the moves one after another. -/
def applyMoves : List RgbMove → Fallible (Exit ε) (LdkDataDir ContractId) Unit
  | [] => pure ()
  | move :: moves => do
    LdkDataDir.updateRgbChannelAmount move.channelId move.offered move.received
    applyMoves moves

/-- What the moves offer on one channel. -/
def offeredOn (channelId : String) (moves : List RgbMove) : UInt64 :=
  ((moves.filter (·.channelId = channelId)).map RgbMove.offered).sum

/-- What the moves bring back on one channel. -/
def receivedOn (channelId : String) (moves : List RgbMove) : UInt64 :=
  ((moves.filter (·.channelId = channelId)).map RgbMove.received).sum

theorem RgbInfo.transfer_transfer (rgbInfo : RgbInfo ContractId)
    (offered received offered' received' : UInt64) :
    (rgbInfo.transfer offered received).transfer offered' received' =
      rgbInfo.transfer (offered + offered') (received + received') := by
  simp only [transfer, RgbInfo.mk.injEq, true_and]
  constructor <;> grind

theorem offeredOn_cons (channelId : String) (move : RgbMove) (moves : List RgbMove) :
    offeredOn channelId (move :: moves) =
      (if move.channelId = channelId then move.offered else 0) + offeredOn channelId moves := by
  by_cases h : move.channelId = channelId <;> simp [offeredOn, h]

theorem receivedOn_cons (channelId : String) (move : RgbMove) (moves : List RgbMove) :
    receivedOn channelId (move :: moves) =
      (if move.channelId = channelId then move.received else 0) + receivedOn channelId moves := by
  by_cases h : move.channelId = channelId <;> simp [receivedOn, h]

/-- Moves that do not name a channel neither offer nor bring back anything on it. -/
theorem offeredOn_eq_receivedOn_of_unnamed {channelId : String} {moves : List RgbMove}
    (h : ∀ move ∈ moves, move.channelId ≠ channelId) :
    offeredOn channelId moves = receivedOn channelId moves := by
  have hf : moves.filter (·.channelId = channelId) = [] := by
    simpa [List.filter_eq_nil_iff] using h
  simp [offeredOn, receivedOn, hf]

/-- A move returns exactly on a channel that has an info file. -/
theorem updateRgbChannelAmount_eq_ok_iff {channelId : String} {offered received : UInt64}
    {dir dir' : LdkDataDir ContractId} :
    (LdkDataDir.updateRgbChannelAmount channelId offered received : Fallible (Exit ε) _ Unit) dir =
        .ok () dir' ↔
      ∃ rgbInfo, dir.channelInfo.lookup channelId = some rgbInfo ∧
        dir' = { dir with
          channelInfo := dir.channelInfo.insert channelId
            (rgbInfo.transfer offered received) } := by
  simp only [LdkDataDir.updateRgbChannelAmount, bind_apply, get_apply]
  cases dir.channelInfo.lookup channelId <;> simp [eq_comm]

/-- The moves add up on each channel and keep the listing. -/
theorem applyMoves_of_ok {moves : List RgbMove} {dir dir' : LdkDataDir ContractId}
    (h : (applyMoves moves : Fallible (Exit ε) _ Unit) dir = .ok () dir') :
    dir'.entries = dir.entries ∧ ∀ channelId, dir'.channelInfo.lookup channelId =
      (dir.channelInfo.lookup channelId).map
        (RgbInfo.transfer (offeredOn channelId moves) (receivedOn channelId moves)) := by
  induction moves generalizing dir with
  | nil =>
    obtain rfl : dir = dir' := by simpa [applyMoves] using h
    refine ⟨rfl, fun channelId => ?_⟩
    simp [offeredOn, receivedOn]
  | cons move moves ih =>
    obtain ⟨mid, hmove, hrest⟩ := unit_bind_eq_ok_iff.mp h
    obtain ⟨rgbInfo, hl, rfl⟩ := updateRgbChannelAmount_eq_ok_iff.mp hmove
    obtain ⟨hentries, hinfo⟩ := ih hrest
    refine ⟨hentries, fun channelId => ?_⟩
    rw [hinfo, offeredOn_cons, receivedOn_cons]
    by_cases hc : move.channelId = channelId
    · subst hc
      simp [hl, RgbInfo.transfer_transfer]
    · simp [hc, Finmap.lookup_insert_of_ne _ (Ne.symm hc)]

/-- Overwriting an entry keeps which entries there are. -/
theorem isSome_lookup_insert {V : Type} {m : HashMap String V} {key other : String} {v w : V}
    (h : m.lookup key = some v) :
    ((m.insert key w).lookup other).isSome = (m.lookup other).isSome := by
  by_cases hk : other = key
  · subst hk
    simp [h]
  · rw [Finmap.lookup_insert_of_ne _ hk]

/-- The moves go through exactly when every channel they name has an info file. -/
theorem exists_applyMoves_iff {moves : List RgbMove} {dir : LdkDataDir ContractId} :
    (∃ dir', (applyMoves moves : Fallible (Exit ε) _ Unit) dir = .ok () dir') ↔
      ∀ move ∈ moves, (dir.channelInfo.lookup move.channelId).isSome := by
  induction moves generalizing dir with
  | nil => simp [applyMoves]
  | cons move moves ih =>
    simp only [applyMoves, unit_bind_eq_ok_iff, updateRgbChannelAmount_eq_ok_iff,
      List.forall_mem_cons]
    constructor
    · rintro ⟨dir', mid, ⟨rgbInfo, hl, rfl⟩, hrest⟩
      refine ⟨by simp [hl], fun m hm => ?_⟩
      rw [← isSome_lookup_insert hl]
      exact ih.mp ⟨dir', hrest⟩ m hm
    · rintro ⟨hl, hrest⟩
      obtain ⟨rgbInfo, hl⟩ := Option.isSome_iff_exists.mp hl
      obtain ⟨dir', h⟩ := (@ih { dir with
        channelInfo := dir.channelInfo.insert move.channelId
          (rgbInfo.transfer move.offered move.received) }).mpr fun m hm =>
        (isSome_lookup_insert hl).trans (hrest m hm)
      exact ⟨dir', _, ⟨rgbInfo, hl, rfl⟩, h⟩

end RgbLightningNode
