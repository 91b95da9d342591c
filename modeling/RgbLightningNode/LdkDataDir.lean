import RgbLightningNode.Lib.Fallible
import RgbLightningNode.Lib.Text
import RgbLightningNode.Utils

/-!
# The LDK data directory

The RGB files the Lightning library keeps beside its own data: one info file
for each coloured channel, a second one with the amounts of the updates under
way, and one payment-info file for each coloured HTLC. The library's own functions
on them, `isChannelRgb` and `updateRgbChannelAmount`, are defined here as the node
relies on them: a channel is coloured when it has an info file, and a move changes
the two amounts of that file and nothing else.
-/

namespace RgbLightningNode

open Fallible

/-- What the handlers read of a payment-info file. -/
structure RgbPaymentInfo where
  amount : UInt64
  swapPayment : Bool
  inbound : Bool
  deriving DecidableEq

/-- One line of a directory listing: a file name, and the payment info the file
parses to, if it does. -/
structure DirEntry where
  fileName : String
  paymentInfo : Option RgbPaymentInfo
  deriving DecidableEq

/-- The directory: channel info files by the hex of the channel id, and the
files in the order the system lists them. -/
structure LdkDataDir (ContractId : Type) where
  channelInfo : HashMap String (RgbInfo ContractId)
  channelInfoPending : HashMap String (RgbInfo ContractId)
  entries : List DirEntry

namespace LdkDataDir

variable {ContractId ε : Type}

/-- The library's test for a coloured channel: its info file is there. -/
def isChannelRgb (channelId : ChannelId) (dir : LdkDataDir ContractId) : Bool :=
  (dir.channelInfo.lookup channelId.hex).isSome

/-- The info of a channel, when it is coloured; parsing a file that is not
there is a panic. -/
def getRgbChannelInfoOptional (channelId : ChannelId) (pending : Bool)
    (dir : LdkDataDir ContractId) : Except (Exit ε) (Option (RgbInfo ContractId)) :=
  if dir.isChannelRgb channelId then
    match (if pending then dir.channelInfoPending else dir.channelInfo).lookup channelId.hex with
    | some rgbInfo => .ok (some rgbInfo)
    | none => .error (.panic none "valid rgb info file")
  else .ok none

/-- The file whose presence tells that the channel is coloured is the one read. -/
theorem getRgbChannelInfoOptional_false (channelId : ChannelId) (dir : LdkDataDir ContractId) :
    dir.getRgbChannelInfoOptional (ε := ε) channelId false =
      .ok (dir.channelInfo.lookup channelId.hex) := by
  rw [getRgbChannelInfoOptional, isChannelRgb]
  cases h : dir.channelInfo.lookup channelId.hex <;> simp [h]

end LdkDataDir

namespace RgbInfo

variable {ContractId : Type}

/-- Move `offered` from local to remote and `received` from remote to local. -/
def transfer (offered received : UInt64) (rgbInfo : RgbInfo ContractId) : RgbInfo ContractId :=
  { rgbInfo with
    localRgbAmount := rgbInfo.localRgbAmount - offered + received
    remoteRgbAmount := rgbInfo.remoteRgbAmount + offered - received }

@[simp] theorem transfer_zero : (transfer 0 0 : RgbInfo ContractId → RgbInfo ContractId) = id := by
  funext rgbInfo
  simp [transfer]

/-- The local and the remote amount. -/
def amounts (rgbInfo : RgbInfo ContractId) : UInt64 × UInt64 :=
  (rgbInfo.localRgbAmount, rgbInfo.remoteRgbAmount)

/-- A transfer keeps the amounts when as much goes out as comes back. -/
theorem amounts_transfer_eq_iff {rgbInfo : RgbInfo ContractId} {offered received : UInt64} :
    (rgbInfo.transfer offered received).amounts = rgbInfo.amounts ↔ offered = received := by
  simp only [transfer, amounts, Prod.mk.injEq]
  constructor
  · rintro ⟨hl, -⟩
    grind
  · rintro rfl
    simp

end RgbInfo

/-- The local and the remote amount of a channel. -/
def LdkDataDir.amounts {ContractId : Type} (dir : LdkDataDir ContractId) (channelId : String) :
    Option (UInt64 × UInt64) :=
  (dir.channelInfo.lookup channelId).map RgbInfo.amounts

/-- The library's move of amounts in the info file of a channel. -/
def LdkDataDir.updateRgbChannelAmount {ContractId ε : Type} (channelId : String)
    (offered received : UInt64) :
    Fallible (Exit ε) (LdkDataDir ContractId) Unit := do
  let dir ← get
  let rgbInfo ← expect (dir.channelInfo.lookup channelId) (.panic none "valid rgb info file")
  set { dir with
    channelInfo := dir.channelInfo.insert channelId (rgbInfo.transfer offered received) }

end RgbLightningNode
