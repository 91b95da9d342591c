import RgbLightningNode.Stores
import RgbLightningNode.LdkDataDir

/-!
# The state an event handler works on

The stores, the data directory and the channels the node has, and what it has
asked of the channel manager: the fate of intercepted HTLCs, and the payments
sent along explicit routes.
-/

namespace RgbLightningNode

open Fallible

structure InterceptId where
  bytes : Bytes32
  deriving DecidableEq

structure ChannelDetails where
  channelId : ChannelId
  shortChannelId : Option Nat
  counterparty : PublicKey
  deriving DecidableEq

/-- A call that settles the fate of an intercepted HTLC. -/
inductive InterceptCall (ContractId : Type) where
  | failInterceptedHtlc (interceptId : InterceptId)
  | forwardInterceptedHtlc (interceptId : InterceptId) (nextHopScid : Nat)
      (nextNodeId : PublicKey) (amtToForwardMsat : Nat)
      (rgbPayment : Option (ContractId × Nat))
  deriving DecidableEq

/-- What the channel manager answers to a call, given the calls before it. -/
abbrev InterceptReply (ContractId : Type) :=
  List (InterceptCall ContractId) → InterceptCall ContractId → Bool

/-- One hop of a route: the channel taken, the fee left to it, and the RGB
payment it carries. -/
structure RouteHop (ContractId : Type) where
  pubkey : PublicKey
  shortChannelId : Nat
  feeMsat : Nat
  rgbPayment : Option (ContractId × Nat)
  deriving DecidableEq

/-- A payment handed to the channel manager along an explicit route. -/
structure SpontaneousPayment (ContractId : Type) where
  hops : List (RouteHop ContractId)
  preimage : PaymentPreimage
  paymentId : PaymentId
  deriving DecidableEq

structure Node (ContractId : Type) where
  stores : Stores ContractId
  ldkDataDir : LdkDataDir ContractId
  channels : List ChannelDetails
  interceptCalls : List (InterceptCall ContractId)
  sentPayments : List (SpontaneousPayment ContractId) := []

namespace Node

variable {ContractId ε α : Type}

/-- Run a program of the stores on the node. -/
def onStores (x : Fallible ε (Stores ContractId) α) : Fallible ε (Node ContractId) α :=
  zoom Node.stores (fun s n => { n with stores := s }) x

/-- Run a program of the data directory on the node. -/
def onLdkDataDir (x : Fallible ε (LdkDataDir ContractId) α) : Fallible ε (Node ContractId) α :=
  zoom Node.ldkDataDir (fun d n => { n with ldkDataDir := d }) x

/-- The first channel with a short channel id. -/
def findChannel (scid : Nat) (n : Node ContractId) : Option ChannelDetails :=
  n.channels.find? fun details => details.shortChannelId = some scid

/-- Make a call on the channel manager; an error is a panic with `held` locked. -/
def callIntercept (reply : InterceptReply ContractId) (held : Option Mutex) (message : String)
    (call : InterceptCall ContractId) : Fallible (Exit ε) (Node ContractId) Unit := do
  let n ← get
  set { n with interceptCalls := n.interceptCalls ++ [call] }
  ensure (reply n.interceptCalls call) (.panic held message)

theorem onStores_of_ok {x : Fallible ε (Stores ContractId) α} {n : Node ContractId} {a : α}
    {s : Stores ContractId} (h : x n.stores = .ok a s) :
    onStores x n = .ok a { n with stores := s } :=
  zoom_of_ok h

theorem onLdkDataDir_of_ok {x : Fallible ε (LdkDataDir ContractId) α} {n : Node ContractId}
    {a : α} {dir : LdkDataDir ContractId} (h : x n.ldkDataDir = .ok a dir) :
    onLdkDataDir x n = .ok a { n with ldkDataDir := dir } :=
  zoom_of_ok h

theorem onLdkDataDir_of_error {x : Fallible ε (LdkDataDir ContractId) α} {n : Node ContractId}
    {e : ε} {dir : LdkDataDir ContractId} (h : x n.ldkDataDir = .error e dir) :
    onLdkDataDir x n = .error e { n with ldkDataDir := dir } :=
  zoom_of_error h

theorem callIntercept_apply (reply : InterceptReply ContractId) (held : Option Mutex)
    (message : String) (call : InterceptCall ContractId) (n : Node ContractId) :
    (callIntercept reply held message call : Fallible (Exit ε) _ Unit) n =
      if reply n.interceptCalls call
      then .ok () { n with interceptCalls := n.interceptCalls ++ [call] }
      else .error (.panic held message)
        { n with interceptCalls := n.interceptCalls ++ [call] } := by
  simp [callIntercept, bind_apply]

/-- The call is on record also when it is answered with an error. -/
@[simp] theorem after_callIntercept (reply : InterceptReply ContractId) (held : Option Mutex)
    (message : String) (call : InterceptCall ContractId) (n : Node ContractId) :
    after (callIntercept reply held message call : Fallible (Exit ε) _ Unit) n =
      { n with interceptCalls := n.interceptCalls ++ [call] } := by
  rw [after, callIntercept_apply]
  cases reply n.interceptCalls call <;> rfl

end Node

namespace InterceptCall

variable {ContractId : Type}

def isForward : InterceptCall ContractId → Bool
  | failInterceptedHtlc _ => false
  | forwardInterceptedHtlc .. => true

end InterceptCall

end RgbLightningNode
