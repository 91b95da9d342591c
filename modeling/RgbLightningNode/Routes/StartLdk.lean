import RgbLightningNode.Lib.Fallible
import RgbLightningNode.Routes.Unlock

/-!
# Starting LDK

An unlock checks the password and starts LDK: a row of steps that may fail,
then the tasks of the node, and among these the announcement, whose addresses
and alias are read when most of the tasks are running.
-/

namespace RgbLightningNode

open Fallible

structure UnlockRequest where
  password : String
  bitcoindRpcUsername : String
  bitcoindRpcPassword : String
  bitcoindRpcHost : String
  bitcoindRpcPort : Nat
  indexerUrl : Option String
  proxyEndpoint : Option String
  announceAddresses : List String
  announceAlias : Option String

/-- The tasks that start_ldk spawns, and the one that a bitcoind client spawns
for itself. -/
inductive LdkTask where
  | feePoller
  | peerListener
  | chainPoller
  | backgroundProcessor
  | reconnectLoop
  | nodeAnnouncer
  deriving DecidableEq

/-- The files of the storage directory that are written while LDK starts. -/
inductive StorageFile where
  | indexerUrl
  | bitcoinNetwork
  | walletFingerprint
  | walletAccountXpubColored
  | walletAccountXpubVanilla
  | walletMasterFingerprint
  deriving DecidableEq

/-- The file the output sweeper is kept in. -/
inductive SweeperFile where
  | notFound
  | found (deserializes : Bool)
  | unreadable (e : String)

/-- What the disk and the outside answer while an unlock is handled. -/
structure LdkEnv (U B : Type) where
  network : BitcoinNetwork
  encryptedMnemonic : Option String
  decrypt : String → String → Option String
  isMnemonic : String → Bool
  bitcoindClient : String → Nat → String → String → Except String Unit
  /-- The chain that bitcoind reports. -/
  blockchainInfo : Option String
  checkIndexerUrl : String → BitcoinNetwork → Except APIError Unit
  checkRgbProxyEndpoint : String → Except (Exit APIError) Unit
  canWrite : StorageFile → Bool
  readChannelMonitors : Bool
  validateBestBlockHeader : Bool
  /-- The file of the channel manager, if there is one, and whether it is read. -/
  manager : Option Bool
  rgbWallet : String → Except String Unit
  goOnline : String → Except APIError Unit
  outputSweeper : SweeperFile
  /-- The outcome of an attempt to synchronize the listeners. -/
  synchronizeListeners : Nat → Except String Unit
  watchChannels : Bool
  parseSocketAddress : String → Option (List UInt8)
  /-- No other process listens on the peer port. -/
  peerPortFree : Bool
  services : B
  unlockedState : U

namespace LdkEnv

variable {U B : Type}

def checkPasswordValidity (env : LdkEnv U B) (password : String) :
    Except (Exit APIError) String :=
  match env.encryptedMnemonic with
  | none => .error (.err .notInitialized)
  | some encryptedMnemonic =>
    match env.decrypt password encryptedMnemonic with
    | none => .error (.err .wrongPassword)
    | some mnemonicStr =>
      if env.isMnemonic mnemonicStr then .ok mnemonicStr
      else .error (.panic none "valid mnemonic")

/-- A step that panics when it fails. -/
def expectStep (ok : Bool) (message : String) : Except (Exit APIError) Unit :=
  if ok then .ok () else .error (.panic none message)

def connectBitcoind (env : LdkEnv U B) (req : UnlockRequest) : Except (Exit APIError) Unit :=
  (env.bitcoindClient req.bitcoindRpcHost req.bitcoindRpcPort req.bitcoindRpcUsername
    req.bitcoindRpcPassword).mapError fun e => .err (.failedBitcoindConnection e)

end LdkEnv

/-- The chain a bitcoind on the network reports. -/
def BitcoinNetwork.chain : BitcoinNetwork → String
  | mainnet => "main"
  | testnet => "test"
  | testnet4 => "testnet4"
  | regtest => "regtest"
  | signet => "signet"

def BitcoinNetwork.electrumUrl : BitcoinNetwork → String
  | regtest => "127.0.0.1:50001"
  | signet => "ssl://electrum.iriswallet.com:50033"
  | testnet => "ssl://electrum.iriswallet.com:50013"
  | testnet4 => "ssl://electrum.iriswallet.com:50053"
  | mainnet => "ssl://electrum.iriswallet.com:50003"

namespace LdkEnv

variable {U B : Type}

def checkNetwork (env : LdkEnv U B) : Except (Exit APIError) Unit := do
  let chain ← orPanic env.blockchainInfo "called `Result::unwrap()` on an `Err` value"
  if chain ≠ env.network.chain then .error (.err (.networkMismatch chain env.network))
  else .ok ()

/-- The indexer to use; one that the request names is checked first. -/
def indexerUrl (env : LdkEnv U B) (req : UnlockRequest) : Except (Exit APIError) String :=
  match req.indexerUrl with
  | some url => ((env.checkIndexerUrl url env.network).mapError .err).map fun _ => url
  | none => .ok env.network.electrumUrl

def checkProxy (env : LdkEnv U B) (req : UnlockRequest) : Except (Exit APIError) Unit :=
  match req.proxyEndpoint with
  | some proxyEndpoint => env.checkRgbProxyEndpoint proxyEndpoint
  | none => .ok ()

def writeFiles (env : LdkEnv U B) : List StorageFile → Except (Exit APIError) Unit
  | [] => .ok ()
  | fname :: fnames => do
    expectStep (env.canWrite fname) "able to write"
    env.writeFiles fnames

/-- Read the channel manager, and whether the node has run before. -/
def readManager (env : LdkEnv U B) : Except (Exit APIError) Bool :=
  match env.manager with
  | some true => .ok true
  | some false => .error (.panic none "called `Result::unwrap()` on an `Err` value")
  | none => .ok false

def openWallet (env : LdkEnv U B) (mnemonic indexerUrl : String) :
    Except (Exit APIError) Unit := do
  (env.rgbWallet mnemonic).mapError fun e =>
    .err (.unexpected s!"Failed to create F1r3fly wallet: {e}")
  (env.goOnline indexerUrl).mapError .err

def readSweeper (env : LdkEnv U B) : Except (Exit APIError) Unit :=
  match env.outputSweeper with
  | .notFound => .ok ()
  | .found deserializes => expectStep deserializes "Failed to deserialize OutputSweeper"
  | .unreadable e => .error (.panic none s!"Failed to read OutputSweeper with {e}")

/-- Synchronize with the chain, giving up when the last attempt fails. -/
def synchronize (env : LdkEnv U B) : Nat → Except (Exit APIError) Unit
  | 0 => .ok ()
  | attempts + 1 =>
    match env.synchronizeListeners attempts with
    | .ok () => .ok ()
    | .error e =>
      if attempts = 0 then .error (.err (.failedBitcoindConnection e))
      else env.synchronize attempts

/-- The steps between the connection to bitcoind and the first task of the node. -/
def prepare (env : LdkEnv U B) (req : UnlockRequest) (mnemonic : String) :
    Except (Exit APIError) Unit := do
  env.checkNetwork
  let indexerUrl ← env.indexerUrl req
  env.checkProxy req
  env.writeFiles [.indexerUrl, .bitcoinNetwork]
  expectStep env.readChannelMonitors "called `Result::unwrap()` on an `Err` value"
  expectStep env.validateBestBlockHeader "Failed to fetch best block header and best block"
  let restartingNode ← env.readManager
  env.openWallet mnemonic indexerUrl
  env.writeFiles [.walletFingerprint, .walletAccountXpubColored, .walletAccountXpubVanilla,
    .walletMasterFingerprint]
  env.readSweeper
  if restartingNode then env.synchronize 3
  expectStep env.watchChannels "assertion failed: watch_channel"

/-- The addresses to announce; the first one that does not parse ends it. -/
def announcedAddresses (env : LdkEnv U B) :
    List String → Except (Exit APIError) (List (List UInt8))
  | [] => .ok []
  | addr :: addrs =>
    match env.parseSocketAddress addr with
    | some sa => (env.announcedAddresses addrs).map (sa :: ·)
    | none => .error (.err (.invalidAnnounceAddresses s!"failed to parse address '{addr}'"))

end LdkEnv

def checkAnnounceAlias : Option String → Except (Exit APIError) Unit
  | some s =>
    if 32 < s.utf8ByteSize then
      .error (.err (.invalidAnnounceAlias "cannot be longer than 32 bytes"))
    else .ok ()
  | none => .ok ()

section Start

variable {U B : Type}

/-- Read what the request asks to be announced. -/
def LdkEnv.announce (env : LdkEnv U B) (req : UnlockRequest) : Except (Exit APIError) Unit := do
  let _ ← env.announcedAddresses req.announceAddresses
  checkAnnounceAlias req.announceAlias

def spawn (task : LdkTask) : Fallible (Exit APIError) (List LdkTask) Unit :=
  modify (task :: ·)

/-- Start LDK; the state is the tasks that have been spawned so far. -/
def startLdkBody (env : LdkEnv U B) (req : UnlockRequest) (mnemonic : String)
    (peerPortTaken : Bool) : Fallible (Exit APIError) (List LdkTask) (B × U) := do
  attempt (env.connectBitcoind req)
  spawn .feePoller
  attempt (env.prepare req mnemonic)
  -- a listener that cannot bind its port panics by itself
  if env.peerPortFree && !peerPortTaken then spawn .peerListener
  spawn .chainPoller
  spawn .backgroundProcessor
  spawn .reconnectLoop
  attempt (env.announce req)
  spawn .nodeAnnouncer
  return (env.services, env.unlockedState)

/-- An early end drops the sender of bp_exit, which ends the background processor;
nothing sets stop_processing, which the other tasks look at. -/
def startLdk (env : LdkEnv U B) (req : UnlockRequest) (mnemonic : String)
    (peerPortTaken : Bool) : Except (Exit APIError) (B × U) × List LdkTask :=
  match outcome (startLdkBody env req mnemonic peerPortTaken) [] with
  | (.ok started, tasks) => (.ok started, tasks)
  | (.error exit, tasks) => (.error exit, tasks.filter (· ≠ .backgroundProcessor))

end Start

/-- The node's state and the tasks that run in its process. -/
structure LdkHost (U B : Type) where
  app : AppState U B
  running : List LdkTask

namespace LdkHost

variable {U B : Type}

def peerPortTaken (host : LdkHost U B) : Bool := host.running.contains .peerListener

def checkLocked (host : LdkHost U B) : Except APIError Unit :=
  match host.app.checkChangingState with
  | .ok () => host.app.checkLocked
  | .error e => .error e

/-- The host after an unlock that stops early: an error takes the flag down again. -/
def afterExit (host : LdkHost U B) (exit : Exit APIError) (tasks : List LdkTask) :
    LdkHost U B where
  app := match exit with
    | .err _ => host.app.updateChangingState false
    | .panic .. => host.app
  running := tasks ++ host.running

/-- Handle an unlock; a panic leaves the flag of a change under way up. -/
def unlock (env : LdkEnv U B) (req : UnlockRequest) (host : LdkHost U B) :
    Except (Exit APIError) Unit × LdkHost U B :=
  match host.checkLocked with
  | .error e => (.error (.err (GuardedRequest.unlock.refusal e)), host)
  | .ok () =>
    let host := { host with app := host.app.updateChangingState true }
    match env.checkPasswordValidity req.password with
    | .error exit => (.error exit, host.afterExit exit [])
    | .ok mnemonic =>
      match startLdk env req mnemonic host.peerPortTaken with
      | (.error exit, tasks) => (.error exit, host.afterExit exit tasks)
      | (.ok (services, state), tasks) =>
        let app := host.app.updateUnlockedAppState (some state)
        let app := app.updateLdkBackgroundServices (some services)
        (.ok (), ⟨app.updateChangingState false, tasks ++ host.running⟩)
end LdkHost

end RgbLightningNode
