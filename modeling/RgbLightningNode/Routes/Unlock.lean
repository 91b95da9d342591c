import Mathlib.Logic.Function.Basic
import RgbLightningNode.Lib.FairMutex
import RgbLightningNode.Types

/-!
# Locking and unlocking

A handler asks for a locked or for an unlocked node. It reads the flag of a
change under way, asks for the mutex of the unlocked state, and reads the state.
Between the flag and the mutex, while it waits, and while LDK is started or
stopped, other handlers run; a step is what a handler does between two of these
points.
-/

namespace RgbLightningNode

variable {U B : Type}

structure AppState (U B : Type) where
  unlockedAppState : Option U
  ldkBackgroundServices : Option B
  changingState : Bool

namespace AppState

def checkChangingState (s : AppState U B) : Except APIError Unit :=
  if s.changingState then .error .changingState else .ok ()

/-- With the flag checked and the mutex held. -/
def checkLocked (s : AppState U B) : Except APIError Unit :=
  if s.unlockedAppState.isSome then .error .unlockedNode else .ok ()

/-- With the flag checked and the mutex held. -/
def checkUnlocked (s : AppState U B) : Except APIError Unit :=
  if s.unlockedAppState.isNone then .error .lockedNode else .ok ()

def updateChangingState (updated : Bool) (s : AppState U B) : AppState U B :=
  { s with changingState := updated }

def updateLdkBackgroundServices (updated : Option B) (s : AppState U B) : AppState U B :=
  { s with ldkBackgroundServices := updated }

/-- With the mutex held. -/
def updateUnlockedAppState (updated : Option U) (s : AppState U B) : AppState U B :=
  { s with unlockedAppState := updated }

end AppState

/-- The requests that go through one of the two checks. -/
inductive GuardedRequest where
  | unlock | lock | init | backup | restore | changePassword
  /-- Reads the file when the guard has been dropped. -/
  | getAssetMedia
  /-- Any other request of an unlocked node; it keeps the guard. -/
  | ordinary
  deriving DecidableEq

namespace GuardedRequest

def needsUnlocked : GuardedRequest → Bool
  | .unlock | .init | .backup | .restore | .changePassword => false
  | .lock | .getAssetMedia | .ordinary => true

def check (req : GuardedRequest) (s : AppState U B) : Except APIError Unit :=
  if req.needsUnlocked then s.checkUnlocked else s.checkLocked

/-- The answer to a request that does not pass a check. -/
def refusal : GuardedRequest → APIError → APIError
  | .unlock, .unlockedNode => .alreadyUnlocked
  | _, e => e

/-- A lock request that does not pass a check lowers the flag, also one that another
request has raised. -/
def refused : GuardedRequest → AppState U B → AppState U B
  | .lock, s => s.updateChangingState false
  | _, s => s

/-- A request that ends when its client disconnects. -/
def isCancelled : GuardedRequest → Bool
  | .getAssetMedia | .ordinary => true
  | _ => false

end GuardedRequest

/-- How start_ldk ends. Its tasks are spawned after its last await; addresses or
an alias that cannot be announced are found after that. -/
inductive StartLdk (U B : Type) where
  | started (services : B) (state : U)
  | fails (spawned : Option B) (e : APIError)
  | panics (spawned : Option B)

/-- The stage of a request. -/
inductive RequestStage (U B : Type) where
  | gone
  /-- It has read the flag as down, and has not asked for the mutex yet. -/
  | admitted (req : GuardedRequest)
  /-- It waits for the mutex. -/
  | waiting (req : GuardedRequest)
  /-- It has passed its check and holds the mutex. -/
  | guarded (req : GuardedRequest)
  /-- A get_asset_media that has released the mutex. -/
  | readingMedia
  /-- An unlock awaits start_ldk. -/
  | starting
  /-- An unlock waits for the mutex to store what start_ldk gave it. -/
  | storing (services : B) (state : U)
  /-- A lock awaits stop_ldk. -/
  | stopping
  /-- A lock waits for the mutex to clear the state. -/
  | clearing

namespace RequestStage

def isUnlocking : RequestStage U B → Bool
  | .starting | .storing .. => true
  | _ => false

def isLocking : RequestStage U B → Bool
  | .stopping | .clearing => true
  | _ => false

/-- A transition of the node is in progress. -/
def isChanging (stage : RequestStage U B) : Bool := stage.isUnlocking || stage.isLocking

/-- The request whose body runs. -/
def running? : RequestStage U B → Option GuardedRequest
  | .guarded req => some req
  | .readingMedia => some .getAssetMedia
  | _ => none

/-- The request that runs, or is to run. -/
def request? : RequestStage U B → Option GuardedRequest
  | .admitted req | .waiting req => some req
  | stage => stage.running?

end RequestStage

/-- The node, its requests, and the sets of LDK tasks that have been spawned and
not been stopped. -/
structure LifeCycle (U B : Type) where
  app : AppState U B
  mutex : FairMutex ℕ
  spawned : List B
  stage : ℕ → RequestStage U B

inductive LifeCycleStep (U B : Type) where
  /-- A request reads the flag. -/
  | arrive (id : ℕ) (req : GuardedRequest)
  /-- A request that has read the flag as down takes the mutex, or queues for it. -/
  | askMutex (id : ℕ) (password : Except APIError Unit)
  /-- A request that has become the owner of the mutex resumes. -/
  | resume (id : ℕ) (password : Except APIError Unit)
  /-- The body of a request ends. -/
  | finish (id : ℕ) (reply : Except APIError Unit)
  | cancel (id : ℕ)
  | startLdk (id : ℕ) (ending : StartLdk U B)
  | stopLdk (id : ℕ) (panics : Bool)

namespace LifeCycle

abbrev Reply := Option (Except APIError Unit)

def setStage (s : LifeCycle U B) (id : ℕ) (stage : RequestStage U B) : LifeCycle U B :=
  { s with stage := Function.update s.stage id stage }

theorem stage_setStage_self (s : LifeCycle U B) (id : ℕ) (stage : RequestStage U B) :
    (s.setStage id stage).stage id = stage := by
  simp [setStage]

theorem stage_setStage_of_ne (s : LifeCycle U B) {id i : ℕ} (stage : RequestStage U B)
    (h : i ≠ id) : (s.setStage id stage).stage i = s.stage i := by
  simp [setStage, h]

def release (s : LifeCycle U B) : LifeCycle U B := { s with mutex := s.mutex.release }

def refuse (s : LifeCycle U B) (id : ℕ) (req : GuardedRequest) (e : APIError) :
    Reply × LifeCycle U B :=
  (some (.error (req.refusal e)), { s with app := req.refused s.app }.setStage id .gone)

/-- A request that has passed its check, up to its next await. -/
def proceed (s : LifeCycle U B) (id : ℕ) (req : GuardedRequest)
    (password : Except APIError Unit) : Reply × LifeCycle U B :=
  match req with
  | .unlock =>
    let s := { s with app := s.app.updateChangingState true }.release
    -- check_password_validity
    match password with
    | .ok () => (none, s.setStage id .starting)
    | .error e =>
      (some (.error e), { s with app := s.app.updateChangingState false }.setStage id .gone)
  | .lock =>
    (none, { s with app := s.app.updateChangingState true }.release.setStage id .stopping)
  | .getAssetMedia => (none, s.release.setStage id .readingMedia)
  | .init | .backup | .restore | .changePassword | .ordinary =>
    (none, s.setStage id (.guarded req))

/-- A request that holds the mutex. -/
def enter (s : LifeCycle U B) (id : ℕ) (req : GuardedRequest) (password : Except APIError Unit) :
    Reply × LifeCycle U B :=
  match req.check s.app with
  | .ok () => s.proceed id req password
  | .error e => s.release.refuse id req e

def arrive (s : LifeCycle U B) (id : ℕ) (req : GuardedRequest) : Reply × LifeCycle U B :=
  match s.app.checkChangingState with
  | .ok () => (none, s.setStage id (.admitted req))
  | .error e => s.refuse id req e

def askMutex (s : LifeCycle U B) (id : ℕ) (req : GuardedRequest)
    (password : Except APIError Unit) : Reply × LifeCycle U B :=
  match s.mutex.owner with
  | none => { s with mutex := s.mutex.lock id }.enter id req password
  | some _ => (none, { s with mutex := s.mutex.lock id }.setStage id (.waiting req))

/-- The end of a transition, with the mutex held. -/
def complete (s : LifeCycle U B) (id : ℕ) (state : Option U) (services : Option B) :
    Reply × LifeCycle U B :=
  let app := s.app.updateUnlockedAppState state
  let app := app.updateLdkBackgroundServices services
  (some (.ok ()), { s with app := app.updateChangingState false }.release.setStage id .gone)

def startLdk (s : LifeCycle U B) (id : ℕ) : StartLdk U B → Reply × LifeCycle U B
  | .started services state =>
    let s := { s with spawned := services :: s.spawned }
    match s.mutex.owner with
    | none => { s with mutex := s.mutex.lock id }.complete id (some state) (some services)
    | some _ => (none, { s with mutex := s.mutex.lock id }.setStage id (.storing services state))
  | .fails spawned e =>
    (some (.error e), { s with
      spawned := spawned.toList ++ s.spawned
      app := s.app.updateChangingState false }.setStage id .gone)
  | .panics spawned => (none, { s with spawned := spawned.toList ++ s.spawned }.setStage id .gone)

/-- The services that are stored are the ones to be stopped. -/
def stopServices [DecidableEq B] (s : LifeCycle U B) : LifeCycle U B :=
  match s.app.ldkBackgroundServices with
  | some services => { s with spawned := s.spawned.erase services }
  | none => s

def stopLdk [DecidableEq B] (s : LifeCycle U B) (id : ℕ) (panics : Bool) :
    Reply × LifeCycle U B :=
  if panics then (none, s.setStage id .gone)
  else
    let s := s.stopServices
    match s.mutex.owner with
    | none => { s with mutex := s.mutex.lock id }.complete id none none
    | some _ => (none, { s with mutex := s.mutex.lock id }.setStage id .clearing)

/-- A request that has become the owner of the mutex resumes. -/
def resume (s : LifeCycle U B) (id : ℕ) (password : Except APIError Unit) :
    Reply × LifeCycle U B :=
  match s.stage id with
  | .waiting req => s.enter id req password
  | .storing services state => s.complete id (some state) (some services)
  | .clearing => s.complete id none none
  | _ => (none, s)

def step [DecidableEq B] (s : LifeCycle U B) : LifeCycleStep U B → Reply × LifeCycle U B
  | .arrive id req =>
    match s.stage id with
    | .gone => s.arrive id req
    | _ => (none, s)
  | .askMutex id password =>
    match s.stage id with
    | .admitted req => s.askMutex id req password
    | _ => (none, s)
  | .resume id password =>
    if s.mutex.owner = some id then s.resume id password else (none, s)
  | .finish id reply =>
    match s.stage id with
    | .guarded _ => (some reply, s.release.setStage id .gone)
    | .readingMedia => (some reply, s.setStage id .gone)
    | _ => (none, s)
  | .cancel id =>
    match (s.stage id).request? with
    | some req =>
      if req.isCancelled then (none, { s with mutex := s.mutex.leave id }.setStage id .gone)
      else (none, s)
    | none => (none, s)
  | .startLdk id ending =>
    match s.stage id with
    | .starting => s.startLdk id ending
    | _ => (none, s)
  | .stopLdk id panics =>
    match s.stage id with
    | .stopping => s.stopLdk id panics
    | _ => (none, s)

end LifeCycle

end RgbLightningNode
