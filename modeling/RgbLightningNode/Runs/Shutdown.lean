import RgbLightningNode.Runs.LifeCycle

/-!
# Shutting down

A signal or a shutdown request makes the node wait for the flag of a change to be
down, raise it and stop LDK. The mutex of the unlocked state is asked for and never
awaited, so a request that owns it, waits for it or is about to ask for it is not
waited for; and a lock request that is refused lowers the flag. Where neither
happens, the flag and the mutex together exclude every request.
-/

namespace RgbLightningNode

variable {U B : Type}

inductive ShutdownPhase where
  | running
  /-- A signal has come, or the token is cancelled. -/
  | asked
  /-- stop_ldk runs. -/
  | stopping
  | stopped
  deriving DecidableEq

def ShutdownPhase.hasBegun : ShutdownPhase → Bool
  | .stopping | .stopped => true
  | .running | .asked => false

structure ShutdownNode (U B : Type) where
  node : LifeCycle U B
  phase : ShutdownPhase

inductive ShutdownStep (U B : Type) where
  | request (x : LifeCycleStep U B)
  | signal
  | shutdownRequest
  /-- One pass of the loop that waits for the flag. -/
  | waitStateChange
  /-- stop_ldk returns. -/
  | stopped

/-- Raise the flag when it is down. The future of the mutex is dropped. -/
def AppState.waitStateChange (s : AppState U B) : Bool × AppState U B :=
  if s.changingState then (false, s) else (true, s.updateChangingState true)

namespace ShutdownNode

/-- A node that was never unlocked. -/
def locked : ShutdownNode U B := ⟨.locked, .running⟩

def cancel (s : ShutdownNode U B) : ShutdownNode U B :=
  { s with phase := if s.phase = .running then .asked else s.phase }

def step [DecidableEq B] (s : ShutdownNode U B) :
    ShutdownStep U B → LifeCycle.Reply × ShutdownNode U B
  | .request x => ((s.node.step x).1, { s with node := (s.node.step x).2 })
  | .signal => (none, s.cancel)
  -- the future of the mutex is dropped here too
  | .shutdownRequest =>
    match s.node.app.checkChangingState with
    | .ok () => (some (.ok ()), s.cancel)
    | .error e => (some (.error e), s)
  | .waitStateChange =>
    if s.phase = .asked then
      match s.node.app.waitStateChange with
      | (true, app) => (none, ⟨{ s.node with app := app }, .stopping⟩)
      | (false, _) => (none, s)
    else (none, s)
  | .stopped =>
    if s.phase = .stopping then (none, ⟨s.node.stopServices, .stopped⟩) else (none, s)

end ShutdownNode

namespace LifeCycle

/-- In this step the request passes its check and begins its body. -/
def PassesCheck (s : LifeCycle U B) (req : GuardedRequest) : LifeCycleStep U B → Prop
  | .askMutex id _ => s.stage id = .admitted req ∧ s.mutex.owner = none ∧
      req.check s.app = .ok ()
  | .resume id _ => s.mutex.owner = some id ∧ s.stage id = .waiting req ∧
      req.check s.app = .ok ()
  | _ => False

/-- No change is in progress, and no body runs that needs an unlocked node. -/
structure Quiet (s : LifeCycle U B) : Prop where
  noChange : s.NoChange
  noBody : ∀ i req, (s.stage i).running? = some req → req.needsUnlocked = false

/-- No change is in progress when a lock request arrives, when a lock request gets the
mutex, and when an unlock of a locked node gets it. -/
def KeepsFlag (s : LifeCycle U B) : LifeCycleStep U B → Prop
  | .arrive id req => s.stage id = .gone → req = .lock → s.NoChange
  | .askMutex id _ => s.mutex.owner = none → ∀ req, s.stage id = .admitted req →
      req = .lock ∨ req = .unlock ∧ req.check s.app = .ok () → s.NoChange
  | .resume id _ => s.mutex.owner = some id → ∀ req, s.stage id = .waiting req →
      req = .lock ∨ req = .unlock ∧ req.check s.app = .ok () → s.NoChange
  | _ => True

end LifeCycle

namespace ShutdownNode

open LifeCycle

variable [DecidableEq B]

/-- stop_ldk begins in this step. -/
def BeginsStop (s : ShutdownNode U B) (x : ShutdownStep U B) : Prop :=
  s.phase.hasBegun = false ∧ (s.step x).2.phase.hasBegun = true

/-- LDK begins to be stopped only when no change is in progress and the guard is not held;
from then on no change is in progress, no body runs that needs an unlocked node, and no
such request and no unlock begins its body. -/
structure StopsSafely (s : ShutdownNode U B) (x : ShutdownStep U B) : Prop where
  begins : s.BeginsStop x → s.node.NoChange ∧ ∀ i req, s.node.stage i ≠ .guarded req
  quiet : (s.step x).2.phase.hasBegun = true → (s.step x).2.node.Quiet
  refuses : s.phase.hasBegun = true → ∀ y req, x = .request y → s.node.PassesCheck req y →
    req ≠ .unlock ∧ req.needsUnlocked = false

omit [DecidableEq B] in
/-- No step lowers the flag of a change, and no lock request arrives once LDK is being
stopped; and the loop reads the flag as down only when the mutex is free, no request is
about to ask for it, and no file is read behind the guard. -/
def KeepsOut (s : ShutdownNode U B) : ShutdownStep U B → Prop
  | .request y => s.node.KeepsFlag y ∧
      ∀ id, y = .arrive id .lock → s.phase.hasBegun = false
  | .waitStateChange => s.phase = .asked → s.node.app.changingState = false →
      s.node.mutex.owner = none ∧
        ∀ i, s.node.stage i ≠ .readingMedia ∧ ∀ req, s.node.stage i ≠ .admitted req
  | _ => True

end ShutdownNode

/-! ### The flag and the mutex -/

/-- A stage at which a request waits for the mutex. -/
def RequestStage.awaits : RequestStage U B → Bool
  | .waiting _ | .storing .. | .clearing => true
  | .gone | .admitted _ | .guarded _ | .readingMedia | .starting | .stopping => false

namespace LifeCycle

variable {s : LifeCycle U B} {id : ℕ}

/-- A request with a guard owns the mutex, one that waits for it is in its queue, and the
one change that is in progress has raised the flag. -/
structure InOrder (s : LifeCycle U B) : Prop where
  guarded : ∀ i req, s.stage i = .guarded req → s.mutex.owner = some i
  awaits : ∀ i, (s.stage i).awaits = true → s.mutex.Has i
  oneChange : ∀ i j, (s.stage i).isChanging = true → (s.stage j).isChanging = true → i = j
  changing : ∀ i, (s.stage i).isChanging = true → s.app.changingState = true

theorem inOrder_locked : InOrder (locked : LifeCycle U B) where
  guarded _ _ h := by cases h
  awaits _ h := by cases h
  oneChange _ _ h := by cases h
  changing _ h := by cases h

/-- One request changes its stage; the other requests own the mutex or wait for it as
before, and another change that is in progress keeps its flag. -/
theorem InOrder.moves (hs : s.InOrder) {app : AppState U B} {mutex : FairMutex ℕ}
    {spawned : List B} {stage : RequestStage U B}
    (howner : ∀ j, j ≠ id → s.mutex.owner = some j → mutex.owner = some j)
    (hhas : ∀ j, j ≠ id → s.mutex.Has j → mutex.Has j)
    (hguarded : ∀ req, stage = .guarded req → mutex.owner = some id)
    (hawaits : stage.awaits = true → mutex.Has id)
    (hothers : ∀ j, j ≠ id → (s.stage j).isChanging = true →
      stage.isChanging = false ∧ app.changingState = true)
    (hflag : stage.isChanging = true → app.changingState = true) :
    InOrder ((⟨app, mutex, spawned, s.stage⟩ : LifeCycle U B).setStage id stage) := by
  constructor
  · exact guarded_setStage hs.guarded howner hguarded
  · intro i h
    by_cases hi : i = id
    · rw [hi, stage_setStage_self] at h
      rw [hi]
      exact hawaits h
    · rw [stage_setStage_of_ne _ _ hi] at h
      exact hhas i hi (hs.awaits i h)
  · intro i j hi hj
    by_cases hid : i = id <;> by_cases hjd : j = id
    · rw [hid, hjd]
    · rw [hid, stage_setStage_self] at hi
      rw [stage_setStage_of_ne _ _ hjd] at hj
      cases hi.symm.trans (hothers j hjd hj).1
    · rw [hjd, stage_setStage_self] at hj
      rw [stage_setStage_of_ne _ _ hid] at hi
      cases hj.symm.trans (hothers i hid hi).1
    · rw [stage_setStage_of_ne _ _ hid] at hi
      rw [stage_setStage_of_ne _ _ hjd] at hj
      exact hs.oneChange i j hi hj
  · intro i h
    by_cases hi : i = id
    · rw [hi, stage_setStage_self] at h
      exact hflag h
    · rw [stage_setStage_of_ne _ _ hi] at h
      exact (hothers i hi h).2

/-- A request that changes nothing releases the mutex, or leaves its queue. -/
theorem InOrder.leaves (hs : s.InOrder) {app : AppState U B} {mutex : FairMutex ℕ}
    {stage : RequestStage U B}
    (howner : ∀ j, j ≠ id → s.mutex.owner = some j → mutex.owner = some j)
    (hhas : ∀ j, j ≠ id → s.mutex.Has j → mutex.Has j)
    (hstage : stage = .gone ∨ stage = .readingMedia ∨ ∃ req, stage = .admitted req)
    (hflag : s.app.changingState = true → app.changingState = true ∨ s.NoChange) :
    InOrder ((⟨app, mutex, s.spawned, s.stage⟩ : LifeCycle U B).setStage id stage) := by
  have hold : ∀ j, (s.stage j).isChanging = true → app.changingState = true := by
    intro j hj
    obtain h | hno := hflag (hs.changing j hj)
    · exact h
    · cases hj.symm.trans (hno j)
  obtain rfl | rfl | ⟨req, rfl⟩ := hstage <;>
    exact hs.moves howner hhas (fun _ h => by cases h) (fun h => by cases h)
      (fun j _ hj => ⟨rfl, hold j hj⟩) fun h => by cases h

/-- A release by the owner keeps every other request that waits for the mutex. -/
theorem has_release_of_ne (howner : s.mutex.owner = some id) (j : ℕ) (hne : j ≠ id)
    (h : s.mutex.Has j) : s.mutex.release.Has j :=
  h.release fun hj => hne (Option.some.inj (hj.symm.trans howner))

/-- The only change enters its next stage, or ends. -/
theorem InOrder.goesOn (hs : s.InOrder) (hold : (s.stage id).isChanging = true)
    {app : AppState U B} {mutex : FairMutex ℕ} {spawned : List B} {stage : RequestStage U B}
    (howner : ∀ j, j ≠ id → s.mutex.owner = some j → mutex.owner = some j)
    (hhas : ∀ j, j ≠ id → s.mutex.Has j → mutex.Has j)
    (hguarded : ∀ req, stage ≠ .guarded req)
    (hawaits : stage.awaits = true → mutex.Has id)
    (hflag : stage.isChanging = true → app.changingState = true) :
    InOrder ((⟨app, mutex, spawned, s.stage⟩ : LifeCycle U B).setStage id stage) :=
  hs.moves howner hhas (fun req h => absurd h (hguarded req)) hawaits
    (fun j hne hj => absurd (hs.oneChange j id hj hold) hne) hflag

theorem InOrder.lock (hs : s.InOrder) (id : ℕ) : InOrder { s with mutex := s.mutex.lock id } :=
  { hs with
    guarded := fun i req h => FairMutex.owner_lock_of_owner (hs.guarded i req h)
    awaits := fun i h => (hs.awaits i h).lock id }

theorem InOrder.proceed (hs : s.InOrder) (howner : s.mutex.owner = some id)
    {req : GuardedRequest} (hno : req = .lock ∨ req = .unlock → s.NoChange)
    (password : Except APIError Unit) : InOrder (s.proceed id req password).2 := by
  have hbegins : s.NoChange → ∀ stage : RequestStage U B, (∀ req, stage ≠ .guarded req) →
      stage.awaits = false → InOrder ((⟨s.app.updateChangingState true, s.mutex.release,
        s.spawned, s.stage⟩ : LifeCycle U B).setStage id stage) := by
    intro hno stage hguarded hawaits
    refine hs.moves (owner_release howner _) (has_release_of_ne howner)
      (fun req h => absurd h (hguarded req)) (fun h => ?_) (fun j _ hj => ?_) fun _ => rfl
    · cases h.symm.trans hawaits
    · cases hj.symm.trans (hno j)
  cases req with
  | unlock =>
    cases password with
    | ok _ => exact hbegins (hno (.inr rfl)) _ (fun _ h => by cases h) rfl
    | error e =>
      exact hs.leaves (owner_release howner _) (has_release_of_ne howner) (.inl rfl) fun _ =>
        .inr (hno (.inr rfl))
  | lock => exact hbegins (hno (.inl rfl)) _ (fun _ h => by cases h) rfl
  | getAssetMedia =>
    exact hs.leaves (owner_release howner _) (has_release_of_ne howner) (.inr (.inl rfl)) Or.inl
  | init | backup | restore | changePassword | ordinary =>
    exact hs.moves (fun _ _ h => h) (fun _ _ h => h) (fun _ _ => howner) (fun h => by cases h)
      (fun j _ hj => ⟨rfl, hs.changing j hj⟩) fun h => by cases h

theorem InOrder.refuse (hs : s.InOrder) {req : GuardedRequest} {mutex : FairMutex ℕ}
    (howner : ∀ j, j ≠ id → s.mutex.owner = some j → mutex.owner = some j)
    (hhas : ∀ j, j ≠ id → s.mutex.Has j → mutex.Has j)
    (hno : req = .lock → s.NoChange) (e : APIError) :
    InOrder ({ s with mutex := mutex }.refuse id req e).2 := by
  refine hs.leaves howner hhas (.inl rfl) fun h => ?_
  cases req with
  | lock => exact .inr (hno rfl)
  | unlock | init | backup | restore | changePassword | getAssetMedia | ordinary => exact .inl h

theorem InOrder.enter (hs : s.InOrder) (howner : s.mutex.owner = some id)
    {req : GuardedRequest}
    (hno : req = .lock ∨ req = .unlock ∧ req.check s.app = .ok () → s.NoChange)
    (password : Except APIError Unit) : InOrder (s.enter id req password).2 := by
  rw [LifeCycle.enter]
  cases hcheck : req.check s.app with
  | ok _ => exact hs.proceed howner (fun h => hno (h.imp_right fun h => ⟨h, hcheck⟩)) password
  | error e =>
    exact hs.refuse (owner_release howner _) (has_release_of_ne howner) (fun h => hno (.inl h)) e

/-- While the flag is down no change is in progress. -/
theorem InOrder.noChange (hs : s.InOrder) (hflag : s.app.changingState = false) :
    s.NoChange := by
  intro i
  by_contra hi
  cases hflag.symm.trans (hs.changing i (by simpa using hi))

theorem InOrder.arrive (hs : s.InOrder) {req : GuardedRequest}
    (hno : req = .lock → s.NoChange) : InOrder (s.arrive id req).2 := by
  rw [LifeCycle.arrive]
  split
  · exact hs.leaves (fun _ _ h => h) (fun _ _ h => h) (.inr (.inr ⟨req, rfl⟩)) Or.inl
  · exact hs.refuse (fun _ _ h => h) (fun _ _ h => h) hno _

theorem InOrder.askMutex (hs : s.InOrder) {req : GuardedRequest}
    {password : Except APIError Unit} (hstage : s.stage id = .admitted req)
    (hk : s.KeepsFlag (.askMutex id password)) : InOrder (s.askMutex id req password).2 := by
  rw [LifeCycle.askMutex]
  cases howner : s.mutex.owner with
  | none =>
    exact (hs.lock id).enter (FairMutex.owner_lock_of_free howner) (hk howner req hstage) password
  | some j =>
    exact hs.moves (fun k _ h => FairMutex.owner_lock_of_owner h) (fun k _ h => h.lock id)
      (fun _ h => by cases h) (fun _ => FairMutex.has_lock_self _ id)
      (fun j _ hj => ⟨rfl, hs.changing j hj⟩) fun h => by cases h

/-- A change ends when its request holds the mutex. -/
theorem InOrder.complete (hs : s.InOrder) (hold : (s.stage id).isChanging = true)
    (howner : s.mutex.owner = some id) (state : Option U) (services : Option B) :
    InOrder (s.complete id state services).2 :=
  hs.goesOn hold (owner_release howner _) (has_release_of_ne howner) (fun _ h => by cases h)
    (fun h => by cases h) fun h => by cases h

/-- A change asks for the mutex to end. -/
theorem InOrder.asks (hs : s.InOrder) (hold : (s.stage id).isChanging = true) {spawned : List B}
    {stage : RequestStage U B} (hguarded : ∀ req, stage ≠ .guarded req) :
    InOrder ((⟨s.app, s.mutex.lock id, spawned, s.stage⟩ : LifeCycle U B).setStage id stage) :=
  hs.goesOn hold (fun _ _ h => FairMutex.owner_lock_of_owner h) (fun _ _ h => h.lock id) hguarded
    (fun _ => FairMutex.has_lock_self _ id) fun _ => hs.changing id hold

theorem InOrder.startLdk (hs : s.InOrder) (hold : (s.stage id).isChanging = true)
    (ending : StartLdk U B) : InOrder (s.startLdk id ending).2 := by
  have hends : ∀ (app : AppState U B) (spawned : List B),
      InOrder ((⟨app, s.mutex, spawned, s.stage⟩ : LifeCycle U B).setStage id .gone) :=
    fun _ _ => hs.goesOn hold (fun _ _ h => h) (fun _ _ h => h) (fun _ h => by cases h)
      (fun h => by cases h) fun h => by cases h
  cases ending with
  | started services state =>
    rw [LifeCycle.startLdk]
    dsimp only
    cases howner : s.mutex.owner with
    | none =>
      exact InOrder.complete (s := ⟨s.app, s.mutex.lock id, services :: s.spawned, s.stage⟩)
        { hs.lock id with } hold (FairMutex.owner_lock_of_free howner) _ _
    | some j => exact hs.asks hold fun _ h => by cases h
  | fails spawned e => exact hends _ _
  | panics spawned => exact hends _ _

theorem InOrder.resume (hs : s.InOrder) (howner : s.mutex.owner = some id)
    {password : Except APIError Unit} (hk : s.KeepsFlag (.resume id password)) :
    InOrder (s.resume id password).2 := by
  rw [LifeCycle.resume]
  cases hstage : s.stage id with
  | waiting req => exact hs.enter howner (hk howner req hstage) password
  | storing services state => exact hs.complete (by rw [hstage]; rfl) howner _ _
  | clearing => exact hs.complete (by rw [hstage]; rfl) howner _ _
  | gone | admitted | guarded | readingMedia | starting | stopping => exact hs

section Steps

variable [DecidableEq B]

/-- Stopping the services changes the spawned tasks only. -/
theorem stopServices_eq (s : LifeCycle U B) :
    ∃ spawned, s.stopServices = ⟨s.app, s.mutex, spawned, s.stage⟩ := by
  rw [stopServices]
  split
  · exact ⟨_, rfl⟩
  · exact ⟨s.spawned, rfl⟩

theorem InOrder.stopServices (hs : s.InOrder) : InOrder s.stopServices := by
  obtain ⟨spawned, hstop⟩ := stopServices_eq s
  rw [hstop]
  exact { hs with }

theorem InOrder.stopLdk (hs : s.InOrder) (hold : (s.stage id).isChanging = true)
    (panics : Bool) : InOrder (s.stopLdk id panics).2 := by
  rw [LifeCycle.stopLdk]
  split
  · exact hs.goesOn hold (fun _ _ h => h) (fun _ _ h => h) (fun _ h => by cases h)
      (fun h => by cases h) fun h => by cases h
  · obtain ⟨spawned, hstop⟩ := stopServices_eq s
    have hstopped := hs.stopServices
    rw [hstop] at hstopped ⊢
    dsimp only
    cases howner : s.mutex.owner with
    | none => exact (hstopped.lock id).complete hold (FairMutex.owner_lock_of_free howner) none none
    | some j => exact hs.asks hold fun _ h => by cases h

theorem InOrder.step (hs : s.InOrder) {x : LifeCycleStep U B} (hk : s.KeepsFlag x) :
    InOrder (s.step x).2 := by
  cases x with
  | arrive id req =>
    rw [LifeCycle.step]
    split
    · rename_i hgone
      exact hs.arrive (hk hgone)
    · exact hs
  | askMutex id password =>
    rw [LifeCycle.step]
    split
    · rename_i req hstage
      exact hs.askMutex hstage hk
    · exact hs
  | resume id password =>
    rw [LifeCycle.step]
    split
    · rename_i howner
      exact hs.resume howner hk
    · exact hs
  | finish id reply =>
    rw [LifeCycle.step]
    split
    · rename_i req hstage
      have howner := hs.guarded id req hstage
      exact hs.leaves (owner_release howner _) (has_release_of_ne howner) (.inl rfl) Or.inl
    · exact hs.leaves (fun _ _ h => h) (fun _ _ h => h) (.inl rfl) Or.inl
    · exact hs
  | cancel id =>
    rw [LifeCycle.step]
    split
    · split
      · exact hs.leaves (fun j hne h => FairMutex.owner_leave_of_ne h hne)
          (fun j hne h => h.leave hne) (.inl rfl) Or.inl
      · exact hs
    · exact hs
  | startLdk id ending =>
    rw [LifeCycle.step]
    split
    · rename_i hstage
      exact hs.startLdk (by rw [hstage]; rfl) ending
    · exact hs
  | stopLdk id panics =>
    rw [LifeCycle.step]
    split
    · rename_i hstage
      exact hs.stopLdk (by rw [hstage]; rfl) panics
    · exact hs

end Steps

/-! ### When nothing is under way -/

/-- No request is under way, and the flag is up. -/
structure Still (s : LifeCycle U B) : Prop where
  flag : s.app.changingState = true
  gone : ∀ i, s.stage i = .gone

/-- With the flag down and the mutex free, every request has ended that reads no file and
is not about to ask for the mutex. -/
theorem InOrder.gone (hs : s.InOrder) (hflag : s.app.changingState = false)
    (hfree : s.mutex.owner = none)
    (hnobody : ∀ i, s.stage i ≠ .readingMedia ∧ ∀ req, s.stage i ≠ .admitted req) (i : ℕ) :
    s.stage i = .gone := by
  have hchange := hs.noChange hflag i
  obtain ⟨hmedia, hadmitted⟩ := hnobody i
  have hguarded := hs.guarded i
  have hawaits := hs.awaits i
  cases hstage : s.stage i with
  | gone => rfl
  | admitted req => exact absurd hstage (hadmitted req)
  | waiting req =>
    rw [hstage] at hawaits
    exact absurd (hawaits rfl) (FairMutex.not_has_of_free hfree)
  | guarded req =>
    cases hfree.symm.trans (hguarded req hstage)
  | readingMedia => exact absurd hstage hmedia
  | starting | storing | stopping | clearing =>
    rw [hstage] at hchange
    cases hchange

theorem Still.quiet (h : s.Still) : s.Quiet where
  noChange i := by
    rw [h.gone i]
    rfl
  noBody i req hreq := by
    rw [h.gone i] at hreq
    cases hreq

/-- With the flag up, no request passes its check. -/
theorem Still.not_passesCheck (h : s.Still) (req : GuardedRequest) (x : LifeCycleStep U B) :
    ¬s.PassesCheck req x := by
  cases x with
  | askMutex id password =>
    rintro ⟨hadmitted, -, -⟩
    cases (h.gone id).symm.trans hadmitted
  | resume id password =>
    rintro ⟨-, hwaiting, -⟩
    cases (h.gone id).symm.trans hwaiting
  | arrive | finish | cancel | startLdk | stopLdk => exact id

/-- Only a lock request lowers the flag that excludes every request. -/
theorem Still.step [DecidableEq B] (h : s.Still) {x : LifeCycleStep U B}
    (hlock : ∀ id, x ≠ .arrive id .lock) : Still (s.step x).2 := by
  cases x with
  | arrive id req =>
    have hrefused : req.refused s.app = s.app := by
      cases req with
      | lock => exact absurd rfl (hlock id)
      | unlock | init | backup | restore | changePassword | getAssetMedia | ordinary => rfl
    rw [LifeCycle.step, h.gone id]
    dsimp only
    rw [LifeCycle.arrive, AppState.checkChangingState, if_pos h.flag]
    dsimp only
    rw [LifeCycle.refuse, hrefused]
    refine ⟨h.flag, fun i => ?_⟩
    by_cases hi : i = id
    · rw [hi]
      exact stage_setStage_self _ _ _
    · exact (stage_setStage_of_ne _ _ hi).trans (h.gone i)
  | askMutex id password =>
    rw [LifeCycle.step, h.gone id]
    exact h
  | resume id password =>
    rw [LifeCycle.step, LifeCycle.resume, h.gone id]
    split <;> exact h
  | finish id reply =>
    rw [LifeCycle.step, h.gone id]
    exact h
  | cancel id =>
    rw [LifeCycle.step, h.gone id]
    exact h
  | startLdk id ending =>
    rw [LifeCycle.step, h.gone id]
    exact h
  | stopLdk id panics =>
    rw [LifeCycle.step, h.gone id]
    exact h

end LifeCycle

/-! ### Runs -/

namespace ShutdownNode

open LifeCycle

variable {s : ShutdownNode U B}

structure Inv (s : ShutdownNode U B) : Prop where
  inOrder : s.node.InOrder
  still : s.phase.hasBegun = true → s.node.Still

theorem inv_locked : Inv (locked : ShutdownNode U B) where
  inOrder := inOrder_locked
  still h := by cases h

/-- A signal that arrives while LDK is being stopped changes nothing. -/
theorem hasBegun_cancel (s : ShutdownNode U B) : s.cancel.phase.hasBegun = s.phase.hasBegun := by
  rw [cancel]
  cases s.phase <;> rfl

theorem Inv.cancel (hs : Inv s) : Inv s.cancel where
  inOrder := hs.inOrder
  still h := hs.still ((hasBegun_cancel s).symm.trans h)

variable [DecidableEq B]

theorem Inv.waitStateChange (hs : Inv s) (h : s.KeepsOut .waitStateChange) :
    Inv (s.step .waitStateChange).2 := by
  rw [step]
  split
  · rename_i hasked
    rw [AppState.waitStateChange]
    cases hflag : s.node.app.changingState with
    | true => exact hs
    | false =>
      obtain ⟨hfree, hnobody⟩ := h hasked hflag
      have hgone := hs.inOrder.gone hflag hfree hnobody
      have hnone : ∀ i, (s.node.stage i).isChanging ≠ true := by
        intro i hi
        rw [hgone i] at hi
        cases hi
      rw [if_neg Bool.false_ne_true]
      exact ⟨{ hs.inOrder with changing := fun i hi => absurd hi (hnone i) }, fun _ => ⟨rfl, hgone⟩⟩
  · exact hs

theorem Inv.stopped (hs : Inv s) : Inv (s.step .stopped).2 := by
  rw [step]
  split
  · rename_i hstopping
    obtain ⟨spawned, hstop⟩ := stopServices_eq s.node
    have hstill := hs.still (by rw [hstopping]; rfl)
    refine ⟨hs.inOrder.stopServices, fun _ => ?_⟩
    dsimp only
    rw [hstop]
    exact ⟨hstill.flag, hstill.gone⟩
  · exact hs

/-- A step that meets the condition keeps the invariant. -/
theorem Inv.step (hs : Inv s) {x : ShutdownStep U B} (h : s.KeepsOut x) : Inv (s.step x).2 := by
  cases x with
  | request y =>
    refine ⟨hs.inOrder.step h.1, fun hbegun => (hs.still hbegun).step fun id hy => ?_⟩
    cases hbegun.symm.trans (h.2 id hy)
  | signal => exact hs.cancel
  | shutdownRequest =>
    rw [ShutdownNode.step]
    split
    · exact hs.cancel
    · exact hs
  | waitStateChange => exact hs.waitStateChange h
  | stopped => exact hs.stopped

/-- LDK begins to be stopped when the loop reads the flag as down. -/
theorem BeginsStop.asked {x : ShutdownStep U B} (h : s.BeginsStop x) :
    x = .waitStateChange ∧ s.phase = .asked ∧ s.node.app.changingState = false := by
  obtain ⟨hrunning, hbegun⟩ := h
  have hnot : s.phase.hasBegun ≠ true := by simp [hrunning]
  cases x with
  | request y => exact absurd hbegun hnot
  | signal => exact absurd ((hasBegun_cancel s).symm.trans hbegun) hnot
  | shutdownRequest =>
    rw [step] at hbegun
    split at hbegun
    · exact absurd ((hasBegun_cancel s).symm.trans hbegun) hnot
    · exact absurd hbegun hnot
  | waitStateChange =>
    rw [step] at hbegun
    split at hbegun
    · rename_i hasked
      rw [AppState.waitStateChange] at hbegun
      cases hflag : s.node.app.changingState with
      | true =>
        rw [hflag] at hbegun
        exact absurd hbegun hnot
      | false => exact ⟨rfl, hasked, rfl⟩
    · exact absurd hbegun hnot
  | stopped =>
    rw [step] at hbegun
    split at hbegun
    · rename_i hstopping
      rw [hstopping] at hrunning
      cases hrunning
    · exact absurd hbegun hnot

theorem Inv.stopsSafely (hs : Inv s) {x : ShutdownStep U B} (h : s.KeepsOut x) :
    s.StopsSafely x where
  begins hbegins := by
    obtain ⟨rfl, hasked, hflag⟩ := hbegins.asked
    refine ⟨hs.inOrder.noChange hflag, fun i req hguarded => ?_⟩
    cases (h hasked hflag).1.symm.trans (hs.inOrder.guarded i req hguarded)
  quiet hbegun := ((hs.step h).still hbegun).quiet
  refuses hbegun y req _ hpasses := absurd hpasses ((hs.still hbegun).not_passesCheck req y)

/-- In every run whose steps meet the condition, every step stops LDK safely. -/
theorem stopsSafely_run {xs : List (ShutdownStep U B)} (h : Mealy.Along step KeepsOut locked xs) :
    Mealy.Along step StopsSafely locked xs :=
  Mealy.along_of_invariant (I := Inv) (fun _ _ hs hx => hs.step hx)
    (fun _ _ hs hx => hs.stopsSafely hx) inv_locked h

/-- A signal that arrives while the node is being unlocked, and a request after it. -/
theorem stopsSafely_after_unlock :
    Mealy.Along step StopsSafely (locked : ShutdownNode ℕ ℕ)
      [.request (.arrive 0 .unlock), .request (.askMutex 0 (.ok ())), .signal, .waitStateChange,
        .request (.startLdk 0 (.started 7 8)), .waitStateChange,
        .request (.arrive 1 .ordinary), .stopped] := by
  apply stopsSafely_run
  simp only [Mealy.along_cons, Mealy.along_nil, and_true]
  refine ⟨⟨?_, ?_⟩, ⟨?_, ?_⟩, trivial, ?_, ⟨trivial, ?_⟩, ?_, ⟨?_, ?_⟩, trivial⟩
  · intro _ h
    cases h
  · intro _ h
    cases h
  · intro _ _ _ _ i
    cases i <;> rfl
  · intro _ h
    cases h
  · intro _ hflag
    cases hflag
  · intro _ h
    cases h
  · intro _ _
    refine ⟨rfl, fun i => ?_⟩
    cases i <;> refine ⟨fun h => ?_, fun _ h => ?_⟩ <;> cases h
  · intro _ h
    cases h
  · intro _ h
    cases h

/-- LDK begins to be stopped while a request holds the guard. -/
theorem stops_under_guard :
    ¬∀ xs : List (ShutdownStep ℕ ℕ), Mealy.Along step StopsSafely locked xs := by
  intro h
  have hlast := (h [.request (.arrive 0 .unlock), .request (.askMutex 0 (.ok ())),
    .request (.startLdk 0 (.started 7 8)), .request (.arrive 1 .ordinary),
    .request (.askMutex 1 (.ok ())), .signal, .waitStateChange]).2.2.2.2.2.2.1
  exact (hlast.begins ⟨rfl, rfl⟩).2 1 .ordinary rfl

/-- A request that has read the flag before the shutdown gets the mutex after it, and
begins its body. -/
example :
    let s := Mealy.final step (locked : ShutdownNode ℕ ℕ)
      [.request (.arrive 0 .unlock), .request (.askMutex 0 (.ok ())),
        .request (.startLdk 0 (.started 7 8)), .request (.arrive 1 .ordinary), .signal,
        .waitStateChange]
    s.phase.hasBegun = true ∧ s.node.PassesCheck .ordinary (.askMutex 1 (.ok ())) :=
  ⟨rfl, rfl, rfl, rfl⟩

end ShutdownNode

end RgbLightningNode
