import RgbLightningNode.Lib.Mealy
import RgbLightningNode.Routes.Unlock

/-!
# The life cycle of a node

At most one change of the node is in progress, and no body of a request runs that
needs the part of the state that is being changed. The code does not enforce it for
a request that has read the flag before, and a lock request that is refused lowers
the flag; it holds in the runs in which neither happens during a change. Any other
request that is refused leaves the node unchanged.
-/

namespace RgbLightningNode

namespace LifeCycle

variable {U B : Type} {s : LifeCycle U B} {id : ℕ} {stage : RequestStage U B}

/-- A node that was never unlocked. -/
def locked : LifeCycle U B := ⟨⟨none, none, false⟩, .free, [], fun _ => .gone⟩

structure Exclusive (s : LifeCycle U B) : Prop where
  oneChange : ∀ i j, (s.stage i).isChanging = true → (s.stage j).isChanging = true → i = j
  oneSet : s.spawned.length ≤ 1
  unlocking : ∀ i j req, (s.stage i).isUnlocking = true → (s.stage j).running? = some req →
    req.needsUnlocked = true
  locking : ∀ i j req, (s.stage i).isLocking = true → (s.stage j).running? = some req →
    req.needsUnlocked = false
  present : s.app.changingState = false →
    s.app.unlockedAppState.isSome = s.app.ldkBackgroundServices.isSome

/-! ### When a change is not disturbed -/

def NoChange (s : LifeCycle U B) : Prop := ∀ i, (s.stage i).isChanging = false

/-- The request passes its check, and changes the node. -/
def Begins (s : LifeCycle U B) (req : GuardedRequest) (password : Except APIError Unit) : Prop :=
  req.check s.app = .ok () ∧ (req = .lock ∨ req = .unlock ∧ password = .ok ())

/-- No other request that has read the flag as down, or reads a file, needs the node in
the state this one needs, and none of them is a lock request. -/
def Alone (s : LifeCycle U B) (id : ℕ) (req : GuardedRequest) : Prop :=
  ∀ j other, j ≠ id → (s.stage j).request? = some other →
    other ≠ .lock ∧ other.needsUnlocked ≠ req.needsUnlocked

/-- A lock request arrives while no change is in progress, a change begins alone, and
start_ldk does not end early after it has spawned its tasks. -/
def Undisturbed (s : LifeCycle U B) : LifeCycleStep U B → Prop
  | .arrive id req => s.stage id = .gone → req = .lock → s.NoChange
  | .askMutex id password => ∀ req, s.stage id = .admitted req → s.mutex.owner = none →
    s.Begins req password → s.Alone id req
  | .resume id password => ∀ req, s.stage id = .waiting req → s.mutex.owner = some id →
    s.Begins req password → s.Alone id req
  | .startLdk id (.fails spawned _) | .startLdk id (.panics spawned) =>
    s.stage id = .starting → spawned = none
  | _ => True

/-! ### The invariant -/

/-- No change is in progress, or the one in progress has changed the flag only. -/
def AtRest (app : AppState U B) (spawned : List B) : Prop :=
  app.unlockedAppState.isSome = app.ldkBackgroundServices.isSome ∧
    spawned = app.ldkBackgroundServices.toList

/-- The state and the services at each stage of a change. -/
def Fits (app : AppState U B) (spawned : List B) : RequestStage U B → Prop
  | .starting => AtRest app spawned ∧ app.unlockedAppState.isSome = false
  | .storing services _ => app.unlockedAppState.isSome = false ∧ spawned = [services]
  | .stopping => AtRest app spawned ∧ app.unlockedAppState.isSome = true
  | .clearing => app.unlockedAppState.isSome = true ∧ spawned = []
  | _ => True

structure Sound (s : LifeCycle U B) : Prop where
  guarded : ∀ i req, s.stage i = .guarded req → s.mutex.owner = some i
  oneChange : ∀ i j, (s.stage i).isChanging = true → (s.stage j).isChanging = true → i = j
  changing : ∀ i, (s.stage i).isChanging = true → s.app.changingState = true
  fits : ∀ i, (s.stage i).isChanging = true → Fits s.app s.spawned (s.stage i)
  rest : s.NoChange → AtRest s.app s.spawned
  others : ∀ i j req, (s.stage i).isChanging = true → (s.stage j).request? = some req →
    req ≠ .lock ∧ req.needsUnlocked ≠ s.app.unlockedAppState.isSome

theorem sound_locked : Sound (locked : LifeCycle U B) where
  guarded := by intro i req h; cases h
  oneChange := by intro i j h; cases h
  changing := by intro i h; cases h
  fits := by intro i h; cases h
  rest := fun _ => ⟨rfl, rfl⟩
  others := by intro i j req h; cases h

theorem check_eq_ok_iff {req : GuardedRequest} {app : AppState U B} :
    req.check app = .ok () ↔ req.needsUnlocked = app.unlockedAppState.isSome := by
  rw [GuardedRequest.check, AppState.checkUnlocked, AppState.checkLocked]
  cases req.needsUnlocked <;> cases app.unlockedAppState <;> simp

/-! ### What a step keeps -/

theorem Sound.lock (hs : Sound s) (id : ℕ) : Sound { s with mutex := s.mutex.lock id } :=
  { hs with guarded := fun i req h => FairMutex.owner_lock_of_owner (hs.guarded i req h) }

/-- A guard holds the mutex, also after one request has changed its stage. -/
theorem guarded_setStage (hs : ∀ i req, s.stage i = .guarded req → s.mutex.owner = some i)
    {app : AppState U B} {mutex : FairMutex ℕ} {spawned : List B}
    (howner : ∀ j, j ≠ id → s.mutex.owner = some j → mutex.owner = some j)
    (hnew : ∀ req, stage = .guarded req → mutex.owner = some id) (i : ℕ) (req : GuardedRequest)
    (h : ((⟨app, mutex, spawned, s.stage⟩ : LifeCycle U B).setStage id stage).stage i =
      .guarded req) : mutex.owner = some i := by
  by_cases hi : i = id
  · rw [hi, stage_setStage_self] at h
    rw [hi]
    exact hnew req h
  · rw [stage_setStage_of_ne _ _ hi] at h
    exact howner i hi (hs i req h)

/-- A step of a request that does not change the node. -/
theorem Sound.moves (hs : Sound s) {mutex : FairMutex ℕ}
    (hmutex : ∀ j, j ≠ id → s.mutex.owner = some j → mutex.owner = some j)
    (hguarded : ∀ req, stage = .guarded req → mutex.owner = some id)
    (hold : (s.stage id).isChanging = false) (hnew : stage.isChanging = false)
    (hrequest : ∀ i req, (s.stage i).isChanging = true → stage.request? = some req →
      (s.stage id).request? = some req) :
    Sound ({ s with mutex := mutex }.setStage id stage) := by
  have hchanging : ∀ i, (({ s with mutex := mutex }.setStage id stage).stage i).isChanging =
      (s.stage i).isChanging := by
    intro i
    by_cases hi : i = id
    · rw [hi, stage_setStage_self, hnew, hold]
    · rw [stage_setStage_of_ne _ _ hi]
  constructor
  · exact guarded_setStage hs.guarded hmutex hguarded
  · intro i j hi hj
    rw [hchanging] at hi hj
    exact hs.oneChange i j hi hj
  · intro i hi
    rw [hchanging] at hi
    exact hs.changing i hi
  · intro i hi
    rw [hchanging] at hi
    have hne : i ≠ id := by
      rintro rfl
      rw [hold] at hi
      cases hi
    rw [stage_setStage_of_ne _ _ hne]
    exact hs.fits i hi
  · intro h
    exact hs.rest fun i => (hchanging i).symm.trans (h i)
  · intro i j req hi hreq
    rw [hchanging] at hi
    by_cases hj : j = id
    · rw [hj, stage_setStage_self] at hreq
      exact hs.others i id req hi (hrequest i req hi hreq)
    · rw [stage_setStage_of_ne _ _ hj] at hreq
      exact hs.others i j req hi hreq

theorem request?_of_isChanging (h : stage.isChanging = true) : stage.request? = none := by
  cases stage with
  | gone | admitted | waiting | guarded | readingMedia => cases h
  | starting | storing | stopping | clearing => rfl

/-- One request enters a stage of a change, and no other request is at one. -/
theorem Sound.comesTo (hs : Sound s) {app : AppState U B} {mutex : FairMutex ℕ} {spawned : List B}
    (hmutex : ∀ j, j ≠ id → s.mutex.owner = some j → mutex.owner = some j)
    (honly : ∀ i, i ≠ id → (s.stage i).isChanging = false) (hnew : stage.isChanging = true)
    (hflag : app.changingState = true) (hfits : Fits app spawned stage)
    (hothers : ∀ j req, j ≠ id → (s.stage j).request? = some req →
      req ≠ .lock ∧ req.needsUnlocked ≠ app.unlockedAppState.isSome) :
    Sound ((⟨app, mutex, spawned, s.stage⟩ : LifeCycle U B).setStage id stage) := by
  have hid : ∀ i, (((⟨app, mutex, spawned, s.stage⟩ :
      LifeCycle U B).setStage id stage).stage i).isChanging = true → i = id := by
    intro i hi
    by_contra hne
    rw [stage_setStage_of_ne _ _ hne] at hi
    exact Bool.false_ne_true ((honly i hne).symm.trans hi)
  constructor
  · refine guarded_setStage hs.guarded hmutex fun req h => ?_
    rw [h] at hnew
    cases hnew
  · intro i j hi hj
    exact (hid i hi).trans (hid j hj).symm
  · intro i hi
    exact hflag
  · intro i hi
    rw [hid i hi, stage_setStage_self]
    exact hfits
  · intro h
    have hgone := h id
    rw [stage_setStage_self, hnew] at hgone
    cases hgone
  · intro i j req hi hreq
    by_cases hj : j = id
    · rw [hj, stage_setStage_self, request?_of_isChanging hnew] at hreq
      cases hreq
    · rw [stage_setStage_of_ne _ _ hj] at hreq
      exact hothers j req hj hreq

/-- A change begins, and changes the flag only. -/
theorem Sound.begins (hs : Sound s) (hno : s.NoChange) {req : GuardedRequest}
    (halone : s.Alone id req) (hneeds : req.needsUnlocked = s.app.unlockedAppState.isSome)
    {mutex : FairMutex ℕ}
    (hmutex : ∀ j, j ≠ id → s.mutex.owner = some j → mutex.owner = some j)
    (hnew : stage.isChanging = true)
    (hfits : Fits (s.app.updateChangingState true) s.spawned stage) :
    Sound (({ s with app := s.app.updateChangingState true, mutex := mutex } :
      LifeCycle U B).setStage id stage) := by
  refine hs.comesTo hmutex (fun i _ => hno i) hnew rfl hfits ?_
  intro j other hj hother
  obtain ⟨hlock, hdiffers⟩ := halone j other hj hother
  exact ⟨hlock, fun h => hdiffers (h.trans hneeds.symm)⟩

/-- A change enters its next stage. -/
theorem Sound.goesOn (hs : Sound s) {mutex : FairMutex ℕ} {spawned : List B}
    (hmutex : ∀ j, s.mutex.owner = some j → mutex.owner = some j)
    (hold : (s.stage id).isChanging = true) (hnew : stage.isChanging = true)
    (hfits : Fits s.app spawned stage) :
    Sound (({ s with mutex := mutex, spawned := spawned } : LifeCycle U B).setStage id stage) := by
  have honly : ∀ i, i ≠ id → (s.stage i).isChanging = false := by
    intro i hne
    by_contra hi
    exact hne (hs.oneChange i id (by simpa using hi) hold)
  exact hs.comesTo (fun j _ => hmutex j) honly hnew (hs.changing id hold) hfits
    fun j req _ hreq => hs.others id j req hold hreq

/-- A change ends with the state and the services in agreement. -/
theorem Sound.ends (hs : Sound s) {app : AppState U B} {mutex : FairMutex ℕ} {spawned : List B}
    (hmutex : ∀ j, j ≠ id → s.mutex.owner = some j → mutex.owner = some j)
    (hold : (s.stage id).isChanging = true) (hrest : AtRest app spawned) :
    Sound ((⟨app, mutex, spawned, s.stage⟩ : LifeCycle U B).setStage id .gone) := by
  have hno : ∀ i, (((⟨app, mutex, spawned, s.stage⟩ :
      LifeCycle U B).setStage id .gone).stage i).isChanging ≠ true := by
    intro i hi
    by_cases hne : i = id
    · rw [hne, stage_setStage_self] at hi
      cases hi
    · rw [stage_setStage_of_ne _ _ hne] at hi
      exact hne (hs.oneChange i id hi hold)
  constructor
  · exact guarded_setStage hs.guarded hmutex fun req h => by cases h
  · intro i j hi
    exact absurd hi (hno i)
  · intro i hi
    exact absurd hi (hno i)
  · intro i hi
    exact absurd hi (hno i)
  · intro _
    exact hrest
  · intro i j req hi
    exact absurd hi (hno i)

/-! ### One step -/

/-- No other request owns a mutex that this one owns. -/
theorem owner_release (howner : s.mutex.owner = some id) (mutex : FairMutex ℕ) (j : ℕ)
    (hne : j ≠ id) (hj : s.mutex.owner = some j) : mutex.owner = some j :=
  absurd (Option.some.inj (hj.symm.trans howner)) hne

/-- Without a change in progress, the flag may be lowered. -/
theorem Sound.resets (hs : Sound s) (hno : s.NoChange) :
    Sound { s with app := s.app.updateChangingState false } :=
  { hs with
    changing := fun i hi => absurd hi (by simp [hno i])
    fits := fun i hi => absurd hi (by simp [hno i]) }

theorem Sound.refuse (hs : Sound s) {req : GuardedRequest} {mutex : FairMutex ℕ}
    (hmutex : ∀ j, j ≠ id → s.mutex.owner = some j → mutex.owner = some j)
    (hold : (s.stage id).isChanging = false) (hlock : req = .lock → s.NoChange) (e : APIError) :
    Sound ({ s with mutex := mutex }.refuse id req e).2 := by
  have hrefused : Sound { s with app := req.refused s.app } := by
    cases req with
    | lock => exact hs.resets (hlock rfl)
    | unlock | init | backup | restore | changePassword | getAssetMedia | ordinary => exact hs
  exact hrefused.moves hmutex (fun _ h => by cases h) hold rfl fun _ _ _ h => by cases h

theorem Sound.proceed (hs : Sound s) {req : GuardedRequest} {password : Except APIError Unit}
    (howner : s.mutex.owner = some id) (hold : (s.stage id).isChanging = false)
    (hno : s.NoChange) (hcheck : req.check s.app = .ok ())
    (halone : s.Begins req password → s.Alone id req) :
    Sound (s.proceed id req password).2 := by
  have hneeds := check_eq_ok_iff.mp hcheck
  have hrest := hs.rest hno
  have hvoid : ∀ P : Prop, ∀ i, (s.stage i).isChanging = true → P :=
    fun P i hi => absurd hi (by simp [hno i])
  cases req with
  | unlock =>
    cases password with
    | ok _ =>
      exact hs.begins hno (halone ⟨hcheck, .inr ⟨rfl, rfl⟩⟩) hneeds (owner_release howner _) rfl
        ⟨hrest, hneeds.symm⟩
    | error e =>
      exact (hs.resets hno).moves (owner_release howner _) (fun _ h => by cases h) hold rfl
        fun i _ hi => hvoid _ i hi
  | lock =>
    exact hs.begins hno (halone ⟨hcheck, .inl rfl⟩) hneeds (owner_release howner _) rfl
      ⟨hrest, hneeds.symm⟩
  | getAssetMedia =>
    exact hs.moves (owner_release howner _) (fun _ h => by cases h) hold rfl
      fun i _ hi => hvoid _ i hi
  | init | backup | restore | changePassword | ordinary =>
    exact hs.moves (fun _ _ h => h) (fun _ _ => howner) hold rfl fun i _ hi => hvoid _ i hi

theorem Sound.enter (hs : Sound s) {req : GuardedRequest} {password : Except APIError Unit}
    (howner : s.mutex.owner = some id) (hold : (s.stage id).isChanging = false)
    (hothers : ∀ i, (s.stage i).isChanging = true →
      req ≠ .lock ∧ req.needsUnlocked ≠ s.app.unlockedAppState.isSome)
    (halone : s.Begins req password → s.Alone id req) :
    Sound (s.enter id req password).2 := by
  have hno : ∀ P : Prop, (∀ i, (s.stage i).isChanging = true → ¬P) → P → s.NoChange := by
    intro P h hp i
    by_contra hi
    exact h i (by simpa using hi) hp
  rw [LifeCycle.enter]
  cases hcheck : req.check s.app with
  | ok _ =>
    have hneeds := check_eq_ok_iff.mp hcheck
    exact hs.proceed howner hold (hno _ (fun i hi => (hothers i hi).2) hneeds) hcheck halone
  | error e =>
    exact hs.refuse (owner_release howner _) hold (hno _ fun i hi => (hothers i hi).1) e

theorem noChange_of_changingState (hs : Sound s) (h : s.app.changingState = false) :
    s.NoChange := by
  intro i
  by_contra hi
  exact Bool.false_ne_true (h.symm.trans (hs.changing i (by simpa using hi)))

theorem Sound.arrive (hs : Sound s) {req : GuardedRequest} (hgone : s.stage id = .gone)
    (hu : s.Undisturbed (.arrive id req)) : Sound (s.arrive id req).2 := by
  have hold : (s.stage id).isChanging = false := by rw [hgone]; rfl
  rw [LifeCycle.arrive, AppState.checkChangingState]
  cases hflag : s.app.changingState with
  | true => exact hs.refuse (fun _ _ h => h) hold (hu hgone) _
  | false =>
    have hno := noChange_of_changingState hs hflag
    exact hs.moves (fun _ _ h => h) (fun _ h => by cases h) hold rfl
      fun i _ hi => absurd hi (by simp [hno i])

theorem Sound.askMutex (hs : Sound s) {req : GuardedRequest} {password : Except APIError Unit}
    (hstage : s.stage id = .admitted req) (hu : s.Undisturbed (.askMutex id password)) :
    Sound (s.askMutex id req password).2 := by
  have hold : (s.stage id).isChanging = false := by rw [hstage]; rfl
  rw [LifeCycle.askMutex]
  cases howner : s.mutex.owner with
  | none =>
    refine (hs.lock id).enter (FairMutex.owner_lock_of_free howner) hold (fun i hi => ?_)
      (hu req hstage howner)
    exact hs.others i id req hi (by rw [hstage]; rfl)
  | some j =>
    exact hs.moves (fun k _ h => FairMutex.owner_lock_of_owner h) (fun _ h => by cases h) hold
      rfl fun i req' _ h => by rw [hstage]; exact h

/-- No request owns a free mutex. -/
theorem owner_of_free (howner : s.mutex.owner = none) (mutex : FairMutex ℕ) (j : ℕ)
    (hj : s.mutex.owner = some j) : mutex.owner = some j := by
  rw [howner] at hj
  cases hj

theorem Sound.startLdk (hs : Sound s) {ending : StartLdk U B} (hstage : s.stage id = .starting)
    (hu : s.Undisturbed (.startLdk id ending)) : Sound (s.startLdk id ending).2 := by
  have hold : (s.stage id).isChanging = true := by rw [hstage]; rfl
  have hfits := hs.fits id hold
  rw [hstage] at hfits
  obtain ⟨⟨hpresent, hspawned⟩, hlocked⟩ := hfits
  have hnone : s.spawned = [] := by
    rw [hlocked, eq_comm, Option.isSome_eq_false_iff, Option.isNone_iff_eq_none] at hpresent
    rw [hspawned, hpresent]
    rfl
  cases ending with
  | started services state =>
    rw [LifeCycle.startLdk]
    dsimp only
    cases howner : s.mutex.owner with
    | none =>
      exact hs.ends (fun j _ => owner_of_free howner _ j) hold ⟨rfl, by rw [hnone]; rfl⟩
    | some j =>
      exact hs.goesOn (fun k h => FairMutex.owner_lock_of_owner h) hold rfl
        ⟨hlocked, by rw [hnone]⟩
  | fails spawned e =>
    obtain rfl := hu hstage
    exact hs.ends (fun _ _ h => h) hold ⟨hpresent, hspawned⟩
  | panics spawned =>
    obtain rfl := hu hstage
    exact hs.ends (fun _ _ h => h) hold ⟨hpresent, hspawned⟩

theorem Sound.stopLdk [DecidableEq B] (hs : Sound s) (hstage : s.stage id = .stopping)
    (panics : Bool) : Sound (s.stopLdk id panics).2 := by
  have hold : (s.stage id).isChanging = true := by rw [hstage]; rfl
  have hfits := hs.fits id hold
  rw [hstage] at hfits
  obtain ⟨⟨hpresent, hspawned⟩, hunlocked⟩ := hfits
  rw [LifeCycle.stopLdk]
  split
  · exact hs.ends (fun _ _ h => h) hold ⟨hpresent, hspawned⟩
  · -- the services that are stopped are the only ones
    obtain ⟨services, hservices⟩ := Option.isSome_iff_exists.mp (hpresent.symm.trans hunlocked)
    have hstop : s.stopServices = { s with spawned := [] } := by
      rw [stopServices, hservices]
      dsimp only
      rw [hspawned, hservices]
      simp
    rw [hstop]
    dsimp only
    cases howner : s.mutex.owner with
    | none => exact hs.ends (fun j _ => owner_of_free howner _ j) hold ⟨rfl, rfl⟩
    | some j =>
      exact hs.goesOn (fun k h => FairMutex.owner_lock_of_owner h) hold rfl ⟨hunlocked, rfl⟩

theorem Sound.resume (hs : Sound s) {password : Except APIError Unit}
    (howner : s.mutex.owner = some id) (hu : s.Undisturbed (.resume id password)) :
    Sound (s.resume id password).2 := by
  rw [LifeCycle.resume]
  cases hstage : s.stage id with
  | waiting req =>
    have hold : (s.stage id).isChanging = false := by rw [hstage]; rfl
    refine hs.enter howner hold (fun i hi => ?_) (hu req hstage howner)
    exact hs.others i id req hi (by rw [hstage]; rfl)
  | storing services state =>
    have hold : (s.stage id).isChanging = true := by rw [hstage]; rfl
    have hfits := hs.fits id hold
    rw [hstage] at hfits
    exact hs.ends (owner_release howner _) hold ⟨rfl, hfits.2⟩
  | clearing =>
    have hold : (s.stage id).isChanging = true := by rw [hstage]; rfl
    have hfits := hs.fits id hold
    rw [hstage] at hfits
    exact hs.ends (owner_release howner _) hold ⟨rfl, hfits.2⟩
  | gone | admitted | guarded | readingMedia | starting | stopping => exact hs

theorem isChanging_of_request? {req : GuardedRequest} (h : stage.request? = some req) :
    stage.isChanging = false := by
  by_contra hchanging
  rw [request?_of_isChanging (by simpa using hchanging)] at h
  cases h

theorem Sound.step [DecidableEq B] (hs : Sound s) {x : LifeCycleStep U B}
    (hu : s.Undisturbed x) : Sound (s.step x).2 := by
  cases x with
  | arrive id req =>
    rw [LifeCycle.step]
    split
    · rename_i hgone
      exact hs.arrive hgone hu
    · exact hs
  | askMutex id password =>
    rw [LifeCycle.step]
    split
    · rename_i req hstage
      exact hs.askMutex hstage hu
    · exact hs
  | resume id password =>
    rw [LifeCycle.step]
    split
    · rename_i howner
      exact hs.resume howner hu
    · exact hs
  | finish id reply =>
    rw [LifeCycle.step]
    split
    · rename_i req hstage
      exact hs.moves (owner_release (hs.guarded id req hstage) _) (fun _ h => by cases h)
        (by rw [hstage]; rfl) rfl fun _ _ _ h => by cases h
    · rename_i hstage
      exact hs.moves (fun _ _ h => h) (fun _ h => by cases h) (by rw [hstage]; rfl) rfl
        fun _ _ _ h => by cases h
    · exact hs
  | cancel id =>
    rw [LifeCycle.step]
    split
    · rename_i req hreq
      split
      · exact hs.moves (fun j hne h => FairMutex.owner_leave_of_ne h hne) (fun _ h => by cases h)
          (isChanging_of_request? hreq) rfl fun _ _ _ h => by cases h
      · exact hs
    · exact hs
  | startLdk id ending =>
    rw [LifeCycle.step]
    split
    · rename_i hstage
      exact hs.startLdk hstage hu
    · exact hs
  | stopLdk id panics =>
    rw [LifeCycle.step]
    split
    · rename_i hstage
      exact hs.stopLdk hstage panics
    · exact hs

/-! ### Runs -/

theorem AtRest.length_le_one {app : AppState U B} {spawned : List B} (h : AtRest app spawned) :
    spawned.length ≤ 1 := by
  rw [h.2]
  cases app.ldkBackgroundServices <;> simp

theorem Sound.length_le_one (hs : Sound s) : s.spawned.length ≤ 1 := by
  by_cases hchanging : ∃ i, (s.stage i).isChanging = true
  · obtain ⟨i, hi⟩ := hchanging
    have hfits := hs.fits i hi
    cases hstage : s.stage i with
    | starting | stopping =>
      rw [hstage] at hfits
      exact hfits.1.length_le_one
    | storing | clearing =>
      rw [hstage] at hfits
      rw [hfits.2]
      simp
    | gone | admitted | waiting | guarded | readingMedia =>
      rw [hstage] at hi
      cases hi
  · have hno : s.NoChange := fun i => by simpa using not_exists.mp hchanging i
    exact (hs.rest hno).length_le_one

theorem isSome_of_isUnlocking {app : AppState U B} {spawned : List B}
    (h : stage.isUnlocking = true) (hfits : Fits app spawned stage) :
    app.unlockedAppState.isSome = false := by
  cases stage with
  | starting => exact hfits.2
  | storing => exact hfits.1
  | gone | admitted | waiting | guarded | readingMedia | stopping | clearing => cases h

theorem isSome_of_isLocking {app : AppState U B} {spawned : List B}
    (h : stage.isLocking = true) (hfits : Fits app spawned stage) :
    app.unlockedAppState.isSome = true := by
  cases stage with
  | stopping => exact hfits.2
  | clearing => exact hfits.1
  | gone | admitted | waiting | guarded | readingMedia | starting | storing => cases h

theorem request?_of_running? {req : GuardedRequest} (h : stage.running? = some req) :
    stage.request? = some req := by
  cases stage with
  | guarded | readingMedia => exact h
  | gone | admitted | waiting | starting | storing | stopping | clearing => cases h

theorem Sound.exclusive (hs : Sound s) : Exclusive s where
  oneChange := hs.oneChange
  oneSet := hs.length_le_one
  unlocking := by
    intro i j req hi hreq
    have hchanging : (s.stage i).isChanging = true := by
      rw [RequestStage.isChanging, hi, Bool.true_or]
    have hlocked := isSome_of_isUnlocking hi (hs.fits i hchanging)
    have hneeds := (hs.others i j req hchanging (request?_of_running? hreq)).2
    rw [hlocked] at hneeds
    simpa using hneeds
  locking := by
    intro i j req hi hreq
    have hchanging : (s.stage i).isChanging = true := by
      rw [RequestStage.isChanging, hi, Bool.or_true]
    have hunlocked := isSome_of_isLocking hi (hs.fits i hchanging)
    have hneeds := (hs.others i j req hchanging (request?_of_running? hreq)).2
    rw [hunlocked] at hneeds
    simpa using hneeds
  present := fun h => (hs.rest (noChange_of_changingState hs h)).1

/-- In every run in which no change is disturbed, every state is exclusive. -/
theorem exclusive_run [DecidableEq B] {xs : List (LifeCycleStep U B)}
    (h : Mealy.Along step Undisturbed locked xs) :
    Mealy.Along step (fun s x => Exclusive (s.step x).2) locked xs :=
  Mealy.along_of_invariant (I := Sound) (fun _ _ hs hx => hs.step hx)
    (fun _ _ hs hx => (hs.step hx).exclusive) sound_locked h

/-- The node is unlocked, answers a request, and is locked again. -/
theorem exclusive_of_unlock_lock :
    Mealy.Along step (fun s x => Exclusive (s.step x).2) (locked : LifeCycle ℕ ℕ)
      [.arrive 0 .unlock, .askMutex 0 (.ok ()), .startLdk 0 (.started 7 8), .arrive 1 .ordinary,
        .askMutex 1 (.ok ()), .finish 1 (.ok ()), .arrive 2 .lock, .askMutex 2 (.ok ()),
        .stopLdk 2 false] := by
  apply exclusive_run
  simp only [Mealy.along_cons, Mealy.along_nil, and_true]
  refine ⟨?_, ?_, trivial, ?_, ?_, trivial, ?_, ?_, trivial⟩
  · intro _ h
    cases h
  · intro req _ _ _ j other hj h
    cases j with
    | zero => exact absurd rfl hj
    | succ j => cases h
  · intro _ h
    cases h
  · rintro req hstage - ⟨-, hbegins⟩
    obtain rfl : GuardedRequest.ordinary = req := RequestStage.admitted.inj hstage
    obtain h | ⟨h, -⟩ := hbegins <;> cases h
  · intro _ _ i
    -- the two requests that have arrived have ended
    cases i with
    | zero => rfl
    | succ i => cases i <;> rfl
  · intro req _ _ _ j other hj h
    -- of the three requests that have arrived only the last one has not ended
    cases j with
    | zero => cases h
    | succ j =>
      cases j with
      | zero => cases h
      | succ j =>
        cases j with
        | zero => exact absurd rfl hj
        | succ j => cases h

/-- After a lock request that is refused, a second unlock begins. -/
theorem unlocks_meet :
    ¬∀ xs : List (LifeCycleStep ℕ ℕ),
      Mealy.Along step (fun s x => Exclusive (s.step x).2) locked xs := by
  intro h
  have hlast := (h [.arrive 0 .unlock, .askMutex 0 (.ok ()), .arrive 1 .lock, .arrive 2 .unlock,
    .askMutex 2 (.ok ())]).2.2.2.2.1
  exact absurd (hlast.oneChange 0 2 rfl rfl) (by decide)

/-- Two unlocks that have both read the flag before the first takes the mutex start the
services twice. -/
example :
    let s := Mealy.final step (locked : LifeCycle ℕ ℕ)
      [.arrive 0 .unlock, .arrive 1 .unlock, .askMutex 0 (.ok ()), .askMutex 1 (.ok ())]
    (s.stage 0).isUnlocking = true ∧ (s.stage 1).isUnlocking = true :=
  ⟨rfl, rfl⟩

/-! ### Refusals -/

/-- The step refuses this request for the state of the node: a change is in progress when
the request arrives, or the request fails its check once it owns the mutex. -/
def Refuses (s : LifeCycle U B) (req : GuardedRequest) (e : APIError) :
    LifeCycleStep U B → Prop
  | .arrive id other => other = req ∧ s.stage id = .gone ∧ s.app.checkChangingState = .error e
  | .askMutex id _ => s.stage id = .admitted req ∧ s.mutex.owner = none ∧
    req.check s.app = .error e
  | .resume id _ => s.mutex.owner = some id ∧ s.stage id = .waiting req ∧
    req.check s.app = .error e
  | _ => False

/-- Only a lock request changes the node when it is refused. -/
theorem refused_eq_self_iff (req : GuardedRequest) (app : AppState U B) :
    req.refused app = app ↔ (req = .lock → app.changingState = false) := by
  cases req with
  | lock =>
    constructor
    · intro h _
      rw [← h]
      rfl
    · intro h
      obtain ⟨unlocked, services, changing⟩ := app
      obtain rfl : changing = false := h rfl
      rfl
  | unlock | init | backup | restore | changePassword | getAssetMedia | ordinary =>
    exact ⟨fun _ h => (by cases h), fun _ => rfl⟩

/-- A check that fails with the mutex held has the effect of a refusal. -/
theorem enter_of_check_error {req : GuardedRequest} {e : APIError}
    (hcheck : req.check s.app = .error e) (mutex : FairMutex ℕ) (id : ℕ)
    (password : Except APIError Unit) :
    LifeCycle.enter { s with mutex := mutex } id req password =
      LifeCycle.refuse { s with mutex := mutex.release } id req e := by
  rw [LifeCycle.enter, hcheck]
  rfl

/-- Every refusal has the same answer and the same effect on the node. -/
theorem step_of_refuses [DecidableEq B] {req : GuardedRequest} {e : APIError}
    {x : LifeCycleStep U B} (h : s.Refuses req e x) :
    (s.step x).1 = some (.error (req.refusal e)) ∧ (s.step x).2.app = req.refused s.app := by
  cases x with
  | arrive id other =>
    obtain ⟨rfl, hgone, hchanging⟩ := h
    rw [LifeCycle.step, hgone]
    dsimp only
    rw [LifeCycle.arrive, hchanging]
    exact ⟨rfl, rfl⟩
  | askMutex id password =>
    obtain ⟨hadmitted, hfree, hcheck⟩ := h
    rw [LifeCycle.step, hadmitted]
    dsimp only
    rw [LifeCycle.askMutex, hfree]
    dsimp only
    rw [enter_of_check_error hcheck]
    exact ⟨rfl, rfl⟩
  | resume id password =>
    obtain ⟨howner, hwaiting, hcheck⟩ := h
    rw [LifeCycle.step, if_pos howner, LifeCycle.resume, hwaiting]
    dsimp only
    rw [enter_of_check_error hcheck s.mutex]
    exact ⟨rfl, rfl⟩
  | finish | cancel | startLdk | stopLdk => exact h.elim

/-- A request that is refused is answered with the error of its check, and leaves the
flag, the state and the services unchanged if and only if it is no lock request that is
refused while the flag is up. -/
theorem refused_leaves_app_iff [DecidableEq B] {req : GuardedRequest} {e : APIError}
    {x : LifeCycleStep U B} (h : s.Refuses req e x) :
    (s.step x).1 = some (.error (req.refusal e)) ∧
      ((s.step x).2.app = s.app ↔ (req = .lock → s.app.changingState = false)) := by
  obtain ⟨hreply, happ⟩ := step_of_refuses h
  rw [happ]
  exact ⟨hreply, refused_eq_self_iff req s.app⟩

/-- A second unlock that is refused leaves the flag of the first one up. -/
theorem refused_leaves_app_of_unlocks :
    let s := Mealy.final step (locked : LifeCycle ℕ ℕ) [.arrive 0 .unlock, .askMutex 0 (.ok ())]
    (s.step (.arrive 1 .unlock)).1 = some (.error .changingState) ∧
      ((s.step (.arrive 1 .unlock)).2.app = s.app ↔
        (GuardedRequest.unlock = .lock → s.app.changingState = false)) := by
  intro s
  have hrefuses : s.Refuses .unlock .changingState (.arrive 1 .unlock) := ⟨rfl, rfl, rfl⟩
  exact refused_leaves_app_iff hrefuses

/-- A lock request that is refused lowers the flag of an unlock. -/
theorem refused_lock_takes_flag :
    ¬∀ (xs : List (LifeCycleStep ℕ ℕ)) (x : LifeCycleStep ℕ ℕ) (req : GuardedRequest)
      (e : APIError), (Mealy.final step locked xs).Refuses req e x →
        ((Mealy.final step locked xs).step x).2.app = (Mealy.final step locked xs).app := by
  intro h
  have happ := h [.arrive 0 .unlock, .askMutex 0 (.ok ())] (.arrive 1 .lock) .lock .changingState
    ⟨rfl, rfl, rfl⟩
  exact Bool.false_ne_true (congrArg AppState.changingState happ)

end LifeCycle

end RgbLightningNode
