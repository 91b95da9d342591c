import Mathlib.Algebra.BigOperators.Group.Finset.Basic
import Mathlib.Algebra.Order.BigOperators.Group.Finset
import RgbLightningNode.Runs.Shutdown

/-!
# Every request ends

In every run, without further requests only finitely many steps can be taken, and
none can be taken only when no request is left. The mutex is owned by a request that
can take a step, whatever the order of the changes.
-/

namespace RgbLightningNode

namespace LifeCycle

variable {U B : Type} {s : LifeCycle U B} {id : ℕ}

/-- A stage at which a request owns the mutex or waits for it. -/
def Holds (stage : RequestStage U B) : Prop :=
  stage.awaits = true ∨ ∃ req, stage = .guarded req

/-- The owner and the queue of the mutex are the requests at a stage that holds it or
waits for it, and all but finitely many requests have not arrived. -/
structure Accounted (s : LifeCycle U B) (come : Finset ℕ) : Prop where
  guarded : ∀ i req, s.stage i = .guarded req → s.mutex.owner = some i
  has : ∀ i, s.mutex.Has i ↔ Holds (s.stage i)
  once : s.mutex.Once
  arrived : ∀ i, s.stage i ≠ .gone → i ∈ come

theorem accounted_locked : Accounted (locked : LifeCycle U B) ∅ where
  guarded _ _ h := by cases h
  has i := by
    refine iff_of_false (FairMutex.not_has_of_free rfl) ?_
    rintro (h | ⟨req, h⟩) <;> cases h
  once := FairMutex.once_free
  arrived _ h := absurd rfl h

variable {come : Finset ℕ} {app : AppState U B} {mutex : FairMutex ℕ} {spawned : List B}
  {stage : RequestStage U B}

/-- One request changes its stage, and the other requests own the mutex or wait for it as
before. -/
theorem Accounted.moves (hs : s.Accounted come)
    (howner : ∀ j, j ≠ id → s.mutex.owner = some j → mutex.owner = some j)
    (hothers : ∀ j, j ≠ id → (mutex.Has j ↔ s.mutex.Has j)) (honce : mutex.Once)
    (hguarded : ∀ req, stage = .guarded req → mutex.owner = some id)
    (hhas : mutex.Has id ↔ Holds stage) (hcome : id ∈ come) :
    Accounted ((⟨app, mutex, spawned, s.stage⟩ : LifeCycle U B).setStage id stage) come where
  guarded := guarded_setStage hs.guarded howner hguarded
  has i := by
    by_cases hi : i = id
    · rw [hi, stage_setStage_self]
      exact hhas
    · rw [stage_setStage_of_ne _ _ hi, ← hs.has i]
      exact hothers i hi
  once := honce
  arrived i h := by
    by_cases hi : i = id
    · rwa [hi]
    · rw [stage_setStage_of_ne _ _ hi] at h
      exact hs.arrived i h

/-- A stage at which a request neither owns the mutex nor waits for it. -/
def Free (stage : RequestStage U B) : Prop := ¬Holds stage

theorem free_gone : Free (.gone : RequestStage U B) := by
  rintro (h | ⟨req, h⟩) <;> cases h

/-- A request without the mutex enters another stage without it. -/
theorem Accounted.stays (hs : s.Accounted come) (hold : Free (s.stage id)) (hfree : Free stage)
    (hcome : id ∈ come) :
    Accounted ((⟨app, s.mutex, spawned, s.stage⟩ : LifeCycle U B).setStage id stage) come :=
  hs.moves (fun _ _ h => h) (fun _ _ => Iff.rfl) hs.once
    (fun req h => (hfree (.inr ⟨req, h⟩)).elim)
    (iff_of_false (fun h => hold ((hs.has id).mp h)) hfree) hcome

/-- A request without the mutex asks for it. -/
theorem Accounted.asks (hs : s.Accounted come) (hold : Free (s.stage id))
    (hawaits : stage.awaits = true) (hcome : id ∈ come) :
    Accounted ((⟨app, s.mutex.lock id, spawned, s.stage⟩ : LifeCycle U B).setStage id stage)
      come := by
  have hnot : ¬s.mutex.Has id := fun h => hold ((hs.has id).mp h)
  refine hs.moves (fun _ _ h => FairMutex.owner_lock_of_owner h) (fun j hne => ?_)
    (hs.once.lock hnot) (fun req h => ?_) ?_ hcome
  · rw [FairMutex.has_lock_iff, or_iff_left hne]
  · rw [h] at hawaits
    cases hawaits
  · exact iff_of_true (FairMutex.has_lock_self _ id) (.inl hawaits)

/-- The request owns the mutex, and all other requests are accounted for. -/
structure Owns (s : LifeCycle U B) (mutex : FairMutex ℕ) (id : ℕ) (come : Finset ℕ) : Prop where
  owner : mutex.owner = some id
  once : mutex.Once
  others : ∀ j, j ≠ id → (mutex.Has j ↔ Holds (s.stage j))
  guarded : ∀ j req, j ≠ id → s.stage j ≠ .guarded req
  arrived : ∀ j, j ≠ id → s.stage j ≠ .gone → j ∈ come
  self : id ∈ come

/-- The owner of the mutex. -/
theorem Accounted.owns (hs : s.Accounted come) (howner : s.mutex.owner = some id) :
    s.Owns s.mutex id come where
  owner := howner
  once := hs.once
  others j _ := hs.has j
  guarded j req hne h := hne (Option.some.inj ((hs.guarded j req h).symm.trans howner))
  arrived j _ h := hs.arrived j h
  self := by
    refine hs.arrived id fun hgone => ?_
    have hholds := (hs.has id).mp (.inl howner)
    rw [hgone] at hholds
    exact free_gone hholds

/-- The request that takes a free mutex. -/
theorem Accounted.takes (hs : s.Accounted come) (howner : s.mutex.owner = none)
    (hcome : id ∈ come) : s.Owns (s.mutex.lock id) id come where
  owner := FairMutex.owner_lock_of_free howner
  once := hs.once.lock (FairMutex.not_has_of_free howner)
  others j hne := by rw [FairMutex.has_lock_iff, or_iff_left hne, hs.has]
  guarded j req _ h := by cases howner.symm.trans (hs.guarded j req h)
  arrived j _ h := hs.arrived j h
  self := hcome

/-- The owner releases the mutex. -/
theorem Owns.releases (hs : s.Owns mutex id come) (hfree : Free stage) :
    Accounted ((⟨app, mutex.release, spawned, s.stage⟩ : LifeCycle U B).setStage id stage)
      come where
  guarded i req h := by
    by_cases hi : i = id
    · rw [hi, stage_setStage_self] at h
      exact (hfree (.inr ⟨req, h⟩)).elim
    · rw [stage_setStage_of_ne _ _ hi] at h
      exact absurd h (hs.guarded i req hi)
  has i := by
    have hhas : mutex.release.Has i ↔ mutex.Has i ∧ i ≠ id := hs.once.has_release_iff hs.owner
    by_cases hi : i = id
    · rw [hi, stage_setStage_self]
      exact iff_of_false (fun h => (hhas.mp (hi ▸ h)).2 hi) hfree
    · rw [stage_setStage_of_ne _ _ hi, ← hs.others i hi]
      exact hhas.trans (and_iff_left hi)
  once := hs.once.release
  arrived i h := by
    by_cases hi : i = id
    · exact hi ▸ hs.self
    · rw [stage_setStage_of_ne _ _ hi] at h
      exact hs.arrived i hi h

/-- The owner keeps the mutex, and its guard. -/
theorem Owns.keeps (hs : s.Owns mutex id come) (req : GuardedRequest) :
    Accounted ((⟨app, mutex, spawned, s.stage⟩ : LifeCycle U B).setStage id (.guarded req))
      come where
  guarded i req' h := by
    by_cases hi : i = id
    · exact hi ▸ hs.owner
    · rw [stage_setStage_of_ne _ _ hi] at h
      exact absurd h (hs.guarded i req' hi)
  has i := by
    by_cases hi : i = id
    · rw [hi, stage_setStage_self]
      exact iff_of_true (.inl hs.owner) (.inr ⟨req, rfl⟩)
    · rw [stage_setStage_of_ne _ _ hi]
      exact hs.others i hi
  once := hs.once
  arrived i h := by
    by_cases hi : i = id
    · exact hi ▸ hs.self
    · rw [stage_setStage_of_ne _ _ hi] at h
      exact hs.arrived i hi h

/-! ### A step keeps the account -/

theorem free_of_not {stage : RequestStage U B} (hawaits : stage.awaits = false)
    (hguarded : ∀ req, stage ≠ .guarded req) : Free stage := by
  rintro (h | ⟨req, h⟩)
  · cases hawaits.symm.trans h
  · exact hguarded req h

theorem Owns.enter (hs : s.Owns mutex id come) (req : GuardedRequest)
    (password : Except APIError Unit) :
    Accounted (LifeCycle.enter { s with mutex := mutex } id req password).2 come := by
  rw [LifeCycle.enter]
  split
  · cases req with
    | unlock =>
      cases password with
      | ok _ => exact hs.releases (free_of_not rfl (by simp))
      | error e => exact hs.releases free_gone
    | lock => exact hs.releases (free_of_not rfl (by simp))
    | getAssetMedia => exact hs.releases (free_of_not rfl (by simp))
    | init | backup | restore | changePassword | ordinary => exact hs.keeps _
  · exact hs.releases free_gone

theorem Accounted.arrive (hs : s.Accounted come) (hgone : s.stage id = .gone)
    (req : GuardedRequest) : Accounted (s.arrive id req).2 (insert id come) := by
  have hmore : s.Accounted (insert id come) :=
    { hs with arrived := fun i h => Finset.mem_insert_of_mem (hs.arrived i h) }
  have hfree : Free (s.stage id) := by
    rw [hgone]
    exact free_gone
  rw [LifeCycle.arrive]
  split
  · exact hmore.stays hfree (free_of_not rfl (by simp)) (Finset.mem_insert_self id come)
  · exact hmore.stays hfree free_gone (Finset.mem_insert_self id come)

theorem Accounted.askMutex (hs : s.Accounted come) {req : GuardedRequest}
    (hstage : s.stage id = .admitted req) (password : Except APIError Unit) :
    Accounted (s.askMutex id req password).2 come := by
  have hcome := hs.arrived id (by simp [hstage])
  rw [LifeCycle.askMutex]
  split
  · rename_i howner
    exact (hs.takes howner hcome).enter req password
  · refine hs.asks ?_ rfl hcome
    rw [hstage]
    exact free_of_not rfl (by simp)

theorem Accounted.resume (hs : s.Accounted come) (howner : s.mutex.owner = some id)
    (password : Except APIError Unit) : Accounted (s.resume id password).2 come := by
  rw [LifeCycle.resume]
  split
  · exact (hs.owns howner).enter _ password
  · exact (hs.owns howner).releases free_gone
  · exact (hs.owns howner).releases free_gone
  · exact hs

/-- A change that has done its work asks for the mutex. -/
theorem Accounted.finishes (hs : s.Accounted come) (hold : Free (s.stage id))
    (hcome : id ∈ come) (hawaits : stage.awaits = true) (state : Option U)
    (services : Option B) {spawned : List B} :
    Accounted (match s.mutex.owner with
      | none => LifeCycle.complete ⟨s.app, s.mutex.lock id, spawned, s.stage⟩ id state services
      | some _ => (none,
          (⟨s.app, s.mutex.lock id, spawned, s.stage⟩ : LifeCycle U B).setStage id stage)).2
      come := by
  split
  · rename_i howner
    exact (hs.takes howner hcome).releases free_gone
  · exact hs.asks hold hawaits hcome

theorem Accounted.startLdk (hs : s.Accounted come) (hstage : s.stage id = .starting)
    (ending : StartLdk U B) : Accounted (s.startLdk id ending).2 come := by
  have hcome := hs.arrived id (by simp [hstage])
  have hfree : Free (s.stage id) := by
    rw [hstage]
    exact free_of_not rfl (by simp)
  cases ending with
  | started services state => exact hs.finishes hfree hcome rfl _ _
  | fails spawned e => exact hs.stays hfree free_gone hcome
  | panics spawned => exact hs.stays hfree free_gone hcome

theorem Accounted.stopLdk [DecidableEq B] (hs : s.Accounted come)
    (hstage : s.stage id = .stopping) (panics : Bool) :
    Accounted (s.stopLdk id panics).2 come := by
  have hcome := hs.arrived id (by simp [hstage])
  have hfree : Free (s.stage id) := by
    rw [hstage]
    exact free_of_not rfl (by simp)
  have hservices : ∃ spawned, s.stopServices = { s with spawned := spawned } := by
    rw [stopServices]
    split <;> exact ⟨_, rfl⟩
  obtain ⟨spawned, hspawned⟩ := hservices
  rw [LifeCycle.stopLdk]
  split
  · exact hs.stays hfree free_gone hcome
  · rw [hspawned]
    exact hs.finishes hfree hcome rfl _ _

/-- The request of a client that disconnects ends. -/
theorem Accounted.leaves (hs : s.Accounted come) (hcome : id ∈ come) :
    Accounted ({ s with mutex := s.mutex.leave id }.setStage id .gone) come := by
  refine hs.moves (fun j hne h => FairMutex.owner_leave_of_ne h hne) (fun j hne => ?_)
    (hs.once.leave id) (fun req h => by cases h) ?_ hcome
  · rw [hs.once.has_leave_iff, and_iff_left hne]
  · exact iff_of_false (fun h => (hs.once.has_leave_iff.mp h).2 rfl) free_gone

/-- The request that arrives in this step, if one does. -/
def comes (x : LifeCycleStep U B) : Finset ℕ :=
  match x with
  | .arrive id _ => {id}
  | _ => ∅

theorem Accounted.step [DecidableEq B] (hs : s.Accounted come) (x : LifeCycleStep U B) :
    Accounted (s.step x).2 (comes x ∪ come) := by
  have hmore : s.Accounted (comes x ∪ come) :=
    { hs with arrived := fun i h => Finset.mem_union_right _ (hs.arrived i h) }
  cases x with
  | arrive id req =>
    rw [LifeCycle.step]
    split
    · rename_i hgone
      exact hs.arrive hgone req
    · exact hmore
  | askMutex id password =>
    rw [LifeCycle.step]
    split
    · rename_i req hstage
      exact hmore.askMutex hstage password
    · exact hmore
  | resume id password =>
    rw [LifeCycle.step]
    split
    · rename_i howner
      exact hmore.resume howner password
    · exact hmore
  | finish id reply =>
    rw [LifeCycle.step]
    split
    · rename_i req hstage
      exact (hmore.owns (hs.guarded id req hstage)).releases free_gone
    · rename_i hstage
      refine hmore.stays ?_ free_gone (hmore.arrived id (by simp [hstage]))
      rw [hstage]
      exact free_of_not rfl (by simp)
    · exact hmore
  | cancel id =>
    rw [LifeCycle.step]
    split
    · rename_i req hreq
      split
      · refine hmore.leaves (hmore.arrived id fun hgone => ?_)
        rw [hgone] at hreq
        cases hreq
      · exact hmore
    · exact hmore
  | startLdk id ending =>
    rw [LifeCycle.step]
    split
    · rename_i hstage
      exact hmore.startLdk hstage ending
    · exact hmore
  | stopLdk id panics =>
    rw [LifeCycle.step]
    split
    · rename_i hstage
      exact hmore.stopLdk hstage panics
    · exact hmore

/-! ### Finitely many steps -/

/-- A bound on the steps a request still takes. -/
def stepsLeft : RequestStage U B → ℕ
  | .gone => 0
  | .guarded _ | .readingMedia | .storing .. | .clearing => 1
  | .starting | .stopping => 2
  | .waiting _ => 3
  | .admitted _ => 4

/-- No stage has changed, or one has, to a stage with fewer steps left. -/
def Advances (stages stages' : ℕ → RequestStage U B) : Prop :=
  stages' = stages ∨ ∃ id stage, stages' = Function.update stages id stage ∧
    stepsLeft stage < stepsLeft (stages id)

theorem stage_enter (s : LifeCycle U B) (id : ℕ) (req : GuardedRequest)
    (password : Except APIError Unit) :
    ∃ stage, (s.enter id req password).2.stage = Function.update s.stage id stage ∧
      stepsLeft stage ≤ 2 := by
  rw [LifeCycle.enter]
  split
  · cases req with
    | unlock =>
      cases password with
      | ok _ => exact ⟨.starting, rfl, le_rfl⟩
      | error e => exact ⟨.gone, rfl, Nat.zero_le 2⟩
    | lock => exact ⟨.stopping, rfl, le_rfl⟩
    | getAssetMedia => exact ⟨.readingMedia, rfl, Nat.le_succ 1⟩
    | init | backup | restore | changePassword | ordinary =>
      exact ⟨.guarded _, rfl, Nat.le_succ 1⟩
  · exact ⟨.gone, rfl, Nat.zero_le 2⟩

theorem stage_askMutex (s : LifeCycle U B) (id : ℕ) (req : GuardedRequest)
    (password : Except APIError Unit) :
    ∃ stage, (s.askMutex id req password).2.stage = Function.update s.stage id stage ∧
      stepsLeft stage ≤ 3 := by
  rw [LifeCycle.askMutex]
  split
  · obtain ⟨stage, hupdate, hle⟩ :=
      stage_enter { s with mutex := s.mutex.lock id } id req password
    exact ⟨stage, hupdate, hle.trans (Nat.le_succ 2)⟩
  · exact ⟨.waiting req, rfl, le_rfl⟩

theorem stage_finishes (s : LifeCycle U B) (id : ℕ) {stage : RequestStage U B}
    (hstage : stepsLeft stage = 1) (state : Option U) (services : Option B)
    (spawned : List B) :
    ∃ stage', (match s.mutex.owner with
      | none => LifeCycle.complete ⟨s.app, s.mutex.lock id, spawned, s.stage⟩ id state services
      | some _ => (none,
          (⟨s.app, s.mutex.lock id, spawned, s.stage⟩ : LifeCycle U B).setStage id stage)).2.stage =
        Function.update s.stage id stage' ∧ stepsLeft stage' ≤ 1 := by
  split
  · exact ⟨.gone, rfl, Nat.zero_le 1⟩
  · exact ⟨stage, rfl, hstage.le⟩

theorem stage_startLdk (s : LifeCycle U B) (id : ℕ) (ending : StartLdk U B) :
    ∃ stage, (s.startLdk id ending).2.stage = Function.update s.stage id stage ∧
      stepsLeft stage ≤ 1 := by
  cases ending with
  | started services state => exact stage_finishes s id rfl _ _ _
  | fails spawned e => exact ⟨.gone, rfl, Nat.zero_le 1⟩
  | panics spawned => exact ⟨.gone, rfl, Nat.zero_le 1⟩

theorem stage_stopLdk [DecidableEq B] (s : LifeCycle U B) (id : ℕ) (panics : Bool) :
    ∃ stage, (s.stopLdk id panics).2.stage = Function.update s.stage id stage ∧
      stepsLeft stage ≤ 1 := by
  have hservices : ∃ spawned, s.stopServices = { s with spawned := spawned } := by
    rw [stopServices]
    split <;> exact ⟨_, rfl⟩
  obtain ⟨spawned, hspawned⟩ := hservices
  rw [LifeCycle.stopLdk]
  split
  · exact ⟨.gone, rfl, Nat.zero_le 1⟩
  · rw [hspawned]
    exact stage_finishes s id rfl _ _ _

/-- A step in which no request arrives changes one stage, or none. -/
theorem advances_step [DecidableEq B] {x : LifeCycleStep U B} (hx : comes x = ∅) :
    Advances s.stage (s.step x).2.stage := by
  cases x with
  | arrive id req => exact absurd hx (Finset.singleton_ne_empty id)
  | askMutex id password =>
    rw [LifeCycle.step]
    split
    · rename_i req hstage
      obtain ⟨stage, hupdate, hle⟩ := stage_askMutex s id req password
      refine .inr ⟨id, stage, hupdate, ?_⟩
      rw [hstage]
      exact Nat.lt_succ_of_le hle
    · exact .inl rfl
  | resume id password =>
    rw [LifeCycle.step]
    split
    · rw [LifeCycle.resume]
      split
      · rename_i req hstage
        obtain ⟨stage, hupdate, hle⟩ := stage_enter s id req password
        refine .inr ⟨id, stage, hupdate, ?_⟩
        rw [hstage]
        exact Nat.lt_succ_of_le hle
      · rename_i hstage
        refine .inr ⟨id, .gone, rfl, ?_⟩
        rw [hstage]
        exact Nat.one_pos
      · rename_i hstage
        refine .inr ⟨id, .gone, rfl, ?_⟩
        rw [hstage]
        exact Nat.one_pos
      · exact .inl rfl
    · exact .inl rfl
  | finish id reply =>
    rw [LifeCycle.step]
    split
    · rename_i hstage
      refine .inr ⟨id, .gone, rfl, ?_⟩
      rw [hstage]
      exact Nat.one_pos
    · rename_i hstage
      refine .inr ⟨id, .gone, rfl, ?_⟩
      rw [hstage]
      exact Nat.one_pos
    · exact .inl rfl
  | cancel id =>
    rw [LifeCycle.step]
    split
    · rename_i req hreq
      split
      · refine .inr ⟨id, .gone, rfl, ?_⟩
        cases hstage : s.stage id with
        | gone =>
          rw [hstage] at hreq
          cases hreq
        | admitted | waiting | guarded | readingMedia | starting | storing | stopping | clearing =>
          exact Nat.succ_pos _
      · exact .inl rfl
    · exact .inl rfl
  | startLdk id ending =>
    rw [LifeCycle.step]
    split
    · rename_i hstage
      obtain ⟨stage, hupdate, hle⟩ := stage_startLdk s id ending
      refine .inr ⟨id, stage, hupdate, ?_⟩
      rw [hstage]
      exact Nat.lt_succ_of_le hle
    · exact .inl rfl
  | stopLdk id panics =>
    rw [LifeCycle.step]
    split
    · rename_i hstage
      obtain ⟨stage, hupdate, hle⟩ := stage_stopLdk s id panics
      refine .inr ⟨id, stage, hupdate, ?_⟩
      rw [hstage]
      exact Nat.lt_succ_of_le hle
    · exact .inl rfl

/-- No request arrives in the step, and a stage changes. -/
def GoesOn [DecidableEq B] (s : LifeCycle U B) (x : LifeCycleStep U B) : Prop :=
  comes x = ∅ ∧ (s.step x).2.stage ≠ s.stage

theorem sum_stepsLeft_lt [DecidableEq B] (hs : s.Accounted come) {x : LifeCycleStep U B}
    (hx : s.GoesOn x) :
    ∑ i ∈ come, stepsLeft ((s.step x).2.stage i) < ∑ i ∈ come, stepsLeft (s.stage i) := by
  obtain hsame | ⟨id, stage, hupdate, hlt⟩ := advances_step (s := s) hx.1
  · exact absurd hsame hx.2
  · rw [hupdate]
    have hcome : id ∈ come := by
      refine hs.arrived id fun hgone => ?_
      rw [hgone] at hlt
      exact Nat.not_lt_zero _ hlt
    refine Finset.sum_lt_sum (fun i _ => ?_) ⟨id, hcome, ?_⟩
    · by_cases hi : i = id
      · rw [hi, Function.update_self]
        exact hlt.le
      · rw [Function.update_of_ne hi]
    · rw [Function.update_self]
      exact hlt

theorem length_le_of_goesOn [DecidableEq B] {ys : List (LifeCycleStep U B)}
    (hs : s.Accounted come) (hys : Mealy.Along step GoesOn s ys) :
    ys.length ≤ ∑ i ∈ come, stepsLeft (s.stage i) := by
  induction ys generalizing s with
  | nil => exact Nat.zero_le _
  | cons y ys ih =>
    have hnext : (s.step y).2.Accounted come := by
      have := hs.step y
      rwa [hys.1.1, Finset.empty_union] at this
    exact Nat.succ_le_of_lt ((ih hnext hys.2).trans_lt (sum_stepsLeft_lt hs hys.1))

/-! ### A step that can be taken -/

/-- A step that the node takes by itself: no request arrives, and no client disconnects. -/
def serves : LifeCycleStep U B → Bool
  | .askMutex .. | .resume .. | .finish .. | .startLdk .. | .stopLdk .. => true
  | .arrive .. | .cancel _ => false

/-- No step of the node changes a stage. -/
def Stuck [DecidableEq B] (s : LifeCycle U B) : Prop :=
  ∀ x, serves x = true → (s.step x).2.stage = s.stage

theorem ne_of_update {stages : ℕ → RequestStage U B} {stage : RequestStage U B}
    (hlt : stepsLeft stage < stepsLeft (stages id)) : Function.update stages id stage ≠ stages := by
  intro h
  have hid := congrFun h id
  rw [Function.update_self] at hid
  rw [hid] at hlt
  exact Nat.lt_irrefl _ hlt

/-- The owner of the mutex can take a step. -/
theorem not_stuck_of_owner [DecidableEq B] (hs : s.Accounted come)
    (howner : s.mutex.owner = some id) : ¬s.Stuck := by
  intro hstuck
  obtain hawaits | ⟨req, hstage⟩ := (hs.has id).mp (.inl howner)
  · have hresume := hstuck (.resume id (.ok ())) rfl
    rw [LifeCycle.step, if_pos howner, LifeCycle.resume] at hresume
    cases hstage : s.stage id with
    | waiting req =>
      simp only [hstage] at hresume
      obtain ⟨stage, hupdate, hle⟩ := stage_enter s id req (.ok ())
      rw [hupdate] at hresume
      refine ne_of_update ?_ hresume
      rw [hstage]
      exact Nat.lt_succ_of_le hle
    | storing services state =>
      simp only [hstage] at hresume
      change Function.update s.stage id .gone = s.stage at hresume
      refine ne_of_update ?_ hresume
      rw [hstage]
      exact Nat.one_pos
    | clearing =>
      simp only [hstage] at hresume
      change Function.update s.stage id .gone = s.stage at hresume
      refine ne_of_update ?_ hresume
      rw [hstage]
      exact Nat.one_pos
    | gone | admitted | guarded | readingMedia | starting | stopping =>
      rw [hstage] at hawaits
      cases hawaits
  · have hfinish := hstuck (.finish id (.ok ())) rfl
    rw [LifeCycle.step] at hfinish
    simp only [hstage] at hfinish
    change Function.update s.stage id .gone = s.stage at hfinish
    refine ne_of_update ?_ hfinish
    rw [hstage]
    exact Nat.one_pos

/-- If no step of the node changes a stage, then every request has ended. -/
theorem gone_of_stuck [DecidableEq B] (hs : s.Accounted come) (hstuck : s.Stuck) :
    (∀ i, s.stage i = .gone) ∧ s.mutex.owner = none := by
  have hfree : s.mutex.owner = none := by
    cases howner : s.mutex.owner with
    | none => rfl
    | some id => exact absurd hstuck (not_stuck_of_owner hs howner)
  refine ⟨fun id => ?_, hfree⟩
  have hholds : Free (s.stage id) := fun h =>
    FairMutex.not_has_of_free hfree ((hs.has id).mpr h)
  cases hstage : s.stage id with
  | gone => rfl
  | admitted req =>
    have hask := hstuck (.askMutex id (.ok ())) rfl
    rw [LifeCycle.step] at hask
    simp only [hstage] at hask
    obtain ⟨stage, hupdate, hle⟩ := stage_askMutex s id req (.ok ())
    rw [hupdate] at hask
    refine absurd hask (ne_of_update ?_)
    rw [hstage]
    exact Nat.lt_succ_of_le hle
  | waiting req => exact absurd (.inl (by rw [hstage]; rfl)) hholds
  | guarded req => exact absurd (.inr ⟨req, hstage⟩) hholds
  | storing services state => exact absurd (.inl (by rw [hstage]; rfl)) hholds
  | clearing => exact absurd (.inl (by rw [hstage]; rfl)) hholds
  | readingMedia =>
    have hfinish := hstuck (.finish id (.ok ())) rfl
    rw [LifeCycle.step] at hfinish
    simp only [hstage] at hfinish
    refine absurd hfinish (ne_of_update ?_)
    rw [hstage]
    exact Nat.one_pos
  | starting =>
    have hstart := hstuck (.startLdk id (.panics none)) rfl
    rw [LifeCycle.step] at hstart
    simp only [hstage] at hstart
    refine absurd hstart (ne_of_update ?_)
    rw [hstage]
    exact Nat.two_pos
  | stopping =>
    have hstop := hstuck (.stopLdk id true) rfl
    rw [LifeCycle.step] at hstop
    simp only [hstage] at hstop
    refine absurd hstop (ne_of_update ?_)
    rw [hstage]
    exact Nat.two_pos

/-! ### One answer each -/

/-- The request that the step belongs to. -/
def who : LifeCycleStep U B → ℕ
  | .arrive id _ | .askMutex id _ | .resume id _ | .finish id _ | .cancel id | .startLdk id _
  | .stopLdk id _ => id

/-- The step may end a request without an answer: its client disconnects, or its handler
panics. -/
def silent : LifeCycleStep U B → Bool
  | .cancel _ | .startLdk _ (.panics _) | .stopLdk _ true => true
  | _ => false

/-- The step answers if and only if it ends the request. -/
def AnswersLast (id : ℕ) (ending : Reply × LifeCycle U B) : Prop :=
  ending.1.isSome = true ↔ ending.2.stage id = .gone

theorem answersLast_gone (s : LifeCycle U B) (id : ℕ) (reply : Except APIError Unit) :
    AnswersLast id (some reply, s.setStage id .gone) :=
  iff_of_true rfl (stage_setStage_self s id .gone)

theorem answersLast_of_ne (s : LifeCycle U B) (id : ℕ) {stage : RequestStage U B}
    (h : stage ≠ .gone) : AnswersLast id (none, s.setStage id stage) :=
  iff_of_false (by simp) (by rwa [stage_setStage_self])

theorem answersLast_enter (s : LifeCycle U B) (id : ℕ) (req : GuardedRequest)
    (password : Except APIError Unit) : AnswersLast id (s.enter id req password) := by
  rw [LifeCycle.enter]
  split
  · cases req with
    | unlock =>
      cases password with
      | ok _ => exact answersLast_of_ne _ id (by simp)
      | error e => exact answersLast_gone _ id _
    | lock => exact answersLast_of_ne _ id (by simp)
    | getAssetMedia => exact answersLast_of_ne _ id (by simp)
    | init | backup | restore | changePassword | ordinary => exact answersLast_of_ne _ id (by simp)
  · exact answersLast_gone _ id _

theorem answersLast_finishes (s : LifeCycle U B) (id : ℕ) (stage : RequestStage U B)
    (hstage : stage ≠ .gone) (state : Option U) (services : Option B) :
    AnswersLast id (match s.mutex.owner with
      | none => LifeCycle.complete { s with mutex := s.mutex.lock id } id state services
      | some _ => (none, { s with mutex := s.mutex.lock id }.setStage id stage)) := by
  split
  · exact answersLast_gone _ id _
  · exact answersLast_of_ne _ id hstage

theorem answersLast_arrive (s : LifeCycle U B) (id : ℕ) (req : GuardedRequest) :
    AnswersLast id (s.arrive id req) := by
  rw [LifeCycle.arrive]
  split
  · exact answersLast_of_ne _ id (by simp)
  · exact answersLast_gone _ id _

theorem answersLast_askMutex (s : LifeCycle U B) (id : ℕ) (req : GuardedRequest)
    (password : Except APIError Unit) : AnswersLast id (s.askMutex id req password) := by
  rw [LifeCycle.askMutex]
  split
  · exact answersLast_enter _ id req password
  · exact answersLast_of_ne _ id (by simp)

/-- A step that is not silent answers its request if and only if it ends it. -/
theorem answersLast_step [DecidableEq B] {x : LifeCycleStep U B} (hx : silent x = false)
    (hmoves : (s.step x).2.stage ≠ s.stage ∨ (s.step x).1.isSome = true) :
    AnswersLast (who x) (s.step x) := by
  cases x with
  | arrive id req =>
    rw [LifeCycle.step] at hmoves ⊢
    split at hmoves
    · exact answersLast_arrive s id req
    · exact (hmoves.elim (fun h => h rfl) fun h => by cases h).elim
  | askMutex id password =>
    rw [LifeCycle.step] at hmoves ⊢
    split at hmoves
    · exact answersLast_askMutex s id _ password
    · exact (hmoves.elim (fun h => h rfl) fun h => by cases h).elim
  | resume id password =>
    rw [LifeCycle.step] at hmoves ⊢
    split at hmoves
    · rename_i howner
      rw [if_pos howner]
      rw [LifeCycle.resume] at hmoves ⊢
      split at hmoves
      · exact answersLast_enter s id _ password
      · exact answersLast_gone _ id _
      · exact answersLast_gone _ id _
      · exact (hmoves.elim (fun h => h rfl) fun h => by cases h).elim
    · exact (hmoves.elim (fun h => h rfl) fun h => by cases h).elim
  | finish id reply =>
    rw [LifeCycle.step] at hmoves ⊢
    split at hmoves
    · exact answersLast_gone _ id _
    · exact answersLast_gone _ id _
    · exact (hmoves.elim (fun h => h rfl) fun h => by cases h).elim
  | cancel id => cases hx
  | startLdk id ending =>
    rw [LifeCycle.step] at hmoves ⊢
    split at hmoves
    · cases ending with
      | started services state =>
        exact answersLast_finishes { s with spawned := services :: s.spawned } id
          (.storing services state) (by simp) _ _
      | fails spawned e => exact answersLast_gone _ id _
      | panics spawned => cases hx
    · exact (hmoves.elim (fun h => h rfl) fun h => by cases h).elim
  | stopLdk id panics =>
    cases panics with
    | true => cases hx
    | false =>
      rw [LifeCycle.step] at hmoves ⊢
      split at hmoves
      · rw [LifeCycle.stopLdk, if_neg Bool.false_ne_true]
        exact answersLast_finishes s.stopServices id .clearing (by simp) _ _
      · exact (hmoves.elim (fun h => h rfl) fun h => by cases h).elim

/-- The requests that have arrived are served. -/
structure Served [DecidableEq B] (s : LifeCycle U B) : Prop where
  /-- Without new requests, the number of steps that change a stage is bounded. -/
  bounded : ∃ n, ∀ ys, Mealy.Along step GoesOn s ys → ys.length ≤ n
  /-- As long as a request has not ended, the node can take a step that changes a stage. -/
  ends : s.Stuck → (∀ i, s.stage i = .gone) ∧ s.mutex.owner = none
  answered : ∀ x, silent x = false →
    ((s.step x).2.stage ≠ s.stage ∨ (s.step x).1.isSome = true) → AnswersLast (who x) (s.step x)

/-- After every run, also one in which changes overlap, start_ldk fails or panics, or
clients disconnect, all requests that have arrived are served. -/
theorem served_run [DecidableEq B] (xs : List (LifeCycleStep U B)) :
    Served (Mealy.final step locked xs) := by
  obtain ⟨come, hs⟩ : ∃ come, (Mealy.final step (locked : LifeCycle U B) xs).Accounted come :=
    Mealy.invariant_final (I := fun s : LifeCycle U B => ∃ come, s.Accounted come)
      (C := fun _ _ => True) (fun _ x ⟨_, hs⟩ _ => ⟨_, hs.step x⟩) ⟨∅, accounted_locked⟩
      (Mealy.along_of_forall (fun _ _ => trivial) _)
  exact ⟨⟨_, fun _ hys => length_le_of_goesOn hs hys⟩, gone_of_stuck hs,
    fun _ hx hmoves => answersLast_step hx hmoves⟩

end LifeCycle

end RgbLightningNode
