import RgbLightningNode.Routes.StartLdk

/-!
# Unlocks that fail

An unlock that fails should leave the node as locked as it found it, with none
of the tasks of a node running, so that the next unlock starts afresh.
-/

namespace RgbLightningNode

open Fallible

variable {U B : Type}

namespace LdkEnv

/-- Every address parses, and the alias fits into 32 bytes. -/
def Announceable (env : LdkEnv U B) (req : UnlockRequest) : Prop :=
  (∀ addr ∈ req.announceAddresses, (env.parseSocketAddress addr).isSome = true) ∧
    ∀ s, req.announceAlias = some s → s.utf8ByteSize ≤ 32

theorem announcedAddresses_isOk_iff {env : LdkEnv U B} {addrs : List String} :
    (∃ sas, env.announcedAddresses addrs = .ok sas) ↔
      ∀ addr ∈ addrs, (env.parseSocketAddress addr).isSome = true := by
  induction addrs with
  | nil => simp [announcedAddresses]
  | cons addr addrs ih =>
    cases hparse : env.parseSocketAddress addr with
    | none => simp [announcedAddresses, hparse]
    | some sa =>
      have hmap : (∃ sas, (env.announcedAddresses addrs).map (sa :: ·) = .ok sas) ↔
          ∃ sas, env.announcedAddresses addrs = .ok sas := by
        cases env.announcedAddresses addrs with
        | error exit => simp [Except.map]
        | ok sas => simp [Except.map]
      simp only [announcedAddresses, hparse, hmap, ih, List.forall_mem_cons, Option.isSome_some,
        true_and]

theorem announcedAddresses_error {env : LdkEnv U B} {addrs : List String} {exit : Exit APIError}
    (h : env.announcedAddresses addrs = .error exit) : ∃ e, exit = .err e := by
  induction addrs with
  | nil => cases h
  | cons addr addrs ih =>
    cases hparse : env.parseSocketAddress addr with
    | none =>
      simp only [announcedAddresses, hparse] at h
      exact ⟨_, (Except.error.inj h).symm⟩
    | some sa =>
      simp only [announcedAddresses, hparse] at h
      cases hrest : env.announcedAddresses addrs with
      | error exit' =>
        rw [hrest] at h
        cases h
        exact ih hrest
      | ok sas =>
        rw [hrest] at h
        cases h

theorem checkAnnounceAlias_eq_ok_iff {announceAlias : Option String} :
    checkAnnounceAlias announceAlias = .ok () ↔
      ∀ s, announceAlias = some s → s.utf8ByteSize ≤ 32 := by
  cases announceAlias with
  | none => simp [checkAnnounceAlias]
  | some s => simp [checkAnnounceAlias]

theorem checkAnnounceAlias_error {announceAlias : Option String} {exit : Exit APIError}
    (h : checkAnnounceAlias announceAlias = .error exit) : ∃ e, exit = .err e := by
  unfold checkAnnounceAlias at h
  split at h
  · split at h
    · exact ⟨_, (Except.error.inj h).symm⟩
    · cases h
  · cases h

theorem announce_eq_ok_iff {env : LdkEnv U B} {req : UnlockRequest} :
    env.announce req = .ok () ↔ env.Announceable req := by
  rw [Announceable, ← announcedAddresses_isOk_iff, ← checkAnnounceAlias_eq_ok_iff, announce,
    except_bind_eq_ok_iff]
  constructor
  · rintro ⟨sas, haddrs, halias⟩
    exact ⟨⟨sas, haddrs⟩, halias⟩
  · rintro ⟨⟨sas, haddrs⟩, halias⟩
    exact ⟨sas, haddrs, halias⟩

/-- What cannot be announced is an error, and no panic. -/
theorem announce_error {env : LdkEnv U B} {req : UnlockRequest} {exit : Exit APIError}
    (h : env.announce req = .error exit) : ∃ e, exit = .err e := by
  rw [announce] at h
  cases haddrs : env.announcedAddresses req.announceAddresses with
  | error exit' =>
    rw [haddrs] at h
    cases h
    exact announcedAddresses_error haddrs
  | ok sas =>
    rw [haddrs] at h
    exact checkAnnounceAlias_error h

/-- The tasks that run when the announcement is read. -/
def spawnedTasks (env : LdkEnv U B) (peerPortTaken : Bool) : List LdkTask :=
  [.reconnectLoop, .backgroundProcessor, .chainPoller] ++
    (if env.peerPortFree && !peerPortTaken then [.peerListener] else []) ++ [.feePoller]

/-- How LDK starts, with the tasks it leaves running. -/
theorem startLdk_eq (env : LdkEnv U B) (req : UnlockRequest) (mnemonic : String)
    (peerPortTaken : Bool) :
    startLdk env req mnemonic peerPortTaken =
      match env.connectBitcoind req with
      | .error exit => (.error exit, [])
      | .ok () =>
        match env.prepare req mnemonic with
        | .error exit => (.error exit, [.feePoller])
        | .ok () =>
          match env.announce req with
          | .error exit =>
            (.error exit, (env.spawnedTasks peerPortTaken).filter (· ≠ .backgroundProcessor))
          | .ok () =>
            (.ok (env.services, env.unlockedState),
              .nodeAnnouncer :: env.spawnedTasks peerPortTaken) := by
  cases hconnect : env.connectBitcoind req with
  | error exit => simp [startLdk, startLdkBody, hconnect, outcome, bind_apply]
  | ok =>
    cases hprepare : env.prepare req mnemonic with
    | error exit =>
      simp [startLdk, startLdkBody, hconnect, hprepare, outcome, bind_apply, spawn]
    | ok =>
      cases hannounce : env.announce req <;>
      cases hport : env.peerPortFree && !peerPortTaken <;>
        simp [startLdk, startLdkBody, hconnect, hprepare, hannounce, outcome, bind_apply,
          map_apply, spawn, hport, spawnedTasks]

end LdkEnv

/-! ### What an unlock leaves behind -/

/-- The tasks of a running node. -/
def LdkTask.isNodeTask : LdkTask → Bool
  | peerListener | chainPoller | backgroundProcessor | reconnectLoop => true
  | feePoller | nodeAnnouncer => false

namespace LdkHost

/-- The node is locked, and no change of it is under way. -/
def Locked (host : LdkHost U B) : Prop :=
  host.app.changingState = false ∧ host.app.unlockedAppState.isSome = false

def nodeTasks (host : LdkHost U B) : List LdkTask := host.running.filter LdkTask.isNodeTask

/-- An unlock does on one host what it does on the other. -/
def SameUnlock (env : LdkEnv U B) (req : UnlockRequest) (host host' : LdkHost U B) : Prop :=
  (unlock env req host').1 = (unlock env req host).1 ∧
    (unlock env req host').2.app = (unlock env req host).2.app ∧
    ∃ started, (unlock env req host').2.running = started ++ host'.running ∧
      (unlock env req host).2.running = started ++ host.running

/-- Nothing is left of an unlock: no task of a node, no state, and nothing that a
later unlock could tell. -/
structure NothingLeft (host host' : LdkHost U B) : Prop where
  tasks : host'.nodeTasks = host.nodeTasks
  changing : host'.app.changingState = false
  locked : host'.app.unlockedAppState.isSome = false
  later : ∀ env req, SameUnlock env req host host'

/-- An unlock that fails leaves nothing behind; one that is refused because the node is
changing or unlocked leaves it so. -/
def LeavesNothing (env : LdkEnv U B) (req : UnlockRequest) (host : LdkHost U B) : Prop :=
  ∀ e, (unlock env req host).1 = .error (.err e) →
    (host.Locked → NothingLeft host (unlock env req host).2) ∧
      (¬host.Locked → (unlock env req host).2 = host)

/-- The unlock reaches the announcement. -/
def Reaches (env : LdkEnv U B) (req : UnlockRequest) : Prop :=
  ∃ mnemonic, env.checkPasswordValidity req.password = .ok mnemonic ∧
    env.connectBitcoind req = .ok () ∧ env.prepare req mnemonic = .ok ()

variable {env : LdkEnv U B} {req : UnlockRequest} {host host' : LdkHost U B}

theorem checkLocked_eq_ok_iff : host.checkLocked = .ok () ↔ host.Locked := by
  rw [checkLocked, AppState.checkChangingState, AppState.checkLocked, Locked]
  cases host.app.changingState <;> cases host.app.unlockedAppState.isSome <;> simp

theorem unlock_of_not_locked (h : ¬host.Locked) : (unlock env req host).2 = host := by
  rw [unlock]
  cases hcheck : host.checkLocked with
  | error e => rfl
  | ok => exact absurd (checkLocked_eq_ok_iff.mp hcheck) h

theorem peerPortTaken_eq_of_nodeTasks (h : host'.nodeTasks = host.nodeTasks) :
    host'.peerPortTaken = host.peerPortTaken := by
  have hmem : ∀ host : LdkHost U B,
      host.peerPortTaken = true ↔ .peerListener ∈ host.nodeTasks := by
    intro host
    rw [peerPortTaken, nodeTasks, List.mem_filter, List.contains_iff_mem]
    exact (and_iff_left rfl).symm
  rw [Bool.eq_iff_iff, hmem, hmem, h]

/-- An unlock reads the state of the node, and whether the peer port is taken. -/
theorem sameUnlock_of_eq (env : LdkEnv U B) (req : UnlockRequest) (happ : host'.app = host.app)
    (hport : host'.peerPortTaken = host.peerPortTaken) : SameUnlock env req host host' := by
  have hcheck : host'.checkLocked = host.checkLocked := by rw [checkLocked, checkLocked, happ]
  cases hlocked : host.checkLocked with
  | error e =>
    rw [SameUnlock, unlock, unlock, hcheck, hlocked]
    exact ⟨rfl, happ, [], rfl, rfl⟩
  | ok =>
    cases hpassword : env.checkPasswordValidity req.password with
    | error exit =>
      simp only [SameUnlock, unlock, hcheck, hlocked, hpassword, afterExit, happ]
      exact ⟨trivial, trivial, [], rfl, rfl⟩
    | ok mnemonic =>
      cases hstart : startLdk env req mnemonic host.peerPortTaken with
      | mk result tasks =>
        have hport' : ∀ app : AppState U B,
            peerPortTaken ⟨app, host'.running⟩ = peerPortTaken ⟨app, host.running⟩ :=
          fun _ => hport
        have hstart' : ∀ app : AppState U B,
            startLdk env req mnemonic (peerPortTaken ⟨app, host.running⟩) = (result, tasks) :=
          fun _ => hstart
        cases result with
        | error exit =>
          simp only [SameUnlock, unlock, hcheck, hlocked, hpassword, happ, hport', hstart',
            afterExit]
          exact ⟨trivial, trivial, tasks, rfl, rfl⟩
        | ok started =>
          simp only [SameUnlock, unlock, hcheck, hlocked, hpassword, happ, hport', hstart']
          exact ⟨trivial, trivial, tasks, rfl, rfl⟩

theorem afterExit_err (hl : host.Locked) (e : APIError) (tasks : List LdkTask) :
    afterExit { host with app := host.app.updateChangingState true } (.err e) tasks =
      ⟨host.app, tasks ++ host.running⟩ := by
  obtain ⟨⟨unlockedAppState, services, changingState⟩, running⟩ := host
  obtain ⟨rfl, -⟩ := hl
  rfl

/-- A failing unlock that reaches the announcement leaves three tasks of the node;
any other leaves at most the poller of fees. -/
theorem unlock_failed (hl : host.Locked) {e : APIError}
    (h : (unlock env req host).1 = .error (.err e)) :
    ∃ tasks, (unlock env req host).2 = ⟨host.app, tasks ++ host.running⟩ ∧
      ((¬Reaches env req ∧ (tasks = [] ∨ tasks = [.feePoller])) ∨
        (Reaches env req ∧ ¬env.Announceable req ∧
          tasks = (env.spawnedTasks host.peerPortTaken).filter (· ≠ .backgroundProcessor))) := by
  have hcheck := checkLocked_eq_ok_iff.mpr hl
  cases hpassword : env.checkPasswordValidity req.password with
  | error exit =>
    simp only [unlock, hcheck, hpassword, Except.error.injEq] at h ⊢
    subst h
    refine ⟨[], afterExit_err hl e [], .inl ⟨?_, .inl rfl⟩⟩
    rintro ⟨mnemonic, hreach, -⟩
    rw [hpassword] at hreach
    cases hreach
  | ok mnemonic =>
    -- the steps of start_ldk up to the announcement
    cases hconnect : env.connectBitcoind req with
    | error exit =>
      simp only [unlock, hcheck, hpassword, LdkEnv.startLdk_eq, hconnect,
        Except.error.injEq] at h ⊢
      subst h
      refine ⟨[], afterExit_err hl e [], .inl ⟨?_, .inl rfl⟩⟩
      rintro ⟨_, -, hreach, -⟩
      rw [hconnect] at hreach
      cases hreach
    | ok =>
      cases hprepare : env.prepare req mnemonic with
      | error exit =>
        simp only [unlock, hcheck, hpassword, LdkEnv.startLdk_eq, hconnect, hprepare,
          Except.error.injEq] at h ⊢
        subst h
        refine ⟨[.feePoller], afterExit_err hl e _, .inl ⟨?_, .inr rfl⟩⟩
        rintro ⟨mnemonic', hreach, -, hready⟩
        rw [hpassword] at hreach
        obtain rfl := Except.ok.inj hreach
        rw [hprepare] at hready
        cases hready
      | ok =>
        cases hannounce : env.announce req with
        | error exit =>
          simp only [unlock, hcheck, hpassword, LdkEnv.startLdk_eq, hconnect, hprepare, hannounce,
            Except.error.injEq] at h ⊢
          subst h
          refine ⟨_, afterExit_err hl e _, .inr ⟨⟨mnemonic, hpassword, hconnect, hprepare⟩,
            fun hann => ?_, rfl⟩⟩
          rw [LdkEnv.announce_eq_ok_iff.mpr hann] at hannounce
          cases hannounce
        | ok =>
          simp [unlock, hcheck, hpassword, LdkEnv.startLdk_eq, hconnect, hprepare,
            hannounce] at h

/-- What cannot be announced is found out by an error. -/
theorem unlock_fails_of_reaches (hl : host.Locked) (hreach : Reaches env req)
    (hann : ¬env.Announceable req) : ∃ e, (unlock env req host).1 = .error (.err e) := by
  obtain ⟨mnemonic, hpassword, hconnect, hprepare⟩ := hreach
  cases hannounce : env.announce req with
  | ok => exact absurd (LdkEnv.announce_eq_ok_iff.mp hannounce) hann
  | error exit =>
    obtain ⟨e, rfl⟩ := LdkEnv.announce_error hannounce
    refine ⟨e, ?_⟩
    simp only [unlock, checkLocked_eq_ok_iff.mpr hl, hpassword, LdkEnv.startLdk_eq, hconnect,
      hprepare, hannounce]

theorem nothingLeft_of_tasks {tasks : List LdkTask} (hl : host.Locked)
    (htasks : tasks = [] ∨ tasks = [.feePoller]) :
    NothingLeft host ⟨host.app, tasks ++ host.running⟩ := by
  have hnode : nodeTasks (⟨host.app, tasks ++ host.running⟩ : LdkHost U B) = host.nodeTasks := by
    obtain rfl | rfl := htasks
    · rfl
    · rfl
  exact ⟨hnode, hl.1, hl.2, fun env req =>
    sameUnlock_of_eq env req rfl (peerPortTaken_eq_of_nodeTasks hnode)⟩

/-- The poller of the chain runs on after an announcement that fails. -/
theorem not_nothingLeft_of_spawned {peerPortTaken : Bool} :
    ¬NothingLeft host ⟨host.app,
      (env.spawnedTasks peerPortTaken).filter (· ≠ .backgroundProcessor) ++ host.running⟩ := by
  intro h
  have htasks := congrArg List.length h.tasks
  rw [nodeTasks, nodeTasks, List.filter_append, List.length_append] at htasks
  have hpos : 0 < (((env.spawnedTasks peerPortTaken).filter
      (· ≠ .backgroundProcessor)).filter LdkTask.isNodeTask).length := by
    rw [LdkEnv.spawnedTasks]
    cases env.peerPortFree && !peerPortTaken <;> decide
  omega

/-- An unlock of a locked node leaves nothing behind when what it asks for can be
announced, or it stops before that is looked at. -/
theorem leavesNothing_iff (env : LdkEnv U B) (req : UnlockRequest) (host : LdkHost U B) :
    LeavesNothing env req host ↔ (host.Locked → Reaches env req → env.Announceable req) := by
  constructor
  · intro h hl hreach
    by_contra hann
    obtain ⟨e, he⟩ := unlock_fails_of_reaches (B := B) hl hreach hann
    obtain ⟨tasks, hafter, ⟨hnot, -⟩ | ⟨-, -, rfl⟩⟩ := unlock_failed hl he
    · exact hnot hreach
    · have hleft := (h e he).1 hl
      rw [hafter] at hleft
      exact not_nothingLeft_of_spawned hleft
  · intro h e he
    refine ⟨fun hl => ?_, unlock_of_not_locked⟩
    obtain ⟨tasks, hafter, ⟨-, htasks⟩ | ⟨hreach, hann, -⟩⟩ := unlock_failed hl he
    · rw [hafter]
      exact nothingLeft_of_tasks hl htasks
    · exact absurd (h hl hreach) hann

/-- A regtest node where every step answers, and no address parses. -/
def regtestEnv : LdkEnv Unit Unit where
  network := .regtest
  encryptedMnemonic := some "encrypted"
  decrypt password _ := if password = "password" then some "mnemonic" else none
  isMnemonic _ := true
  bitcoindClient _ _ _ _ := .ok ()
  blockchainInfo := some "regtest"
  checkIndexerUrl _ _ := .ok ()
  checkRgbProxyEndpoint _ := .ok ()
  canWrite _ := true
  readChannelMonitors := true
  validateBestBlockHeader := true
  manager := none
  rgbWallet _ := .ok ()
  goOnline _ := .ok ()
  outputSweeper := .notFound
  synchronizeListeners _ := .ok ()
  watchChannels := true
  parseSocketAddress _ := none
  peerPortFree := true
  services := ()
  unlockedState := ()

def unlockAnnouncing (announceAddresses : List String) : UnlockRequest where
  password := "password"
  bitcoindRpcUsername := "user"
  bitcoindRpcPassword := "password"
  bitcoindRpcHost := "localhost"
  bitcoindRpcPort := 18443
  indexerUrl := none
  proxyEndpoint := none
  announceAddresses := announceAddresses
  announceAlias := some "RLN_alias"

/-- A node that has never been unlocked. -/
def fresh : LdkHost Unit Unit := ⟨⟨none, none, false⟩, []⟩

/-- An address that does not parse fails the unlock with the node's tasks running. -/
theorem leaves_tasks :
    unlock regtestEnv (unlockAnnouncing ["example"]) fresh =
        (.error (.err (.invalidAnnounceAddresses "failed to parse address 'example'")),
          ⟨fresh.app, [.reconnectLoop, .chainPoller, .peerListener, .feePoller]⟩) ∧
      ¬LeavesNothing regtestEnv (unlockAnnouncing ["example"]) fresh := by
  have hrun : unlock regtestEnv (unlockAnnouncing ["example"]) fresh =
      (.error (.err (.invalidAnnounceAddresses "failed to parse address 'example'")),
        ⟨fresh.app, [.reconnectLoop, .chainPoller, .peerListener, .feePoller]⟩) := rfl
  refine ⟨hrun, fun h => ?_⟩
  have hleft := (h _ (congrArg Prod.fst hrun)).1 ⟨rfl, rfl⟩
  rw [hrun] at hleft
  exact absurd hleft.tasks (by decide)

end LdkHost

end RgbLightningNode
