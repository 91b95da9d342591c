import RgbLightningNode.Lib.Fallible
import RgbLightningNode.Runs.Revocations

/-!
# A node behind its authentication

The node is started with a root key or without authentication, answers requests
and revocations side by side, and may end at any point and be started again. A
token that has been revoked, and any token that stems from the same issued one,
gives access to nothing from then on.
-/

namespace RgbLightningNode

open Biscuit Fallible

/-- The two options about authentication. -/
structure AuthArgs where
  disableAuthentication : Bool
  rootPublicKey : Option String

/-- Why the node does not start. -/
inductive StartError where
  | invalidAuthenticationArgs
  | invalidRootKey
  | app (e : AppError)
  deriving DecidableEq

/-- Why a revocation does not get to the set. -/
inductive RevokeTokenError where
  | authenticationDisabled
  | invalidBiscuitToken
  deriving DecidableEq

/-- The tokens and keys that the token library can read. -/
structure TokenReader where
  fromBytes : Bytes32 → Option RootKey
  fromBase64 : String → RootKey → Option AuthToken

def checkRootKey (reader : TokenReader) (rootKeyHex : String) : Except StartError RootKey :=
  match hexStrToVec rootKeyHex.toList with
  | none => .error .invalidRootKey
  | some keyBytes =>
    match bytes32? keyBytes with
    | none => .error .invalidRootKey
    | some keyArray =>
      match reader.fromBytes keyArray with
      | none => .error .invalidRootKey
      | some key => .ok key

def checkAuthArgs (reader : TokenReader) (args : AuthArgs) : Except StartError (Option RootKey) :=
  match args.disableAuthentication, args.rootPublicKey with
  | true, some _ => .error .invalidAuthenticationArgs
  | false, none => .error .invalidAuthenticationArgs
  | true, none => .ok none
  | false, some rootKeyHex => (checkRootKey reader rootKeyHex).map some

/-- The tokens that count as revoked when the node starts with this file. -/
def startDaemon (key : Option RootKey) (file : Option (List Char)) :
    Except StartError (Finset (List UInt8)) :=
  match key with
  | some _ => (loadRevokedTokens file).mapError .app
  | none => .ok ∅

structure AuthServer where
  key : Option RootKey
  /-- The process is there. -/
  running : Bool
  revocations : RevocationState
  /-- The tokens of the revocations that are pending. -/
  callers : List AuthToken
  -- what has happened so far, which the node does not look at
  begun : List AuthToken
  acknowledged : List AuthToken

inductive AuthInput where
  /-- A request that is no revocation. -/
  | request (req : AuthRequest) (now : Nat)
  /-- A revocation, up to the end of the locked update. -/
  | revoke (req : AuthRequest) (now : Nat) (token : String) (iter : HashSetIter)
  | replace (i : Nat)
  | fail (i : Nat) (message : String)
  /-- The process ends, if it has not, and is started with the same options. -/
  | restart

inductive AuthAnswer where
  /-- What the middleware makes of a request. Its handler runs if it goes through. -/
  | decided (decision : Except StatusCode Unit)
  | notRevoked (e : RevokeTokenError)
  | revoked (token : AuthToken) (answer : Except APIError Unit)
  | notStarted (e : StartError)
  | nothing

def AuthInput.request? : AuthInput → Option (AuthRequest × Nat)
  | request req now => some (req, now)
  | revoke req now _ _ => some (req, now)
  | _ => none

namespace AuthServer

/-- A node that is started with this root key on this file. -/
def boot (key : Option RootKey) (file : Option (List Char)) (begun acknowledged : List AuthToken) :
    Except StartError AuthServer := do
  let loaded ← startDaemon key file
  return ⟨key, true, .start file loaded, [], begun, acknowledged⟩

/-- The first start. -/
def start (reader : TokenReader) (args : AuthArgs) (file : Option (List Char)) :
    Except StartError AuthServer := do
  let key ← checkAuthArgs reader args
  boot key file [] []

def authState (s : AuthServer) : AuthState := ⟨s.key, s.revocations.revoked⟩

variable (reader : TokenReader)

def decision (s : AuthServer) (req : AuthRequest) (now : Nat) : Except StatusCode Unit :=
  conditionalAuthMiddleware reader.fromBase64 s.authState now req

/-- A revocation that has come through the middleware. -/
def revokeToken (s : AuthServer) (token : String) (iter : HashSetIter) : AuthAnswer × AuthServer :=
  match s.key with
  | none => (.notRevoked .authenticationDisabled, s)
  | some key =>
    match reader.fromBase64 token key with
    | none => (.notRevoked .invalidBiscuitToken, s)
    | some tokenToRevoke =>
      (.nothing, { s with
        revocations := (s.revocations.step (.update tokenToRevoke iter)).2
        callers := s.callers ++ [tokenToRevoke]
        begun := tokenToRevoke :: s.begun })

/-- A pending revocation ends. -/
def endRevocation (s : AuthServer) (i : Nat) (x : RevokeInput) : AuthAnswer × AuthServer :=
  match s.callers[i]?, s.revocations.step x with
  | some token, (some answer, revocations) =>
    (.revoked token answer, { s with
      revocations := revocations
      callers := s.callers.eraseIdx i
      acknowledged := if answer = .ok () then token :: s.acknowledged else s.acknowledged })
  | _, _ => (.nothing, s)

def serve (s : AuthServer) : AuthInput → AuthAnswer × AuthServer
  | .request req now => (.decided (s.decision reader req now), s)
  | .revoke req now token iter =>
    match s.decision reader req now with
    | .ok () => s.revokeToken reader token iter
    | .error status => (.decided (.error status), s)
  | .replace i => s.endRevocation i (.replace i)
  | .fail i message => s.endRevocation i (.fail i message)
  | .restart =>
    match boot s.key s.revocations.file s.begun s.acknowledged with
    | .ok s => (.nothing, s)
    | .error e => (.notStarted e, { s with running := false })

def step (s : AuthServer) (x : AuthInput) : AuthAnswer × AuthServer :=
  if s.running then s.serve reader x else (.nothing, s)

/-! ### What is claimed of a step -/

/-- The file is replaced in order. -/
def InOrder (s : AuthServer) : AuthInput → Prop
  | .replace i => s.revocations.InOrder (.replace i)
  | _ => True

/-- The input has no token but these. -/
def Presents (tokens : List AuthToken) (s : AuthServer) (x : AuthInput) : Prop :=
  ∀ key, s.key = some key → (∀ req now u, x.request? = some (req, now) →
    req.token reader.fromBase64 key = some u → u ∈ tokens) ∧
    ∀ req now text iter u, x = .revoke req now text iter → reader.fromBase64 text key = some u →
      u ∈ tokens

/-- A token that stems from a revoked one is refused. Where no revocation of any
token that stems from the same one was begun, nothing but the policy decides. -/
structure Decides (loaded : Finset (List UInt8)) (s : AuthServer) (x : AuthInput) : Prop where
  starts : ∀ e, (s.step reader x).1 ≠ .notStarted e
  refuses : ∀ key req now u, s.key = some key → x.request? = some (req, now) →
    req.token reader.fromBase64 key = some u → (∃ t ∈ s.acknowledged, t.origin = u.origin) →
      (s.step reader x).1 = .decided (.error .unauthorized)
  spares : ∀ key req now u, s.key = some key → x = .request req now →
    req.token reader.fromBase64 key = some u → (∀ t ∈ s.begun, t.origin ≠ u.origin) →
      (∀ id ∈ u.revocationIdentifiers, id ∉ loaded) →
        (s.step reader x).1 = .decided (checkToken ∅ now req.path u)
  unguarded : s.key = none → ∀ req now, x = .request req now →
    (s.step reader x).1 = .decided (.ok ())

/-! ### The invariant -/

/-- What the pending revocations have listed, what is on file, and what is in the
set, of the ids of the tokens. -/
structure Sound (loaded : Finset (List UInt8)) (s : AuthServer) : Prop where
  inv : ∃ booted, s.revocations.Inv booted
  loadable : ∃ revoked, loadRevokedTokens s.revocations.file = .ok revoked
  onFile : ∀ id, OnFile s.revocations.file id → id ∈ s.revocations.revoked
  callers : List.Forall₂ (fun (t : AuthToken) (call : RevokeCall) =>
    ∀ id ∈ t.revocationIdentifiers, id ∈ call.listed) s.callers s.revocations.pending
  acknowledged : ∀ t ∈ s.acknowledged, ∀ id ∈ t.revocationIdentifiers,
    OnFile s.revocations.file id
  revoked : ∀ id ∈ s.revocations.revoked,
    id ∈ loaded ∨ ∃ t ∈ s.begun, id ∈ t.revocationIdentifiers

variable {reader} {loaded : Finset (List UInt8)} {s : AuthServer}

theorem forall₂_eraseIdx {α β : Type} {R : α → β → Prop} {xs : List α} {ys : List β}
    (h : List.Forall₂ R xs ys) (i : Nat) : List.Forall₂ R (xs.eraseIdx i) (ys.eraseIdx i) := by
  rw [List.eraseIdx_eq_take_drop_succ, List.eraseIdx_eq_take_drop_succ]
  exact List.rel_append (List.forall₂_take i h) (List.forall₂_drop (i + 1) h)

theorem exists_getElem?_of_forall₂ {α β : Type} {R : α → β → Prop} {xs : List α} {ys : List β}
    (h : List.Forall₂ R xs ys) {i : Nat} {a : α} (ha : xs[i]? = some a) :
    ∃ b, ys[i]? = some b ∧ R a b := by
  induction h generalizing i with
  | nil => cases ha
  | cons hab _ ih =>
    cases i with
    | zero => exact ⟨_, rfl, Option.some.inj ha ▸ hab⟩
    | succ i => exact ih ha

/-- A node that starts on a file with the ids of all acknowledged revocations. -/
theorem sound_boot {key : RootKey} {file : Option (List Char)} {booted : Finset (List UInt8)}
    {begun acknowledged : List AuthToken} (hload : loadRevokedTokens file = .ok booted)
    (hack : ∀ t ∈ acknowledged, ∀ id ∈ t.revocationIdentifiers, OnFile file id)
    (hbegun : ∀ id ∈ booted, id ∈ loaded ∨ ∃ t ∈ begun, id ∈ t.revocationIdentifiers) :
    Sound loaded ⟨some key, true, .start file booted, [], begun, acknowledged⟩ where
  inv := ⟨booted, RevocationState.inv_start hload⟩
  loadable := ⟨booted, hload⟩
  onFile id h := by
    obtain ⟨revoked, hload', hid⟩ := h
    obtain rfl := Except.ok.inj (hload.symm.trans hload')
    exact hid
  callers := .nil
  acknowledged := hack
  revoked := hbegun

theorem Sound.update (hs : Sound loaded s) (token : AuthToken) (iter : HashSetIter) :
    Sound loaded { s with
      revocations := (s.revocations.step (.update token iter)).2
      callers := s.callers ++ [token]
      begun := token :: s.begun } where
  inv := hs.inv.imp fun _ h => h.update token iter
  loadable := hs.loadable
  onFile id h := mem_insertRevocationIds.mpr (.inl (hs.onFile id h))
  callers := by
    refine List.rel_append hs.callers (.cons (fun id hid => ?_) .nil)
    exact (iter.mem_toList _ id).mpr (mem_insertRevocationIds.mpr (.inr hid))
  acknowledged := hs.acknowledged
  revoked id hid := by
    obtain hid | hid := mem_insertRevocationIds.mp hid
    · exact (hs.revoked id hid).imp_right fun ⟨t, ht, h⟩ => ⟨t, List.mem_cons_of_mem _ ht, h⟩
    · exact .inr ⟨token, List.mem_cons_self, hid⟩

theorem Sound.fail (hs : Sound loaded s) (i : Nat) (message : String) :
    Sound loaded (s.endRevocation i (.fail i message)).2 := by
  rw [endRevocation]
  cases hcaller : s.callers[i]? with
  | none => exact hs
  | some token =>
    obtain ⟨call, hcall, -⟩ := exists_getElem?_of_forall₂ hs.callers hcaller
    have hinv := hs.inv.imp fun _ h => h.fail i message
    simp only [RevocationState.step, hcall] at hinv ⊢
    exact {
      inv := hinv
      loadable := hs.loadable
      onFile := hs.onFile
      callers := forall₂_eraseIdx hs.callers i
      acknowledged := hs.acknowledged
      revoked := hs.revoked }

theorem Sound.replace (hs : Sound loaded s) {i : Nat} (horder : s.InOrder (.replace i)) :
    Sound loaded (s.endRevocation i (.replace i)).2 := by
  rw [endRevocation]
  cases hcaller : s.callers[i]? with
  | none => exact hs
  | some token =>
    obtain ⟨call, hcall, hlisted⟩ := exists_getElem?_of_forall₂ hs.callers hcaller
    obtain ⟨booted, hbooted⟩ := hs.inv
    have hinv := hbooted.replace horder
    have hkeeps := (RevocationState.keepsFile_iff hbooted (.replace i)).mpr horder
    have hrevoked := hbooted.listed call (List.mem_of_getElem? hcall)
    simp only [RevocationState.step, hcall] at hinv hkeeps ⊢
    have hfile : ∀ id, OnFile (some call.fileBody) id ↔ id ∈ call.listed ∧ id ≠ [] := fun id => by
      rw [call.fileBody_eq, onFile_revokedFileBody_iff]
    exact {
      inv := ⟨booted, hinv⟩
      loadable := ⟨_, by
        rw [call.fileBody_eq, loadRevokedTokens, readRevokedLines_revokedFileBody]⟩
      onFile := fun id h => hrevoked id ((hfile id).mp h).1
      callers := forall₂_eraseIdx hs.callers i
      acknowledged := fun t ht id hid => by
        obtain rfl | ht := List.mem_cons.mp ht
        · exact (hfile id).mpr ⟨hlisted id hid, Token.ne_nil_of_mem hid⟩
        · exact hkeeps id (hs.acknowledged t ht id hid)
      revoked := hs.revoked }

/-! ### A step -/

/-- What every step keeps of a node that was started with this set. -/
structure Upheld (loaded : Finset (List UInt8)) (tokens : List AuthToken) (s : AuthServer) :
    Prop where
  running : s.running = true
  sound : s.key ≠ none → Sound loaded s
  begun : s.begun ⊆ tokens

variable {tokens : List AuthToken}

theorem upheld_start {args : AuthArgs} {file : Option (List Char)}
    (h : start reader args file = .ok s) : Upheld s.revocations.revoked tokens s := by
  obtain ⟨key, -, h⟩ := except_bind_eq_ok_iff.mp h
  obtain ⟨booted, hbooted, h⟩ := except_bind_eq_ok_iff.mp h
  obtain rfl := Except.ok.inj h
  refine ⟨rfl, fun hkey => ?_, List.nil_subset _⟩
  obtain ⟨key, rfl⟩ := Option.ne_none_iff_exists'.mp hkey
  exact sound_boot (except_mapError_eq_ok_iff.mp hbooted) (fun t ht => by cases ht)
    fun id hid => .inl hid

theorem Upheld.endRevocation (hs : Upheld loaded tokens s) {i : Nat} {x : RevokeInput}
    (hsound : s.key ≠ none → Sound loaded (s.endRevocation i x).2) :
    Upheld loaded tokens (s.endRevocation i x).2 := by
  have hkept : (s.endRevocation i x).2.running = s.running ∧
      (s.endRevocation i x).2.key = s.key ∧ (s.endRevocation i x).2.begun = s.begun := by
    rw [AuthServer.endRevocation]
    split <;> exact ⟨rfl, rfl, rfl⟩
  obtain ⟨hrunning, hkey, hbegun⟩ := hkept
  exact ⟨hrunning.trans hs.running, fun h => hsound (hkey ▸ h), hbegun ▸ hs.begun⟩

theorem Upheld.revokeToken (hs : Upheld loaded tokens s) {req : AuthRequest} {now : Nat}
    {text : String} {iter : HashSetIter}
    (hp : s.Presents reader tokens (.revoke req now text iter)) :
    Upheld loaded tokens (s.revokeToken reader text iter).2 := by
  rw [AuthServer.revokeToken]
  cases hkey : s.key with
  | none => exact hs
  | some key =>
    cases htoken : reader.fromBase64 text key with
    | none => simpa only [htoken] using hs
    | some token =>
      have hupdate := (hs.sound (by simp [hkey])).update token iter
      rw [hkey] at hupdate
      simp only [htoken]
      refine ⟨hs.running, fun _ => hupdate, ?_⟩
      exact List.cons_subset.mpr ⟨(hp key hkey).2 req now text iter token rfl htoken, hs.begun⟩

/-- A node that is started again has all it needs on file. -/
theorem exists_boot (hs : Upheld loaded tokens s) :
    ∃ s', boot s.key s.revocations.file s.begun s.acknowledged = .ok s' ∧
      Upheld loaded tokens s' := by
  cases hkey : s.key with
  | none => exact ⟨_, rfl, rfl, fun h => absurd rfl h, hs.begun⟩
  | some key =>
    have hsound := hs.sound (by simp [hkey])
    obtain ⟨booted, hload⟩ := hsound.loadable
    refine ⟨⟨some key, true, .start s.revocations.file booted, [], s.begun, s.acknowledged⟩,
      ?_, rfl, fun _ => ?_, hs.begun⟩
    · rw [boot, startDaemon, hload]
      rfl
    · exact sound_boot hload hsound.acknowledged fun id hid =>
        hsound.revoked id (hsound.onFile id ⟨booted, hload, hid⟩)

theorem Upheld.step (hs : Upheld loaded tokens s) {x : AuthInput} (horder : s.InOrder x)
    (hp : s.Presents reader tokens x) : Upheld loaded tokens (s.step reader x).2 := by
  rw [AuthServer.step, if_pos hs.running]
  cases x with
  | request req now => exact hs
  | revoke req now text iter =>
    rw [serve]
    cases s.decision reader req now with
    | error status => exact hs
    | ok _ => exact hs.revokeToken hp
  | replace i => exact hs.endRevocation fun h => (hs.sound h).replace horder
  | fail i message => exact hs.endRevocation fun h => (hs.sound h).fail i message
  | restart =>
    obtain ⟨s', hboot, hs'⟩ := exists_boot hs
    simpa only [serve, hboot] using hs'

/-! ### What a step answers -/

theorem decision_of_token {key : RootKey} {req : AuthRequest} {now : Nat} {u : AuthToken}
    (hkey : s.key = some key) (hu : req.token reader.fromBase64 key = some u) :
    s.decision reader req now = checkToken s.revocations.revoked now req.path u := by
  rw [decision, authState, conditionalAuthMiddleware]
  simp only [hkey, hu]

theorem checkToken_of_isTokenRevoked {revoked : Finset (List UInt8)} {now : Nat} {op : String}
    {u : AuthToken} (h : isTokenRevoked revoked u = true) :
    checkToken revoked now op u = .error .unauthorized := if_pos h

/-- The set makes no difference to a token none of whose ids is in it. -/
theorem checkToken_congr {revoked : Finset (List UInt8)} {now : Nat} {op : String} {u : AuthToken}
    (h : ∀ id ∈ u.revocationIdentifiers, id ∉ revoked) :
    checkToken revoked now op u = checkToken ∅ now op u := by
  have hrevoked : isTokenRevoked revoked u = false := by
    rw [← Bool.not_eq_true, isTokenRevoked_eq_true_iff]
    rintro ⟨id, hid, hmem⟩
    exact h id hid hmem
  have hempty : isTokenRevoked ∅ u = false := by
    rw [← Bool.not_eq_true, isTokenRevoked_eq_true_iff]
    rintro ⟨id, -, hmem⟩
    cases hmem
  rw [checkToken, checkToken, hrevoked, hempty]

theorem Sound.isTokenRevoked (hs : Sound loaded s) {t u : AuthToken} (ht : t ∈ s.acknowledged)
    (horigin : t.origin = u.origin) : isTokenRevoked s.revocations.revoked u = true := by
  have hid : u.authority.revocationId ∈ t.revocationIdentifiers := by
    obtain ⟨-, hauth : t.authority = u.authority, -⟩ := Token.mk.inj horigin
    rw [← hauth]
    exact Token.authority_id_mem t
  exact isTokenRevoked_eq_true_iff.mpr ⟨_, Token.authority_id_mem u,
    hs.onFile _ (hs.acknowledged t ht _ hid)⟩

/-- An id of the set is one of a token that stems from another issued one. -/
theorem Sound.not_mem_revoked (hs : Sound loaded s) (hminted : Token.Minted tokens)
    (hbegun : s.begun ⊆ tokens) {u : AuthToken} (hu : u ∈ tokens)
    (horigin : ∀ t ∈ s.begun, t.origin ≠ u.origin)
    (hloaded : ∀ id ∈ u.revocationIdentifiers, id ∉ loaded) :
    ∀ id ∈ u.revocationIdentifiers, id ∉ s.revocations.revoked := by
  intro id hid hmem
  obtain hmem | ⟨t, ht, hid'⟩ := hs.revoked id hmem
  · exact hloaded id hid hmem
  · exact horigin t ht (hminted.origin_eq t (hbegun ht) u hu id hid' hid)

theorem step_of_refused (hs : Upheld loaded tokens s) {x : AuthInput} {req : AuthRequest}
    {now : Nat} {status : StatusCode} (hx : x.request? = some (req, now))
    (h : s.decision reader req now = .error status) :
    (s.step reader x).1 = .decided (.error status) := by
  rw [AuthServer.step, if_pos hs.running]
  cases x with
  | request req' now' =>
    obtain ⟨rfl, rfl⟩ := Prod.mk.inj (Option.some.inj hx)
    rw [serve, h]
  | revoke req' now' text iter =>
    obtain ⟨rfl, rfl⟩ := Prod.mk.inj (Option.some.inj hx)
    rw [serve, h]
  | replace i => cases hx
  | fail i message => cases hx
  | restart => cases hx

theorem not_notStarted (hs : Upheld loaded tokens s) (x : AuthInput) (e : StartError) :
    (s.step reader x).1 ≠ .notStarted e := by
  rw [AuthServer.step, if_pos hs.running]
  cases x with
  | request req now => exact nofun
  | revoke req now text iter =>
    rw [serve, AuthServer.revokeToken]
    repeat' split
    all_goals exact nofun
  | replace i =>
    rw [serve, AuthServer.endRevocation]
    split <;> exact nofun
  | fail i message =>
    rw [serve, AuthServer.endRevocation]
    split <;> exact nofun
  | restart =>
    obtain ⟨s', hboot, -⟩ := exists_boot hs
    simp [serve, hboot]

theorem decides (hminted : Token.Minted tokens) (hs : Upheld loaded tokens s) {x : AuthInput}
    (hp : s.Presents reader tokens x) : Decides reader loaded s x where
  starts := not_notStarted hs x
  refuses key req now u hkey hx hu hrevoked := by
    obtain ⟨t, ht, horigin⟩ := hrevoked
    have hsound := hs.sound (by simp [hkey])
    refine step_of_refused hs hx ?_
    rw [decision_of_token hkey hu]
    exact checkToken_of_isTokenRevoked (hsound.isTokenRevoked ht horigin)
  spares key req now u hkey hx hu hbegun hloaded := by
    subst hx
    have hsound := hs.sound (by simp [hkey])
    have hmem := (hp key hkey).1 req now u rfl hu
    rw [AuthServer.step, if_pos hs.running, serve, decision_of_token hkey hu,
      checkToken_congr (hsound.not_mem_revoked hminted hs.begun hmem hbegun hloaded)]
  unguarded hkey req now hx := by
    subst hx
    rw [AuthServer.step, if_pos hs.running, serve, decision, authState, conditionalAuthMiddleware,
      hkey]

/-- In every run of requests, revocations and restarts in which the file is
replaced in order, what was revoked stays revoked, and nothing else is. -/
theorem decides_run (reader : TokenReader) {args : AuthArgs} {file : Option (List Char)}
    (hstart : start reader args file = .ok s) (hminted : Token.Minted tokens) (xs : List AuthInput)
    (hpresents : Mealy.Along (step reader) (Presents reader tokens) s xs)
    (horder : Mealy.Along (step reader) InOrder s xs) :
    Mealy.Along (step reader) (Decides reader s.revocations.revoked) s xs :=
  Mealy.along_of_invariant (I := Upheld s.revocations.revoked tokens)
    (C := fun s x => s.Presents reader tokens x ∧ s.InOrder x)
    (fun _ _ hs hx => hs.step hx.2 hx.1) (fun _ _ hs hx => decides hminted hs hx.1)
    (upheld_start hstart) (Mealy.along_and.mpr ⟨hpresents, horder⟩)

/-- An administrator's token. -/
def adminToken : AuthToken := ⟨⟨["admin"], []⟩, ⟨[4], [], by simp⟩, []⟩

def adminAndUser : TokenReader where
  fromBytes bytes := some ⟨bytes⟩
  fromBase64 text _ :=
    if text = "user" then some nodeinfoToken
    else if text = "admin" then some adminToken
    else none

theorem mem_of_adminAndUser {text : String} {key : RootKey} {u : AuthToken}
    (h : adminAndUser.fromBase64 text key = some u) : u ∈ [nodeinfoToken, adminToken] := by
  rw [adminAndUser] at h
  dsimp only at h
  split_ifs at h
  · exact Option.some.inj h ▸ List.mem_cons_self
  · exact Option.some.inj h ▸ List.mem_cons_of_mem _ List.mem_cons_self

theorem presents_adminAndUser (s : AuthServer) (x : AuthInput) :
    s.Presents adminAndUser [nodeinfoToken, adminToken] x := by
  refine fun key _ => ⟨fun req now u _ hu => ?_, fun _ _ _ _ u _ hu => mem_of_adminAndUser hu⟩
  obtain ⟨text, -, hu⟩ := Option.bind_eq_some_iff.mp hu
  exact mem_of_adminAndUser hu

theorem minted_adminAndUser : Token.Minted [nodeinfoToken, adminToken] := by
  refine .issue nodeinfoToken (.issue adminToken .nil rfl fun u hu => ?_) rfl fun u hu => ?_
  · cases hu
  · obtain rfl := List.mem_singleton.mp hu
    decide

/-- The user's token is revoked, and the node is started again. -/
noncomputable def revokedUser : List AuthInput :=
  [.revoke ⟨some "Bearer admin", "/revoketoken"⟩ 50 "user" RevocationState.anyOrder, .replace 0,
    .restart, .request ⟨some "Bearer user", "/nodeinfo"⟩ 50]

theorem start_adminAndUser :
    start adminAndUser ⟨false, some (hexStr (List.replicate 32 0))⟩ none =
      .ok ⟨some ⟨Vector.replicate 32 0⟩, true, .start none ∅, [], [], []⟩ := by
  have hkey : checkRootKey adminAndUser (hexStr (List.replicate 32 0)) =
      .ok ⟨Vector.replicate 32 0⟩ := by
    decide +kernel
  rw [start, checkAuthArgs]
  simp only [hkey]
  rfl

theorem written_revoke (s : AuthServer) (req : AuthRequest) (now : Nat) (text : String)
    (iter : HashSetIter) :
    (s.step reader (.revoke req now text iter)).2.revocations.written = s.revocations.written := by
  rw [AuthServer.step, serve, AuthServer.revokeToken]
  repeat' split
  all_goals rfl

theorem decides_revokedUser :
    Mealy.Along (step adminAndUser) (Decides adminAndUser ∅)
      ⟨some ⟨Vector.replicate 32 0⟩, true, .start none ∅, [], [], []⟩ revokedUser := by
  have hpresents := presents_adminAndUser
  refine decides_run adminAndUser start_adminAndUser minted_adminAndUser revokedUser
    ⟨hpresents _ _, hpresents _ _, hpresents _ _, hpresents _ _, trivial⟩
    ⟨trivial, fun call _ => ?_, trivial, trivial, trivial⟩
  rw [written_revoke]
  refine ⟨fun id hid => ?_, List.not_mem_nil⟩
  cases hid

end AuthServer

end RgbLightningNode
