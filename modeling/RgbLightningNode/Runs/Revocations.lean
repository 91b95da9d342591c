import RgbLightningNode.Auth.RevokedTokens

/-!
# Revocations over time

Any number of revocations run side by side. Each updates the set and writes it
down in one step, and replaces the file, or fails to, in another.
-/

namespace RgbLightningNode

/-- A revocation that has updated the set: the ids it went through when it wrote
the set down, and the text it has for the file. -/
structure RevokeCall where
  listed : List (List UInt8)
  fileBody : List Char
  fileBody_eq : fileBody = revokedFileBody listed

/-- What a revocation does under the lock. -/
def lockedUpdate (iter : HashSetIter) (revoked : Finset (List UInt8)) (token : AuthToken) :
    RevokeCall × Finset (List UInt8) :=
  let updated := insertRevocationIds revoked token
  (⟨iter.toList updated, revokedFileBody (iter.toList updated), rfl⟩, updated)

structure RevocationState where
  revoked : Finset (List UInt8)
  file : Option (List Char)
  /-- The revocations that have not replaced the file yet. -/
  pending : List RevokeCall
  -- what has happened so far, which the node does not look at
  tokens : List AuthToken
  failed : Bool
  /-- The ids that were listed for the text on file. -/
  written : Finset (List UInt8)

inductive RevokeInput where
  | update (token : AuthToken) (iter : HashSetIter)
  /-- One of the pending revocations replaces the file and answers. -/
  | replace (i : Nat)
  /-- The temporary file could not be made, written or put in place. -/
  | fail (i : Nat) (message : String)

namespace RevocationState

/-- A node that has loaded these ids from this file. -/
def start (file : Option (List Char)) (loaded : Finset (List UInt8)) : RevocationState :=
  ⟨loaded, file, [], [], false, loaded⟩

/-- One step, and the answer of the revocation that ends with it. -/
def step (s : RevocationState) : RevokeInput → Option (Except APIError Unit) × RevocationState
  | .update token iter =>
    let (call, revoked) := lockedUpdate iter s.revoked token
    (none, { s with
      revoked := revoked, pending := s.pending ++ [call], tokens := token :: s.tokens })
  | .replace i =>
    match s.pending[i]? with
    | none => (none, s)
    | some call =>
      (some (.ok ()), { s with
        file := some call.fileBody, pending := s.pending.eraseIdx i
        written := call.listed.toFinset })
  | .fail i message =>
    match s.pending[i]? with
    | none => (none, s)
    | some _ =>
      (some (.error (.io message)), { s with pending := s.pending.eraseIdx i, failed := true })

/-! ### What is claimed of a run, and when it holds -/

/-- The ids the node has to know: those from the start and those of all tokens
that were revoked. -/
def Known (loaded : Finset (List UInt8)) (s : RevocationState) (id : List UInt8) : Prop :=
  id ∈ loaded ∨ ∃ token ∈ s.tokens, id ∈ token.revocationIdentifiers

/-- A step takes no id from the set or the file. Once every revocation has
answered that it is done, both have all the ids. -/
structure Durable (loaded : Finset (List UInt8)) (s : RevocationState) (x : RevokeInput) :
    Prop where
  keepsSet : ∀ id ∈ s.revoked, id ∈ (s.step x).2.revoked
  keepsFile : ∀ id, OnFile s.file id → OnFile (s.step x).2.file id
  atRest : (s.step x).2.pending = [] → (s.step x).2.failed = false →
    ∀ id, Known loaded (s.step x).2 id →
      id ∈ (s.step x).2.revoked ∧ OnFile (s.step x).2.file id

/-- The request that replaces the file has listed every id that was listed for the text on
file, and none of these is empty. -/
def InOrder (s : RevocationState) : RevokeInput → Prop
  | .replace i => ∀ call, s.pending[i]? = some call →
      (∀ id ∈ s.written, id ∈ call.listed) ∧ [] ∉ s.written
  | _ => True

/-- Every pending revocation has listed ids of the set, and what is not on file
is still to be written by one of them, unless one has failed. -/
structure Inv (loaded : Finset (List UInt8)) (s : RevocationState) : Prop where
  known : ∀ id, Known loaded s id → id ∈ s.revoked
  listed : ∀ call ∈ s.pending, ∀ id ∈ call.listed, id ∈ s.revoked
  onFile : ∀ id, OnFile s.file id ↔ id ∈ s.written
  empty : [] ∈ s.revoked → [] ∈ s.written
  reached : s.failed = false → ∀ id ∈ s.revoked,
    id ∈ s.written ∨ ∃ call ∈ s.pending, id ∈ call.listed

variable {loaded : Finset (List UInt8)} {s : RevocationState}

theorem inv_start {file : Option (List Char)} (h : loadRevokedTokens file = .ok loaded) :
    Inv loaded (start file loaded) where
  known := by
    rintro id (hid | ⟨token, htoken, -⟩)
    · exact hid
    · cases htoken
  listed := by
    intro call hcall
    cases hcall
  onFile := by
    intro id
    constructor
    · rintro ⟨revoked, hload, hid⟩
      obtain rfl := Except.ok.inj (h.symm.trans hload)
      exact hid
    · exact fun hid => ⟨loaded, h, hid⟩
  empty := id
  reached := fun _ _ hid => .inl hid

/-- Once nothing is pending and nothing has failed, all the ids are on file. -/
theorem Inv.atRest (hs : Inv loaded s) (hpending : s.pending = []) (hfailed : s.failed = false) :
    ∀ id, Known loaded s id → id ∈ s.revoked ∧ OnFile s.file id := by
  intro id hid
  have hrevoked := hs.known id hid
  refine ⟨hrevoked, (hs.onFile id).mpr ?_⟩
  obtain hwritten | ⟨call, hcall, -⟩ := hs.reached hfailed id hrevoked
  · exact hwritten
  · rw [hpending] at hcall
    cases hcall

theorem mem_of_getElem?_eraseIdx {calls : List RevokeCall} {i : Nat} {call other : RevokeCall}
    (h : calls[i]? = some call) (hother : other ∈ calls) :
    other = call ∨ other ∈ calls.eraseIdx i := by
  have hperm := List.getElem_cons_eraseIdx_perm (List.getElem?_eq_some_iff.mp h).1
  have := hperm.mem_iff.mpr hother
  rwa [(List.getElem?_eq_some_iff.mp h).2, List.mem_cons] at this

theorem Inv.update (hs : Inv loaded s) (token : AuthToken) (iter : HashSetIter) :
    Inv loaded (s.step (.update token iter)).2 where
  known := by
    rintro id hid
    refine mem_insertRevocationIds.mpr ?_
    obtain hid | ⟨t, ht, hid⟩ := hid
    · exact .inl (hs.known id (.inl hid))
    · obtain rfl | ht := List.mem_cons.mp ht
      · exact .inr hid
      · exact .inl (hs.known id (.inr ⟨t, ht, hid⟩))
  listed := by
    intro call hcall id hid
    obtain hcall | hcall := List.mem_append.mp hcall
    · exact mem_insertRevocationIds.mpr (.inl (hs.listed call hcall id hid))
    · obtain rfl := List.mem_singleton.mp hcall
      exact (iter.mem_toList _ id).mp hid
  onFile := hs.onFile
  empty := by
    intro h
    obtain h | h := mem_insertRevocationIds.mp h
    · exact hs.empty h
    · exact absurd rfl (Biscuit.Token.ne_nil_of_mem h)
  reached := fun _ id hid =>
    .inr ⟨_, List.mem_append_right _ (List.mem_singleton_self _), (iter.mem_toList _ id).mpr hid⟩

theorem Inv.replace (hs : Inv loaded s) {i : Nat} (horder : InOrder s (.replace i)) :
    Inv loaded (s.step (.replace i)).2 := by
  rw [step]
  cases hcall : s.pending[i]? with
  | none => exact hs
  | some call =>
    obtain ⟨hsub, hempty⟩ := horder call hcall
    have hmem := List.mem_of_getElem? hcall
    exact {
      known := hs.known
      listed := fun c hc => hs.listed c (List.mem_of_mem_eraseIdx hc)
      onFile := fun id => by
        show OnFile (some call.fileBody) id ↔ id ∈ call.listed.toFinset
        rw [call.fileBody_eq, onFile_revokedFileBody_iff, List.mem_toFinset]
        refine and_iff_left_of_imp fun hid hnil => ?_
        rw [hnil] at hid
        exact hempty (hs.empty (hs.listed call hmem _ hid))
      empty := fun h => absurd (hs.empty h) hempty
      reached := fun hfailed id hid => by
        show id ∈ call.listed.toFinset ∨ ∃ c ∈ s.pending.eraseIdx i, id ∈ c.listed
        rw [List.mem_toFinset]
        obtain hwritten | ⟨c, hc, hlisted⟩ := hs.reached hfailed id hid
        · exact .inl (hsub id hwritten)
        · obtain rfl | hc := mem_of_getElem?_eraseIdx hcall hc
          · exact .inl hlisted
          · exact .inr ⟨c, hc, hlisted⟩ }

theorem Inv.fail (hs : Inv loaded s) (i : Nat) (message : String) :
    Inv loaded (s.step (.fail i message)).2 := by
  rw [step]
  cases hcall : s.pending[i]? with
  | none => exact hs
  | some call =>
    exact {
      known := hs.known
      listed := fun c hc => hs.listed c (List.mem_of_mem_eraseIdx hc)
      onFile := hs.onFile
      empty := hs.empty
      reached := fun hfailed => by cases hfailed }

theorem Inv.step (hs : Inv loaded s) {x : RevokeInput} (horder : InOrder s x) :
    Inv loaded (s.step x).2 := by
  cases x with
  | update token iter => exact hs.update token iter
  | replace i => exact hs.replace horder
  | fail i message => exact hs.fail i message

theorem mem_revoked_step {id : List UInt8} (hid : id ∈ s.revoked) (x : RevokeInput) :
    id ∈ (s.step x).2.revoked := by
  cases x with
  | update token iter => exact mem_insertRevocationIds.mpr (.inl hid)
  | replace i =>
    rw [RevocationState.step]
    cases s.pending[i]? <;> exact hid
  | fail i message =>
    rw [RevocationState.step]
    cases s.pending[i]? <;> exact hid

/-- A replacement takes no id from the file if and only if it is in order. -/
theorem keepsFile_iff (hs : Inv loaded s) (x : RevokeInput) :
    (∀ id, OnFile s.file id → OnFile (s.step x).2.file id) ↔ InOrder s x := by
  cases x with
  | update token iter => exact iff_of_true (fun _ h => h) trivial
  | fail i message =>
    refine iff_of_true (fun id h => ?_) trivial
    rw [RevocationState.step]
    cases s.pending[i]? <;> exact h
  | replace i =>
    rw [RevocationState.step, InOrder]
    cases hcall : s.pending[i]? with
    | none => exact iff_of_true (fun _ h => h) fun call h => by cases h
    | some call =>
      simp only [Option.some.injEq, forall_eq', call.fileBody_eq, onFile_revokedFileBody_iff,
        hs.onFile]
      constructor
      · exact fun h => ⟨fun id hid => (h id hid).1, fun hnil => (h [] hnil).2 rfl⟩
      · rintro ⟨hsub, hempty⟩ id hid
        refine ⟨hsub id hid, ?_⟩
        rintro rfl
        exact hempty hid

theorem durable_iff_inOrder (hs : Inv loaded s) (x : RevokeInput) :
    Durable loaded s x ↔ InOrder s x := by
  constructor
  · exact fun h => (keepsFile_iff hs x).mp h.keepsFile
  · intro h
    exact ⟨fun id hid => mem_revoked_step hid x, (keepsFile_iff hs x).mpr h, (hs.step h).atRest⟩

/-- Revocations are durable in a run of any number of calls if and only if the
file is replaced in order. -/
theorem durable_run_iff_inOrder {file : Option (List Char)}
    (hfile : loadRevokedTokens file = .ok loaded) (xs : List RevokeInput) :
    Mealy.Along step (Durable loaded) (start file loaded) xs ↔
      Mealy.Along step InOrder (start file loaded) xs :=
  Mealy.along_iff_of_invariant (fun _ x hs => durable_iff_inOrder hs x)
    (fun _ _ hs hx => hs.step hx) (inv_start hfile)

/-- Some order to go through a set in. -/
noncomputable def anyOrder : HashSetIter :=
  ⟨Finset.toList, fun s => s.nodup_toList, fun _ _ => Finset.mem_toList⟩

/-- Two revocations, and their replacements of the file in this order. -/
noncomputable def twoRevocations (first second : Nat) : List RevokeInput :=
  [.update nodeinfoToken anyOrder, .update operationToken anyOrder, .replace first,
    .replace second]

theorem durable_of_second_last :
    Mealy.Along step (Durable ∅) (start none ∅) (twoRevocations 0 0) := by
  refine (durable_run_iff_inOrder rfl _).mpr ⟨trivial, trivial, ?_, ?_, trivial⟩
  · intro call _
    refine ⟨fun id hid => ?_, List.not_mem_nil⟩
    cases hid
  · intro call hcall
    obtain rfl := Option.some.inj hcall
    constructor
    · intro id hid
      have hid : id ∈ insertRevocationIds ∅ nodeinfoToken :=
        (anyOrder.mem_toList _ id).mp (List.mem_toFinset.mp hid)
      exact (anyOrder.mem_toList _ id).mpr (mem_insertRevocationIds.mpr (.inl hid))
    · intro hid
      have hid : [] ∈ insertRevocationIds ∅ nodeinfoToken :=
        (anyOrder.mem_toList _ []).mp (List.mem_toFinset.mp hid)
      exact absurd hid (by decide)

/-- The call that updated the set first replaces the file last: both have
answered that they are done, and the second token is valid again after a restart. -/
theorem loses_revocation :
    ¬∀ (file : Option (List Char)) (loaded : Finset (List UInt8)),
      loadRevokedTokens file = .ok loaded → ∀ xs : List RevokeInput,
        Mealy.Along step (Durable loaded) (start file loaded) xs := by
  intro h
  obtain ⟨-, -, -, hlast, -⟩ := h none ∅ rfl (twoRevocations 1 0)
  have htoken : operationToken ∈ [operationToken, nodeinfoToken] := List.mem_cons_self
  obtain ⟨-, hfile⟩ := hlast.atRest rfl rfl [3] (.inr ⟨operationToken, htoken, by decide⟩)
  obtain ⟨hlisted, -⟩ := onFile_revokedFileBody_iff.mp hfile
  have : [3] ∈ insertRevocationIds ∅ nodeinfoToken := (anyOrder.mem_toList _ [3]).mp hlisted
  exact absurd this (by decide)

end RevocationState

end RgbLightningNode
