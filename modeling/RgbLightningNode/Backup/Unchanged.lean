import RgbLightningNode.Backup.Backup

/-!
# What a backup changes

The temporary directory is removed when a backup ends, with or without success. The
backup file stays, and the directories that were missing above it.
-/

namespace RgbLightningNode

open Fallible FileTree PathStep

/-- The directories a path needs that are not there. -/
def newDirs (t : NodeDisk) (cwd : List OsName) (path : List Char) : List (List OsName) :=
  match getParentPath path with
  | some parent => t.missingDirs (pathBase cwd path) parent
  | none => []

/-- Where a path leads to. -/
def fileOf (cwd : List OsName) (path : List Char) : List OsName :=
  leadsTo (pathBase cwd path) (pathSteps path)

variable {t : NodeDisk} {cwd : List OsName} {path : List Char}

/-- The way to the parent directory is a part of the way. -/
theorem pathSteps_of_getParentPath {parent : List (PathStep OsName)}
    (h : getParentPath path = some parent) :
    parent = [] ∨ ∃ step rest, pathSteps path = parent ++ step :: rest := by
  unfold getParentPath at h
  split at h
  · rename_i step steps hdrop
    right
    refine ⟨step, ((pathSteps path).reverse.takeWhile (· = .here)).reverse, ?_⟩
    have hsplit := List.takeWhile_append_dropWhile (p := (· = PathStep.here))
      (l := (pathSteps path).reverse)
    rw [hdrop] at hsplit
    obtain rfl := Option.some.inj h
    calc pathSteps path = (pathSteps path).reverse.reverse := (List.reverse_reverse _).symm
      _ = ((pathSteps path).reverse.takeWhile (· = .here) ++ step :: steps).reverse := by
        rw [hsplit]
      _ = _ := by simp
  · left
    split at h
    · cases h
    · cases h
    · exact (Option.some.inj h).symm

/-- A path to something that is there needs no new directories. -/
theorem newDirs_of_pathExists (h : pathExists t cwd path = true) : newDirs t cwd path = [] := by
  unfold newDirs
  cases hparent : getParentPath path with
  | none => rfl
  | some parent =>
    obtain rfl | ⟨step, rest, hsteps⟩ := pathSteps_of_getParentPath hparent
    · rfl
    · obtain ⟨-, hfollow⟩ := Bool.and_eq_true_iff.mp h
      split at hfollow
      · rename_i p hp
        rw [hsteps, List.append_cons] at hp
        obtain ⟨q, hq⟩ := follow_of_append hp
        exact (missingDirs_of_follow hq).1
      · cases hfollow

theorem after_removing {α : Type} (tempdir : List OsName)
    (x : Fallible (Exit APIError) NodeDisk α) (t : NodeDisk) :
    after (removing tempdir x) t = (after x t).removeAll tempdir := by
  unfold after removing
  cases x t <;> rfl

/-- What a program leaves behind that runs with a temporary directory. -/
theorem after_inTempDir {α : Type} {tempName : List Char}
    {body : List OsName → Fallible (Exit APIError) NodeDisk α} {Q : NodeDisk → Prop}
    (hmade : Q (t.withDirs (newDirs t cwd path)))
    (hbody : ∀ parent, getParentPath path = some parent →
      t.withDirs (newDirs t cwd path)
        (leadsTo (pathBase cwd path) parent ++ [.text tempName]) = none →
      Q ((after (body (leadsTo (pathBase cwd path) parent ++ [.text tempName]))
        ((t.withDirs (newDirs t cwd path)).put
          (leadsTo (pathBase cwd path) parent ++ [.text tempName]) .dir)).removeAll
            (leadsTo (pathBase cwd path) parent ++ [.text tempName]))) :
    Q (after (inTempDir cwd path tempName body) t) := by
  unfold newDirs at hmade hbody
  rw [inTempDir]
  cases hparent : getParentPath path with
  | none =>
    rw [after_bind_of_error (expect_none _ t)]
    rwa [hparent, withDirs_nil] at hmade
  | some parent =>
    rw [after_bind_of_ok (expect_some parent _ t)]
    have hdirs := createDirAll_apply fileInWay t (pathBase cwd path) parent
    simp only [hparent] at hmade hbody
    cases hblocked : t.blocked (pathBase cwd path) parent with
    | true =>
      rw [hblocked, if_pos rfl] at hdirs
      rwa [after_bind_of_error hdirs]
    | false =>
      rw [hblocked, if_neg (by decide)] at hdirs
      rw [after_bind_of_ok hdirs, after_bind_of_ok (get_apply _)]
      cases htaken : (t.withDirs (t.missingDirs (pathBase cwd path) parent)
          (leadsTo (pathBase cwd path) parent ++ [.text tempName])).isNone with
      | false => rwa [after_bind_of_error (by rw [ensure_apply]; rfl)]
      | true =>
        rw [after_bind_of_ok (by rw [ensure_apply]; rfl), after_bind_of_ok (modify_apply _ _),
          after_removing]
        exact hbody parent rfl (Option.isNone_iff_eq_none.mp htaken)

theorem newFile_eq_ok {p : List OsName} (h : newFile t cwd path = .ok p) :
    p = fileOf cwd path ∧ ∃ names name, pathSteps path = names ++ [.into name] := by
  unfold newFile at h
  split at h
  · rename_i name hlast
    split at h
    · rename_i q hq
      rw [← Except.ok.inj h]
      exact ⟨leadsTo_of_follow hq, List.getLast?_eq_some_iff.mp hlast |>.imp fun names hn =>
        ⟨_, hn⟩⟩
    · cases h
  · cases h

/-- Outside a temporary directory nothing is changed but one file. -/
def TouchesOnly (t : NodeDisk) (tempdir file : List OsName) (t' : NodeDisk) : Prop :=
  ∀ p, ¬tempdir <+: p →
    t' p = t p ∨ p = file ∧ t p ≠ some .dir ∧ ∃ content, t' p = some (.file content)

section Body

variable {tempdir file : List OsName}

theorem touchesOnly_writeFile_temp {p : List OsName} (hp : tempdir <+: p)
    (bytes : NodeDisk → Except (Exit APIError) (List UInt8)) :
    Preserves (TouchesOnly t tempdir file) (writeFile p bytes) := by
  intro s hs
  obtain hsame | ⟨-, -, content, hwritten⟩ := after_writeFile p bytes s
  · rwa [hsame]
  · rw [hwritten]
    intro q hq
    have hne : q ≠ p := by
      rintro rfl
      exact hq hp
    rw [put_of_ne _ _ hne]
    exact hs q hq

theorem touchesOnly_writeFile_file (bytes : NodeDisk → Except (Exit APIError) (List UInt8)) :
    Preserves (TouchesOnly t tempdir file) (writeFile file bytes) := by
  intro s hs
  obtain hsame | ⟨hdir, -, content, hwritten⟩ := after_writeFile file bytes s
  · rwa [hsame]
  · rw [hwritten]
    intro q hq
    by_cases hqf : q = file
    · subst hqf
      refine .inr ⟨rfl, ?_, content, put_self ..⟩
      obtain hsame | ⟨-, hno, -⟩ := hs q hq
      · rwa [← hsame]
      · exact hno
    · rw [put_of_ne _ _ hqf]
      exact hs q hq

theorem preserves_readFile {P : NodeDisk → Prop} (p : List OsName) : Preserves P (readFile p) := by
  refine .bind .get fun t => ?_
  split
  · exact .pure _
  · exact fun _ h => h
  · exact fun _ h => h

theorem touchesOnly_encryptFile (tools : BackupTools) {p q : List OsName} (hp : tempdir <+: p)
    (hq : tempdir <+: q) (password salt nonce : String) :
    Preserves (TouchesOnly t tempdir file) (encryptFile tools p q password salt nonce) := by
  refine .bind (.attempt _) fun _ => .bind (preserves_readFile p) fun _ =>
    .bind (touchesOnly_writeFile_temp hq _) fun _ => .modify fun s hs r hr => ?_
  have hne : r ≠ p := by
    rintro rfl
    exact hr hp
  rw [remove_of_ne _ hne]
  exact hs r hr

theorem touchesOnly_backupIn (tools : BackupTools) (draws : BackupDraws)
    (walletDir : List OsName) (path : List Char) (password : String) :
    Preserves (TouchesOnly t tempdir (fileOf tools.cwd path))
      (backupIn tools draws walletDir path password tempdir) := by
  have hin : ∀ name, tempdir <+: tempdir ++ [name] := fun name => List.prefix_append ..
  refine .bind (touchesOnly_writeFile_temp (hin _) _) fun _ =>
    .bind (touchesOnly_encryptFile tools (hin _) (hin _) _ _ _) fun _ =>
    .bind (touchesOnly_writeFile_temp (hin _) _) fun _ =>
    .bind (touchesOnly_writeFile_temp (hin _) _) fun _ =>
    .bind (touchesOnly_writeFile_temp (hin _) _) fun _ => .bind .get fun s => ?_
  cases hnew : newFile s tools.cwd path with
  | error e => exact fun _ h => h
  | ok p =>
    rw [(newFile_eq_ok hnew).1]
    intro s' hs'
    rw [after_bind_of_ok (attempt_ok _ s')]
    exact touchesOnly_writeFile_file _ s' hs'

end Body

theorem wellFormed_newDirs (ht : t.WellFormed) (hcwd : t (pathBase cwd path) = some .dir) :
    (t.withDirs (newDirs t cwd path)).WellFormed := by
  unfold newDirs
  split
  · exact wellFormed_withDirs ht hcwd _
  · rwa [withDirs_nil]

/-- What a backup leaves behind: nothing has changed but the new directories, and
the backup file if it has been begun. -/
theorem after_doBackup (tools : BackupTools) (draws : BackupDraws) (walletDir : List OsName)
    (path : List Char) (password : String) (ht : t.WellFormed)
    (hcwd : t (pathBase tools.cwd path) = some .dir) (p : List OsName) :
    after (doBackup tools draws walletDir path password) t p =
        t.withDirs (newDirs t tools.cwd path) p ∨
      p = fileOf tools.cwd path ∧ t.withDirs (newDirs t tools.cwd path) p ≠ some .dir ∧
        ∃ content, after (doBackup tools draws walletDir path password) t p =
          some (.file content) := by
  rw [doBackup, after_bind_of_ok (get_apply t)]
  cases hexists : pathExists t tools.cwd path with
  | true =>
    rw [after_bind_of_error (by rw [ensure_apply]; rfl), newDirs_of_pathExists hexists,
      withDirs_nil]
    exact .inl rfl
  | false =>
    rw [after_bind_of_ok (by rw [ensure_apply]; rfl)]
    refine after_inTempDir (Q := fun t' => t' p = t.withDirs (newDirs t tools.cwd path) p ∨
      p = fileOf tools.cwd path ∧ t.withDirs (newDirs t tools.cwd path) p ≠ some .dir ∧
        ∃ content, t' p = some (.file content)) (.inl rfl) fun parent hparent hfree => ?_
    generalize htemp : leadsTo (pathBase tools.cwd path) parent ++ [.text draws.tempName] =
      tempdir at hfree
    by_cases hp : tempdir <+: p
    · -- nothing was there, and nothing is left
      left
      rw [removeAll_of_below _ hp]
      by_contra hsome
      have hbelow := (wellFormed_newDirs ht hcwd).isSome_of_above hp
        (Option.isSome_iff_ne_none.mpr (Ne.symm hsome))
      rw [hfree] at hbelow
      cases hbelow
    · simp only [removeAll_of_not_below _ hp]
      refine touchesOnly_backupIn tools draws walletDir path password _ (fun q hq => .inl ?_) p hp
      refine put_of_ne _ _ ?_
      rintro rfl
      exact hq (List.prefix_refl _)

/-- The wallet directory is as it was, apart from the backup file. -/
def Unchanged (cwd : List OsName) (path : List Char) (walletDir : List OsName)
    (t t' : NodeDisk) : Prop :=
  ∀ p, t' (walletDir ++ p) = t (walletDir ++ p) ∨
    walletDir ++ p = fileOf cwd path ∧ ∃ content, t' (walletDir ++ p) = some (.file content)

/-- A backup leaves the wallet directory as it was if and only if none of the
directories that are missing above the backup file lies in it. -/
theorem unchanged_doBackup_iff (tools : BackupTools) (draws : BackupDraws)
    (walletDir : List OsName) (path : List Char) (password : String) (ht : t.WellFormed)
    (hcwd : t (pathBase tools.cwd path) = some .dir) :
    Unchanged tools.cwd path walletDir t
        (after (doBackup tools draws walletDir path password) t) ↔
      ∀ p, walletDir ++ p ∉ newDirs t tools.cwd path := by
  constructor
  · intro h p hp
    have hnone : t (walletDir ++ p) = none := by
      unfold newDirs at hp
      split at hp
      · exact mem_missingDirs hp
      · cases hp
    have hdir : t.withDirs (newDirs t tools.cwd path) (walletDir ++ p) = some .dir := if_pos hp
    obtain hafter | ⟨-, hno, -⟩ :=
      after_doBackup tools draws walletDir path password ht hcwd (walletDir ++ p)
    · rw [hdir] at hafter
      obtain hsame | ⟨-, content, hfile⟩ := h p
      · cases hafter.symm.trans (hsame.trans hnone)
      · cases hafter.symm.trans hfile
    · exact absurd hdir hno
  · intro h p
    have hsame : t.withDirs (newDirs t tools.cwd path) (walletDir ++ p) = t (walletDir ++ p) :=
      if_neg (h p)
    obtain hafter | ⟨hfile, -, hcontent⟩ :=
      after_doBackup tools draws walletDir path password ht hcwd (walletDir ++ p)
    · exact .inl (hafter.trans hsame)
    · exact .inr ⟨hfile, hcontent⟩

end RgbLightningNode
