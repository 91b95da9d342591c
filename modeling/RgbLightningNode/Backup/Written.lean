import RgbLightningNode.Backup.Unchanged

/-!
# What a backup has written

A backup that succeeds has archived the wallet directory, encrypted the archive,
and put that with the nonce, the salt and the version into the backup file.
-/

namespace RgbLightningNode

open Fallible FileTree PathStep

/-- What goes into a backup file: the archive of the wallet directory, sealed, and
the archive of the temporary directory as it is then. -/
structure BackupContent (tools : BackupTools) (draws : BackupDraws) (walletDir : List OsName)
    (password : String) (t : NodeDisk) (tempdir file : List OsName) where
  entries : List ZipEntry
  zipped : List UInt8
  secrets : CypherSecrets
  encrypted : List UInt8
  box : NodeDisk
  boxEntries : List ZipEntry
  bytes : List UInt8
  entries_eq : tools.zipEntries (t.put (tempdir ++ [backupZip]) (.file [])) walletDir
    (tempdir ++ [backupZip])
    (tools.walkDir ((t.put (tempdir ++ [backupZip]) (.file [])).sub walletDir)) [] = .ok entries
  zipped_eq : tools.zip entries = .ok zipped
  secrets_eq : tools.getCypherSecrets password draws.salt draws.nonce = .ok secrets
  encrypted_eq : tools.encryptFrom secrets 0 zipped = .ok encrypted
  box_wellFormed : box.WellFormed
  box_tempdir : box tempdir = some .dir
  box_enc : box (tempdir ++ [backupEnc]) = some (.file encrypted)
  box_nonce : box (tempdir ++ [backupNonce]) = some (.file (utf8Bytes draws.nonce))
  box_salt : box (tempdir ++ [backupSalt]) = some (.file (utf8Bytes draws.salt))
  box_version : box (tempdir ++ [backupVersionFile]) =
    some (.file (utf8Bytes (toString backupVersion)))
  box_zip : box (tempdir ++ [backupZip]) = none
  boxEntries_eq : tools.zipEntries box tempdir file (tools.walkDir (box.sub tempdir)) [] =
    .ok boxEntries
  bytes_eq : tools.zip boxEntries = .ok bytes
  file_outside : ¬tempdir <+: file

variable {tools : BackupTools} {t t' : NodeDisk}

/-- An archive is written of what is there when its file has been created. -/
theorem zipDir_eq_ok_iff {arch : Archiver} {pathIn pathOut : List OsName} :
    arch.zipDir pathIn pathOut t = .ok () t' ↔
      t pathOut ≠ some .dir ∧ t pathOut.dropLast = some .dir ∧ ∃ entries bytes,
        arch.zipEntries (t.put pathOut (.file [])) pathIn pathOut
          (arch.walkDir ((t.put pathOut (.file [])).sub pathIn)) [] = .ok entries ∧
        arch.zip entries = .ok bytes ∧ t' = t.put pathOut (.file bytes) := by
  rw [Archiver.zipDir, writeFile_eq_ok_iff]
  refine and_congr_right fun _ => and_congr_right fun _ => ?_
  constructor
  · rintro ⟨bytes, hbytes, rfl⟩
    obtain ⟨entries, hentries, hzip⟩ := except_bind_eq_ok_iff.mp hbytes
    exact ⟨entries, bytes, hentries, except_mapError_eq_ok_iff.mp hzip, rfl⟩
  · rintro ⟨entries, bytes, hentries, hzip, rfl⟩
    exact ⟨bytes, except_bind_eq_ok_iff.mpr
      ⟨entries, hentries, except_mapError_eq_ok_iff.mpr hzip⟩, rfl⟩

theorem wellFormed_of_writeFile {p : List OsName}
    {bytes : NodeDisk → Except (Exit APIError) (List UInt8)} (ht : t.WellFormed)
    (h : writeFile p bytes t = .ok () t') : t'.WellFormed := by
  have hwf := wellFormed_writeFile p bytes t ht
  rwa [after_of_ok h] at hwf

theorem encryptFile_eq_ok {p q : List OsName} {password salt nonce : String}
    (h : encryptFile tools p q password salt nonce t = .ok () t') :
    ∃ secrets source encrypted, tools.getCypherSecrets password salt nonce = .ok secrets ∧
      t p = some (.file source) ∧ tools.encryptFrom secrets 0 source = .ok encrypted ∧
      t' = (t.put q (.file encrypted)).remove p ∧ (t.WellFormed → p ≠ q → t'.WellFormed) := by
  obtain ⟨secrets, t₁, hsecrets, h⟩ := bind_eq_ok_iff.mp h
  obtain ⟨hkey, rfl⟩ := attempt_eq_ok_iff.mp hsecrets
  obtain ⟨source, t₂, hread, h⟩ := bind_eq_ok_iff.mp h
  obtain ⟨hsource, rfl⟩ := readFile_eq_ok_iff.mp hread
  obtain ⟨t₃, hwrite, h⟩ := unit_bind_eq_ok_iff.mp h
  obtain ⟨-, -, encrypted, hencrypted, rfl⟩ := writeFile_eq_ok_iff.mp hwrite
  obtain rfl := (EStateM.Result.ok.inj h).2
  refine ⟨secrets, source, encrypted, hkey, hsource, hencrypted, rfl, fun hwf hne => ?_⟩
  have hkept : (t.put q (.file encrypted)) p = some (.file source) := by
    rw [put_of_ne _ _ hne, hsource]
  exact (wellFormed_of_writeFile hwf hwrite).remove_file hkept

/-- A new file lies where its parent path leads to. -/
theorem getParentPath_of_into {path : List Char} {names : List (PathStep OsName)} {name : OsName}
    (h : pathSteps path = names ++ [.into name]) : getParentPath path = some names := by
  have hdrop : (pathSteps path).reverse.dropWhile (· = .here) = .into name :: names.reverse := by
    rw [h, List.reverse_append, List.reverse_singleton, List.singleton_append,
      List.dropWhile_cons_of_neg (by simp)]
  unfold getParentPath
  rw [hdrop]
  exact congrArg some (List.reverse_reverse names)

/-- A new file lies in the directory its parent path leads to. -/
theorem fileOf_of_into {cwd : List OsName} {path : List Char} {names : List (PathStep OsName)}
    {name : OsName} (h : pathSteps path = names ++ [.into name]) :
    fileOf cwd path = leadsTo (pathBase cwd path) names ++ [name] := by
  rw [fileOf, h, leadsTo_append]
  rfl

theorem temp_ne {a b : OsName} (tempdir : List OsName) (h : a ≠ b) :
    tempdir ++ [a] ≠ tempdir ++ [b] :=
  fun heq => h (List.cons.inj (List.append_cancel_left heq)).1

/-- What a backup that succeeds has done in its temporary directory. -/
theorem backupIn_eq_ok {draws : BackupDraws} {walletDir tempdir : List OsName}
    {path : List Char} {password : String} (ht : t.WellFormed)
    (hbeside : ∀ parent, getParentPath path = some parent →
      tempdir = leadsTo (pathBase tools.cwd path) parent ++ [.text draws.tempName])
    (htempdir : t tempdir = some .dir)
    (h : backupIn tools draws walletDir path password tempdir t = .ok () t') :
    (∃ names name, pathSteps path = names ++ [.into name]) ∧
      ∃ c : BackupContent tools draws walletDir password t tempdir (fileOf tools.cwd path),
        t' (fileOf tools.cwd path) = some (.file c.bytes) := by
  obtain ⟨t₁, hzip, h⟩ := unit_bind_eq_ok_iff.mp h
  obtain ⟨t₂, hencrypt, h⟩ := unit_bind_eq_ok_iff.mp h
  obtain ⟨t₃, hnonce, h⟩ := unit_bind_eq_ok_iff.mp h
  obtain ⟨t₄, hsalt, h⟩ := unit_bind_eq_ok_iff.mp h
  obtain ⟨t₅, hversion, h⟩ := unit_bind_eq_ok_iff.mp h
  rw [bind_of_ok (get_apply t₅)] at h
  obtain ⟨file, t₆, hpathOut, hbox⟩ := bind_eq_ok_iff.mp h
  obtain ⟨hnew, rfl⟩ := attempt_eq_ok_iff.mp hpathOut
  obtain ⟨hfile, names, name, hsteps⟩ := newFile_eq_ok hnew
  have hne : ∀ {a b : OsName}, a ≠ b → tempdir ++ [a] ≠ tempdir ++ [b] := temp_ne tempdir
  -- what is on the disk after each of the writes
  have hwf₁ := wellFormed_of_writeFile ht hzip
  obtain ⟨-, -, entries, zipped, hentries, hzipped, rfl⟩ := zipDir_eq_ok_iff.mp hzip
  obtain ⟨secrets, source, encrypted, hsecrets, hsource, hencrypted, ht₂, hwf₂⟩ :=
    encryptFile_eq_ok hencrypt
  rw [put_self] at hsource
  obtain rfl : zipped = source := FileEntry.file.inj (Option.some.inj hsource)
  have hwf₅ := wellFormed_of_writeFile (wellFormed_of_writeFile (wellFormed_of_writeFile
    (hwf₂ hwf₁ (hne (by decide))) hnonce) hsalt) hversion
  obtain ⟨-, -, nonceBytes, hnonceBytes, rfl⟩ := writeFile_eq_ok_iff.mp hnonce
  obtain ⟨-, -, saltBytes, hsaltBytes, rfl⟩ := writeFile_eq_ok_iff.mp hsalt
  obtain ⟨-, -, versionBytes, hversionBytes, ht₅⟩ := writeFile_eq_ok_iff.mp hversion
  obtain rfl := Except.ok.inj hnonceBytes
  obtain rfl := Except.ok.inj hsaltBytes
  obtain rfl := Except.ok.inj hversionBytes
  obtain ⟨hdir, hparent, boxEntries, bytes, hboxEntries, hbytes, rfl⟩ := zipDir_eq_ok_iff.mp hbox
  subst ht₂
  have htempdir₅ : t₅ tempdir = some .dir := by
    have hself : ∀ a : OsName, tempdir ≠ tempdir ++ [a] := fun a => by simp
    rw [ht₅, put_of_ne _ _ (hself _), put_of_ne _ _ (hself _), put_of_ne _ _ (hself _),
      remove_of_ne _ (hself _), put_of_ne _ _ (hself _), put_of_ne _ _ (hself _), htempdir]
  -- the file lies beside the temporary directory
  have hout : ¬tempdir <+: file := by
    intro hleads
    have hlength : tempdir.length = file.length := by
      rw [hbeside names (getParentPath_of_into hsteps), hfile, fileOf_of_into hsteps]
      simp
    rw [← hleads.eq_of_length hlength, htempdir₅] at hdir
    exact hdir rfl
  rw [← hfile]
  have hinside : ∀ a : OsName, tempdir ++ [a] ≠ file := fun a heq =>
    hout (heq ▸ List.prefix_append ..)
  refine ⟨⟨names, name, hsteps⟩, ⟨entries, zipped, secrets, encrypted, t₅.put file (.file []),
    boxEntries, bytes, hentries, hzipped, hsecrets, hencrypted, ?_, ?_, ?_, ?_, ?_, ?_, ?_,
    hboxEntries, hbytes, hout⟩, put_self ..⟩
  · exact wellFormed_put_file hwf₅ hdir hparent _
  · have hself : tempdir ≠ file := by
      rintro rfl
      exact hout (List.prefix_refl _)
    rw [put_of_ne _ _ hself, htempdir₅]
  · rw [put_of_ne _ _ (hinside _), ht₅, put_of_ne _ _ (hne (by decide)),
      put_of_ne _ _ (hne (by decide)), put_of_ne _ _ (hne (by decide)),
      remove_of_ne _ (hne (by decide)), put_self]
  · rw [put_of_ne _ _ (hinside _), ht₅, put_of_ne _ _ (hne (by decide)),
      put_of_ne _ _ (hne (by decide)), put_self]
  · rw [put_of_ne _ _ (hinside _), ht₅, put_of_ne _ _ (hne (by decide)), put_self]
  · rw [put_of_ne _ _ (hinside _), ht₅, put_self]
  · rw [put_of_ne _ _ (hinside _), ht₅, put_of_ne _ _ (hne (by decide)),
      put_of_ne _ _ (hne (by decide)), put_of_ne _ _ (hne (by decide)), remove_self]

theorem removing_eq_ok_iff {α : Type} {tempdir : List OsName}
    {x : Fallible (Exit APIError) NodeDisk α} {a : α} :
    removing tempdir x t = .ok a t' ↔ ∃ s, x t = .ok a s ∧ t' = s.removeAll tempdir := by
  unfold removing
  cases x t <;> simp [eq_comm]

/-- A program succeeds with a temporary directory when it does in a new one. -/
theorem inTempDir_eq_ok_iff {α : Type} {cwd : List OsName} {path tempName : List Char}
    {body : List OsName → Fallible (Exit APIError) NodeDisk α} {a : α} :
    inTempDir cwd path tempName body t = .ok a t' ↔
      ∃ parent tempdir t₁, getParentPath path = some parent ∧
        tempdir = leadsTo (pathBase cwd path) parent ++ [.text tempName] ∧
        t.blocked (pathBase cwd path) parent = false ∧
        t₁ = t.withDirs (t.missingDirs (pathBase cwd path) parent) ∧ t₁ tempdir = none ∧
        ∃ s, body tempdir (t₁.put tempdir .dir) = .ok a s ∧ t' = s.removeAll tempdir := by
  rw [inTempDir]
  cases hparent : getParentPath path with
  | none =>
    rw [bind_of_error (expect_none _ t)]
    simp
  | some parent =>
    rw [bind_of_ok (expect_some parent _ t)]
    have hdirs := createDirAll_apply fileInWay t (pathBase cwd path) parent
    cases hblocked : t.blocked (pathBase cwd path) parent with
    | true =>
      rw [hblocked, if_pos rfl] at hdirs
      rw [bind_of_error hdirs]
      simp [hblocked]
    | false =>
      rw [hblocked, if_neg (by decide)] at hdirs
      rw [bind_of_ok hdirs, bind_of_ok (get_apply _)]
      generalize htempdir : leadsTo (pathBase cwd path) parent ++ [.text tempName] = tempdir
      generalize hmade : t.withDirs (t.missingDirs (pathBase cwd path) parent) = t₁
      cases hfree : (t₁ tempdir).isNone with
      | false =>
        rw [bind_of_error (by rw [ensure_apply]; rfl)]
        refine iff_of_false (by simp) ?_
        rintro ⟨parent', tempdir', t₁', hparent', rfl, -, rfl, hnone, -⟩
        obtain rfl := Option.some.inj hparent'
        rw [htempdir, hmade] at hnone
        rw [hnone] at hfree
        cases hfree
      | true =>
        rw [bind_of_ok (by rw [ensure_apply]; rfl), bind_of_ok (modify_apply _ _),
          removing_eq_ok_iff]
        constructor
        · rintro ⟨s, hs, rfl⟩
          exact ⟨parent, tempdir, t₁, rfl, htempdir.symm, hblocked, hmade.symm,
            Option.isNone_iff_eq_none.mp hfree, s, hs, rfl⟩
        · rintro ⟨parent', tempdir', t₁', hparent', rfl, -, rfl, -, hs⟩
          obtain rfl := Option.some.inj hparent'
          rwa [htempdir, hmade] at hs

/-- A backup that succeeds has made its content in a new directory beside the backup
file, and has written it into that file. -/
theorem doBackup_eq_ok {draws : BackupDraws} {walletDir : List OsName} {path : List Char}
    {password : String} (ht : t.WellFormed) (hcwd : t (pathBase tools.cwd path) = some .dir)
    (h : doBackup tools draws walletDir path password t = .ok () t') :
    ∃ dir tempdir t₁, dir = (fileOf tools.cwd path).dropLast ∧
      tempdir = dir ++ [.text draws.tempName] ∧
      t₁ = t.withDirs (newDirs t tools.cwd path) ∧ t₁.WellFormed ∧ t₁ dir = some .dir ∧
      t₁ tempdir = none ∧
      ∃ c : BackupContent tools draws walletDir password (t₁.put tempdir .dir) tempdir
        (fileOf tools.cwd path), t' (fileOf tools.cwd path) = some (.file c.bytes) := by
  rw [doBackup, bind_of_ok (get_apply t)] at h
  obtain ⟨s, hexists, h⟩ := unit_bind_eq_ok_iff.mp h
  obtain rfl : t = s := by
    rw [ensure_apply] at hexists
    split at hexists
    · exact (EStateM.Result.ok.inj hexists).2
    · cases hexists
  obtain ⟨parent, tempdir, t₁, hparent, htempdir, hblocked, ht₁, hfree, s, hbody, rfl⟩ :=
    inTempDir_eq_ok_iff.mp h
  have hdirs := createDirAll_apply fileInWay t (pathBase tools.cwd path) parent
  rw [hblocked, if_neg (by decide), ← ht₁] at hdirs
  have hdir := (wellFormed_createDirAll fileInWay parent ht hcwd).2 _ _ hdirs
  have hwf : t₁.WellFormed := ht₁ ▸ wellFormed_withDirs ht hcwd parent
  have hnew : newDirs t tools.cwd path = t.missingDirs (pathBase tools.cwd path) parent := by
    rw [newDirs, hparent]
  obtain ⟨⟨names, name, hsteps⟩, c, hc⟩ := backupIn_eq_ok
    (htempdir ▸ hwf.put hdir (by rw [← htempdir, hfree]; simp) .dir)
    (fun parent' hparent' => by rw [htempdir, ← Option.some.inj (hparent.symm.trans hparent')])
    (put_self ..) hbody
  obtain rfl := Option.some.inj (hparent.symm.trans (getParentPath_of_into hsteps))
  refine ⟨_, tempdir, t₁, rfl, ?_, by rw [hnew, ht₁], hwf, ?_, hfree, c, ?_⟩
  · rw [fileOf_of_into hsteps, List.dropLast_concat, htempdir]
  · rwa [fileOf_of_into hsteps, List.dropLast_concat]
  · rw [removeAll_of_not_below _ c.file_outside, hc]

end RgbLightningNode
