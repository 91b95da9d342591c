import RgbLightningNode.Backup.Written

/-!
# Restoring a backup

A backup file may be moved. Restored into an empty directory, with the password it
was made with, it gives back what was archived and the directories above that.
-/

namespace RgbLightningNode

open Fallible FileTree PathStep

/-- What there is when what has been archived of a tree is extracted. -/
def IsRestoredFrom (u r : NodeDisk) : Prop :=
  ∀ p e, r p = some e ↔ u p = some e ∧ (p = [] ∨ HasArchived u p)

/-- A disk on which a backup file is restored: the file is at the path, the target
directory is empty, and nothing has the name of the temporary directory yet. -/
structure RestoreSetting (cwd : List OsName) (bytes : List UInt8) (t : NodeDisk)
    (path tempName : List Char) (target : List OsName) : Prop where
  wellFormed : t.WellFormed
  backup : ∃ file, t.follow (pathBase cwd path) (pathSteps path) = some file ∧
    t file = some (.file bytes)
  target_empty : EmptyDir t target
  temp_free : ∀ parent, getParentPath path = some parent →
    t (leadsTo (pathBase cwd path) parent ++ [.text tempName]) = none

variable {tools : BackupTools} {t : NodeDisk}

/-! ### Single steps -/

theorem fromUTF8_utf8Bytes (text : String) :
    String.fromUTF8? ⟨(utf8Bytes text).toArray⟩ = some text := dif_pos text.isValidUTF8

theorem readToString_of_file {path : List OsName} {text : String}
    (h : t path = some (.file (utf8Bytes text))) : readToString path t = .ok text t := by
  rw [readToString, bind_of_ok (readFile_eq_ok_iff.mpr ⟨h, rfl⟩), fromUTF8_utf8Bytes,
    expect_some]

/-- The archive of a tree is extracted into an empty directory. -/
theorem unzip_into_empty {arch : Archiver} {zipPath target : List OsName} {bytes : List UInt8}
    {entries : List ZipEntry} {u : NodeDisk} (ht : t.WellFormed) (hempty : EmptyDir t target)
    (hbytes : t zipPath = some (.file bytes)) (hunzip : arch.unzip bytes = .ok (entries.map .ok))
    (hu : u.WellFormed) (hentries : IsArchive u entries) :
    ∃ t', unzip arch zipPath target t = .ok () t' ∧ t'.WellFormed ∧
      IsRestoredFrom u (t'.sub target) ∧ ∀ q, ¬target <+: q → t' q = t q := by
  have hfits : Fits u t target := fun p e he => by
    by_cases hp : p = []
    · rw [hp, List.append_nil, hempty.dir] at he
      rw [hp, hu.root, he]
    · rw [hempty.empty p hp] at he
      cases he
  obtain ⟨t', hextract, hwf, hin, hout⟩ := extract_eq_ok hu ht hfits hempty.dir
    fun x hx => ((hentries.mem_iff x).mp hx).1
  refine ⟨t', ?_, hwf, fun p e => ?_, fun q hq => ?_⟩
  · rw [unzip, bind_of_ok (get_apply t), hbytes]
    simp only [hunzip]
    exact hextract
  · rw [sub_apply]
    by_cases hp : HasArchived u p
    · rw [hin p ((hentries.hasArchived_iff p).mp hp)]
      exact (and_iff_left (.inr hp)).symm
    · rw [hout _ fun p' hp' heq => hp ((hentries.hasArchived_iff p).mpr (by
        rwa [List.append_cancel_left heq]))]
      by_cases hnil : p = []
      · rw [hnil, List.append_nil, hempty.dir, hu.root]
        exact (and_iff_left (.inl rfl)).symm
      · rw [hempty.empty p hnil]
        exact iff_of_false (fun h => nomatch h) fun h => h.2.elim hnil hp
  · exact hout q fun p _ heq => hq (heq ▸ List.prefix_append ..)

/-! ### The content of the backup file -/

namespace BackupContent

variable {draws : BackupDraws} {walletDir tempdir file : List OsName} {password : String}

/-- The backup file has the entries of the temporary directory. -/
theorem zipEntries_box (c : BackupContent tools draws walletDir password t tempdir file)
    (ht : tools.Lawful) :
    IsArchive (c.box.sub tempdir) c.boxEntries := by
  obtain ⟨u, htree, hentries⟩ := ht.archiver.zipEntries_walkDir c.box_wellFormed c.box_tempdir
    c.boxEntries_eq
  have hu : u = c.box.sub tempdir := by
    funext p
    obtain hsame | ⟨rfl, -⟩ := htree p
    · exact hsame
    · exact absurd (List.prefix_append ..) c.file_outside
  rwa [hu] at hentries

end BackupContent

/-- A file of the temporary directory is there again. -/
theorem IsRestoredFrom.file {u r : NodeDisk} (h : IsRestoredFrom u r) {name : OsName}
    {content : List UInt8} (hfile : u [name] = some (.file content))
    (hlog : name ≠ .text "log".toList) : r [name] = some (.file content) :=
  (h _ _).mpr ⟨hfile, .inr ⟨[name], _, hfile, fun heq => hlog (Option.some.inj heq),
    List.prefix_refl _⟩⟩

/-! ### Restoring -/

theorem parseU8_backupVersion :
    parseU8 (toString backupVersion).toList = .ok backupVersion := by
  decide +kernel

section Setting

variable {path tempName : List Char} {bytes : List UInt8} {target : List OsName}

/-- A file that is at a path lies beside the temporary directory. -/
theorem exists_into_of_file {cwd : List OsName} (ht : t.WellFormed)
    (hbackup : ∃ file, t.follow (pathBase cwd path) (pathSteps path) = some file ∧
      t file = some (.file bytes)) :
    ∃ names name, pathSteps path = names ++ [.into name] ∧
      t.follow (pathBase cwd path) (pathSteps path) = some (leadsTo (pathBase cwd path) names ++
        [name]) ∧
      t (leadsTo (pathBase cwd path) names ++ [name]) = some (.file bytes) := by
  obtain ⟨file, hfollow, hfile⟩ := hbackup
  have hne : pathSteps path ≠ [] := fun hnil =>
    Text.splitOn_ne_nil _ _ (List.map_eq_nil_iff.mp hnil)
  obtain ⟨names, name, hsteps⟩ := into_of_follow ht hfollow hfile hne
  have hlast : file = leadsTo (pathBase cwd path) names ++ [name] := by
    rw [leadsTo_of_follow hfollow, hsteps, leadsTo_append]
    rfl
  rw [hlast] at hfollow hfile
  exact ⟨names, name, hsteps, hfollow, hfile⟩

/-- So the directory that the temporary one is made in is there. -/
theorem exists_parent_of_file {cwd : List OsName} (ht : t.WellFormed)
    (hbackup : ∃ file, t.follow (pathBase cwd path) (pathSteps path) = some file ∧
      t file = some (.file bytes)) :
    ∃ names, getParentPath path = some names ∧
      t.missingDirs (pathBase cwd path) names = [] ∧
      t.blocked (pathBase cwd path) names = false ∧
      t (leadsTo (pathBase cwd path) names) = some .dir := by
  obtain ⟨names, name, hsteps, hfollow, -⟩ := exists_into_of_file ht hbackup
  rw [hsteps] at hfollow
  exact ⟨names, getParentPath_of_into hsteps, missingDirs_of_follow hfollow⟩

/-- The file is still there when the temporary directory has been made. -/
theorem backup_put {cwd temp : List OsName} (hfree : t temp = none)
    (hbackup : ∃ file, t.follow (pathBase cwd path) (pathSteps path) = some file ∧
      t file = some (.file bytes)) :
    ∃ file, (t.put temp .dir).follow (pathBase cwd path) (pathSteps path) = some file ∧
      t.put temp .dir file = some (.file bytes) := by
  obtain ⟨file, hfollow, hfile⟩ := hbackup
  refine ⟨file, follow_mono (fun p hp => ?_) hfollow, ?_⟩
  · by_cases hne : p = temp
    · rw [hne, put_self]
    · rw [put_of_ne _ _ hne, hp]
  · rw [put_of_ne, hfile]
    rintro rfl
    rw [hfree] at hfile
    cases hfile

/-- The temporary directory and the target directory have nothing in common. -/
theorem not_prefix_of_emptyDir {dir q : List OsName} {name tempName : OsName}
    (ht : t.WellFormed) (hempty : EmptyDir t target)
    (hfile : t (dir ++ [name]) = some (.file bytes)) (hfree : t (dir ++ [tempName]) = none)
    (hq : target <+: q) : ¬dir ++ [tempName] <+: q := by
  intro htemp
  obtain habove | hbelow := List.prefix_or_prefix_of_prefix htemp hq
  · have hsome := ht.isSome_of_above habove (by rw [hempty.dir]; rfl)
    rw [hfree] at hsome
    cases hsome
  · obtain heq | hdir := List.prefix_concat_iff.mp hbelow
    · rw [← heq, hempty.dir] at hfree
      cases hfree
    · obtain ⟨rest, rfl⟩ := hdir
      rw [List.append_assoc, hempty.empty _ (by simp)] at hfile
      cases hfile

variable {draws : BackupDraws} {walletDir tempdir file : List OsName} {password : String}
  {t₂ u : NodeDisk}

/-- The content of a backup is decrypted again, and the archive extracted. -/
theorem restoreIn_eq_ok (ht : tools.Lawful)
    (c : BackupContent tools draws walletDir password t tempdir file)
    (h : RestoreSetting tools.cwd c.bytes t₂ path tempName target)
    {temp : List OsName} (hwf : (t₂.put temp .dir).WellFormed) (hfree : t₂ temp = none)
    (hdisjoint : ∀ q, target <+: q → ¬temp <+: q) (hu : u.WellFormed)
    (hentries : IsArchive u c.entries) :
    ∃ s, restoreIn tools path password target temp (t₂.put temp .dir) = .ok () s ∧
      IsRestoredFrom u (s.sub target) := by
  -- the backup file is found, and its entries are extracted
  obtain ⟨file₂, hfollow', hfile'⟩ := backup_put hfree h.backup
  obtain ⟨t₃, hbox, hwf₃, hrestored, hframe⟩ := unzip_into_empty hwf
    (emptyDir_put h.wellFormed hfree) hfile' (ht.archiver.unzip_zip _ _ c.bytes_eq)
    (c.box_wellFormed.sub c.box_tempdir) (c.zipEntries_box ht)
  have hnonce : t₃ (temp ++ [backupNonce]) = some (.file (utf8Bytes draws.nonce)) :=
    hrestored.file c.box_nonce (by decide)
  have hsalt : t₃ (temp ++ [backupSalt]) = some (.file (utf8Bytes draws.salt)) :=
    hrestored.file c.box_salt (by decide)
  have hversion : t₃ (temp ++ [backupVersionFile]) =
      some (.file (utf8Bytes (toString backupVersion))) :=
    hrestored.file c.box_version (by decide)
  have henc : t₃ (temp ++ [backupEnc]) = some (.file c.encrypted) :=
    hrestored.file c.box_enc (by decide)
  -- the archive of the wallet directory is decrypted
  have hzip : t₃ (temp ++ [backupZip]) ≠ some .dir := fun hdir => by
    have hbox := ((hrestored [backupZip] .dir).mp hdir).1
    rw [sub_apply, c.box_zip] at hbox
    cases hbox
  have htemp : t₃ (temp ++ [backupZip]).dropLast = some .dir := by
    rw [List.dropLast_concat]
    exact hwf₃.parent temp backupEnc (by rw [henc]; rfl)
  have hdecrypt : decryptFile tools (temp ++ [backupEnc]) (temp ++ [backupZip]) password
      draws.salt draws.nonce t₃ =
        .ok () (t₃.put (temp ++ [backupZip]) (.file c.zipped)) := by
    rw [decryptFile, c.secrets_eq, bind_of_ok (attempt_ok _ _),
      bind_of_ok (readFile_eq_ok_iff.mpr ⟨henc, rfl⟩)]
    exact writeFile_eq_ok_iff.mpr ⟨hzip, htemp, c.zipped,
      BackupCrypto.decryptFrom_encryptFrom ht.crypto c.encrypted_eq, rfl⟩
  -- and its entries are extracted into the target directory
  have hwf₄ : (t₃.put (temp ++ [backupZip]) (.file c.zipped)).WellFormed :=
    wellFormed_put_file hwf₃ hzip htemp _
  have htarget : ∀ q, target <+: q →
      t₃.put (temp ++ [backupZip]) (.file c.zipped) q = t₂ q := fun q hq => by
    have htemp := hdisjoint q hq
    have hne : ∀ rest, q ≠ temp ++ rest := fun rest heq => htemp ⟨rest, heq.symm⟩
    rw [put_of_ne _ _ (hne _), hframe q htemp, put_of_ne]
    simpa using hne []
  have hempty : EmptyDir (t₃.put (temp ++ [backupZip]) (.file c.zipped)) target := by
    refine ⟨?_, fun q hq => ?_⟩
    · rw [htarget _ (List.prefix_refl _), h.target_empty.dir]
    · rw [htarget _ (List.prefix_append ..), h.target_empty.empty q hq]
  obtain ⟨s, hwallet, -, hall, -⟩ := unzip_into_empty hwf₄ hempty (put_self ..)
    (ht.archiver.unzip_zip _ _ c.zipped_eq) hu hentries
  refine ⟨s, ?_, hall⟩
  rw [restoreIn, bind_of_ok (get_apply _), hfollow', bind_of_ok (expect_some _ _ _),
    bind_of_ok hbox, bind_of_ok (readToString_of_file hnonce),
    bind_of_ok (readToString_of_file hsalt), bind_of_ok (readToString_of_file hversion),
    bind_of_ok (attempt_eq_ok_iff.mpr
      ⟨except_mapError_eq_ok_iff.mpr parseU8_backupVersion, rfl⟩),
    bind_of_ok (by rw [ensure_apply]; rfl), bind_of_ok hdecrypt]
  exact hwallet

/-- A backup is restored to what was archived. -/
theorem restoreBackup_eq_ok (ht : tools.Lawful)
    (c : BackupContent tools draws walletDir password t tempdir file) {draws₂ : BackupDraws}
    (h : RestoreSetting tools.cwd c.bytes t₂ path draws₂.tempName target) (hu : u.WellFormed)
    (hentries : IsArchive u c.entries) :
    ∃ s, restoreBackup tools draws₂ path password target t₂ = .ok () s ∧
      IsRestoredFrom u (s.sub target) := by
  obtain ⟨names, name, hsteps, hfollow, hfile⟩ := exists_into_of_file h.wellFormed h.backup
  have hparent := getParentPath_of_into hsteps
  rw [hsteps] at hfollow
  obtain ⟨hmissing, hblocked, hdir⟩ := missingDirs_of_follow hfollow
  have hfree := h.temp_free names hparent
  have hdisjoint := fun q hq => not_prefix_of_emptyDir (q := q) h.wellFormed h.target_empty hfile
    hfree hq
  have hwf := h.wellFormed.put hdir (by rw [hfree]; simp) .dir
  obtain ⟨s, hs, hrestored⟩ := restoreIn_eq_ok ht c h hwf hfree hdisjoint hu hentries
  refine ⟨_, inTempDir_eq_ok_iff.mpr ⟨names, _, t₂, hparent, rfl, hblocked, ?_, hfree, s, hs,
    rfl⟩, ?_⟩
  · rw [hmissing, withDirs_nil]
  · intro p e
    rw [sub_apply, removeAll_of_not_below _ (hdisjoint _ (List.prefix_append ..))]
    exact hrestored p e

end Setting

end RgbLightningNode
