import RgbLightningNode.Backup.Written

/-!
# Backups that succeed

A backup to a new file in a directory that is there succeeds when the wallet
directory can be archived and its archive encrypted.
-/

namespace RgbLightningNode

open Fallible FileTree PathStep

/-- What a path of a directory adds to an archive that is written elsewhere. -/
def entriesAt (t : NodeDisk) (pathIn name : List OsName) : List ZipEntry :=
  match name.mapM OsName.toStr with
  | none => []
  | some nameStr =>
    match t (pathIn ++ name) with
    | some (.file content) =>
      if (pathIn ++ name).getLast? = some (.text "log".toList) then []
      else [⟨nameStr, .file content⟩]
    | _ =>
      if name = [] then []
      else if logsDir <:+ Text.joinWith '/' nameStr then [] else [⟨nameStr, .dir⟩]

/-- Names that are text can be archived, each for itself. -/
theorem zipEntries_eq_ok_flatMap (arch : Archiver) (t : NodeDisk) {pathIn pathOut : List OsName}
    {names : List (List OsName)}
    (htext : ∀ name ∈ names, ∃ nameStr : List (List Char), name = nameStr.map .text)
    (hout : ¬pathIn <+: pathOut) (added : List ZipEntry) :
    arch.zipEntries t pathIn pathOut names added =
      .ok (added ++ names.flatMap (entriesAt t pathIn)) := by
  induction names generalizing added with
  | nil => rw [List.flatMap_nil, List.append_nil, Archiver.zipEntries]
  | cons name names ih =>
    obtain ⟨⟨nameStr, hname⟩, htext⟩ := List.forall_mem_cons.mp htext
    have hne : pathIn ++ name ≠ pathOut := fun heq => hout ⟨name, heq⟩
    -- what is not a file is taken for a directory
    have hother : (if name = [] then arch.zipEntries t pathIn pathOut names added
        else if logsDir <:+ Text.joinWith '/' nameStr then
          arch.zipEntries t pathIn pathOut names added
        else arch.zipEntries t pathIn pathOut names (added ++ [⟨nameStr, .dir⟩])) =
        .ok (added ++ ((if name = [] then []
          else if logsDir <:+ Text.joinWith '/' nameStr then [] else [⟨nameStr, .dir⟩]) ++
            names.flatMap (entriesAt t pathIn))) := by
      split
      · exact ih htext added
      · split
        · exact ih htext added
        · rw [← List.append_assoc]
          exact ih htext _
    rw [Archiver.zipEntries, List.flatMap_cons, entriesAt, mapM_toStr_eq_some_iff.mpr hname]
    rcases t (pathIn ++ name) with _ | _ | content
    · exact hother
    · exact hother
    · simp only
      split
      · exact ih htext added
      · rw [Archiver.readEntry, if_neg hne, ← List.append_assoc]
        exact ih htext _

/-- What is not too long can be encrypted. -/
theorem exists_encryptFrom (crypto : BackupCrypto) (secrets : CypherSecrets) (position : Nat)
    {source : List UInt8}
    (hshort : source.length < backupBufferLenEncrypt * (streamCounterMax - position)) :
    ∃ ciphertext, crypto.encryptFrom secrets position source = .ok ciphertext := by
  induction position, source using BackupCrypto.encryptFrom.induct crypto secrets with
  | case1 source hfull =>
    rw [Nat.sub_self, Nat.mul_zero] at hshort
    exact absurd hshort (Nat.not_lt_zero _)
  | case2 position source hfull hposition ih =>
    have hnext : streamCounterMax - position = streamCounterMax - (position + 1) + 1 := by
      -- nothing is short enough behind the last position
      by_contra hlast
      have hzero : streamCounterMax - position = 0 := by omega
      rw [hzero, Nat.mul_zero] at hshort
      exact absurd hshort (Nat.not_lt_zero _)
    have hdrop : (source.drop backupBufferLenEncrypt).length =
        source.length - backupBufferLenEncrypt := List.length_drop
    rw [hnext, Nat.mul_add_one] at hshort
    obtain ⟨rest, hrest⟩ := ih (by omega)
    refine ⟨crypto.encryptChunk secrets position false (source.take backupBufferLenEncrypt) ++ rest,
      BackupCrypto.encryptFrom_eq_ok_iff.mpr ?_⟩
    rw [if_pos hfull]
    exact ⟨hposition, rest, hrest, rfl⟩
  | case3 position source hlast =>
    refine ⟨crypto.encryptChunk secrets position true source,
      BackupCrypto.encryptFrom_eq_ok_iff.mpr ?_⟩
    rw [if_neg hlast]

/-- A disk with the temporary directory: only files are in it, under names that are
text, and nothing outside has changed. -/
structure TempDir (t : NodeDisk) (temp : List OsName) (t' : NodeDisk) : Prop where
  wellFormed : t'.WellFormed
  dir : t' temp = some .dir
  files : ∀ name, t' (temp ++ [name]) ≠ some .dir
  text : ∀ p, (t' (temp ++ p)).isSome → ∃ nameStr : List (List Char), p = nameStr.map .text
  outside : ∀ p, ¬temp <+: p → t' p = t p

namespace TempDir

variable {t t' : NodeDisk} {temp : List OsName}

theorem put (h : TempDir t temp t') {name : OsName} {nameStr : List Char}
    (hname : name = .text nameStr) (content : List UInt8) :
    TempDir t temp (t'.put (temp ++ [name]) (.file content)) where
  wellFormed := wellFormed_put_file h.wellFormed (h.files _)
    (by rw [List.dropLast_concat, h.dir]) content
  dir := by rw [put_of_ne _ _ (by simp), h.dir]
  files name' := by
    by_cases heq : temp ++ [name'] = temp ++ [name]
    · rw [heq, put_self]
      simp
    · rw [put_of_ne _ _ heq]
      exact h.files name'
  text p hp := by
    by_cases heq : temp ++ p = temp ++ [name]
    · exact ⟨[nameStr], by rw [List.append_cancel_left heq, hname]; rfl⟩
    · rw [put_of_ne _ _ heq] at hp
      exact h.text p hp
  outside p hp := by
    rw [put_of_ne _ _ ?_, h.outside p hp]
    rintro rfl
    exact hp (List.prefix_append ..)

theorem remove (h : TempDir t temp t') {name : OsName} {content : List UInt8}
    (hfile : t' (temp ++ [name]) = some (.file content)) :
    TempDir t temp (t'.remove (temp ++ [name])) where
  wellFormed := h.wellFormed.remove_file hfile
  dir := by rw [remove_of_ne _ (by simp), h.dir]
  files name' := by
    by_cases heq : temp ++ [name'] = temp ++ [name]
    · rw [heq, remove_self]
      simp
    · rw [remove_of_ne _ heq]
      exact h.files name'
  text p hp := by
    by_cases heq : temp ++ p = temp ++ [name]
    · rw [heq, remove_self] at hp
      cases hp
    · rw [remove_of_ne _ heq] at hp
      exact h.text p hp
  outside p hp := by
    rw [remove_of_ne _ ?_, h.outside p hp]
    rintro rfl
    exact hp (List.prefix_append ..)

/-- A file can be written there. -/
theorem exists_writeFile (h : TempDir t temp t') {name : OsName} {nameStr : List Char}
    (hname : name = .text nameStr) (content : List UInt8) :
    ∃ t'', writeFile (temp ++ [name]) (fun _ => .ok content) t' = .ok () t'' ∧
      TempDir t temp t'' :=
  ⟨_, writeFile_eq_ok_iff.mpr ⟨h.files _, by rw [List.dropLast_concat, h.dir], content, rfl, rfl⟩,
    h.put hname content⟩

end TempDir

variable {tools : BackupTools} {draws : BackupDraws} {walletDir file : List OsName}
  {path : List Char} {password : String} {t : NodeDisk} {names : List (PathStep OsName)}
  {name : OsName} {entries : List ZipEntry} {zipped encrypted : List UInt8}
  {secrets : CypherSecrets}

/-- A file of the temporary directory can be encrypted there. -/
theorem TempDir.exists_encryptFile {tempdir : List OsName} {t' : NodeDisk}
    (h : TempDir t tempdir t') {p q : OsName} {name : List Char} (hq : q = .text name)
    (hpq : p ≠ q) (hsource : t' (tempdir ++ [p]) = some (.file zipped))
    (hsecrets : tools.getCypherSecrets password draws.salt draws.nonce = .ok secrets)
    (hencrypted : tools.encryptFrom secrets 0 zipped = .ok encrypted) :
    ∃ t'', encryptFile tools (tempdir ++ [p]) (tempdir ++ [q]) password draws.salt draws.nonce t' =
        .ok () t'' ∧ TempDir t tempdir t'' := by
  have hwrite : writeFile (tempdir ++ [q]) (fun _ => tools.encryptFrom secrets 0 zipped) t' =
      .ok () (t'.put (tempdir ++ [q]) (.file encrypted)) :=
    writeFile_eq_ok_iff.mpr ⟨h.files q, by rw [List.dropLast_concat, h.dir], encrypted,
      hencrypted, rfl⟩
  have hkept : (t'.put (tempdir ++ [q]) (.file encrypted)) (tempdir ++ [p]) =
      some (.file zipped) := (put_of_ne _ _ (temp_ne tempdir hpq)).trans hsource
  refine ⟨_, ?_, (h.put hq encrypted).remove hkept⟩
  rw [encryptFile, bind_of_ok (attempt_eq_ok_iff.mpr ⟨hsecrets, rfl⟩),
    bind_of_ok (readFile_eq_ok_iff.mpr ⟨hsource, rfl⟩), bind_of_ok hwrite]
  rfl

/-- In the temporary directory a backup to a new file succeeds. -/
theorem exists_backupIn (ht : tools.Lawful) {tempdir : List OsName} {t₀ : NodeDisk}
    (hzip : ∀ entries, ∃ bytes, tools.zip entries = .ok bytes) (h₀ : TempDir t tempdir t₀)
    (hdirs : ∀ p, t p = some .dir → ¬tempdir <+: p)
    (hsteps : pathSteps path = names ++ [.into name])
    (hfollow : t.follow (pathBase tools.cwd path) (pathSteps path) = some file)
    (hfile : t file = none) (hparent : t file.dropLast = some .dir) (hout : ¬tempdir <+: file)
    (hentries : tools.zipEntries (t₀.put (tempdir ++ [backupZip]) (.file [])) walletDir
      (tempdir ++ [backupZip]) (tools.walkDir
        ((t₀.put (tempdir ++ [backupZip]) (.file [])).sub walletDir)) [] = .ok entries)
    (hzipped : tools.zip entries = .ok zipped)
    (hsecrets : tools.getCypherSecrets password draws.salt draws.nonce = .ok secrets)
    (hencrypted : tools.encryptFrom secrets 0 zipped = .ok encrypted) :
    ∃ t', backupIn tools draws walletDir path password tempdir t₀ = .ok () t' := by
  -- the files of the temporary directory are written one after the other
  have hwallet : tools.zipDir walletDir (tempdir ++ [backupZip]) t₀ =
      .ok () (t₀.put (tempdir ++ [backupZip]) (.file zipped)) :=
    zipDir_eq_ok_iff.mpr ⟨h₀.files _, by rw [List.dropLast_concat, h₀.dir], entries, zipped,
      hentries, hzipped, rfl⟩
  obtain ⟨t₂, hencrypt, h₂⟩ := (h₀.put (rfl : backupZip = _) zipped).exists_encryptFile
    (rfl : backupEnc = _) (by decide) (put_self ..) hsecrets hencrypted
  obtain ⟨t₃, hnonce, h₃⟩ := h₂.exists_writeFile (rfl : backupNonce = _) (utf8Bytes draws.nonce)
  obtain ⟨t₄, hsalt, h₄⟩ := h₃.exists_writeFile (rfl : backupSalt = _) (utf8Bytes draws.salt)
  obtain ⟨t₅, hversion, h₅⟩ := h₄.exists_writeFile (rfl : backupVersionFile = _)
    (utf8Bytes (toString backupVersion))
  -- the backup file can be written then
  have hnew : newFile t₅ tools.cwd path = .ok file := by
    have hdirs₅ : ∀ p, t p = some .dir → t₅ p = some .dir := fun p hp => by
      rw [h₅.outside p (hdirs p hp), hp]
    have hfollow₅ := follow_mono hdirs₅ hfollow
    rw [newFile, hsteps, List.getLast?_concat]
    simp only
    rw [← hsteps, hfollow₅]
  have hnone : t₅ file = none := by rw [h₅.outside file hout, hfile]
  have hparent₅ : t₅ file.dropLast = some .dir := by
    rw [h₅.outside _ (hdirs _ hparent), hparent]
  have hwf := wellFormed_put_file h₅.wellFormed (by rw [hnone]; simp) hparent₅ []
  have hself : tempdir ≠ file := by
    rintro rfl
    exact hout (List.prefix_refl _)
  have htext : ∀ p ∈ tools.walkDir ((t₅.put file (.file [])).sub tempdir),
      ∃ nameStr : List (List Char), p = nameStr.map .text := fun p hp => by
    rw [ht.archiver.mem_walkDir _ (hwf.sub (by rw [put_of_ne _ _ hself, h₅.dir])), sub_apply,
      put_of_ne _ _ fun heq => hout ⟨p, heq⟩] at hp
    exact h₅.text p hp
  have hbox := zipEntries_eq_ok_flatMap tools.toArchiver (t₅.put file (.file [])) htext hout []
  obtain ⟨bytes, hbytes⟩ := hzip _
  have hall : tools.zipDir tempdir file t₅ = .ok () (t₅.put file (.file bytes)) :=
    zipDir_eq_ok_iff.mpr ⟨by rw [hnone]; simp, hparent₅, _, bytes, hbox, hbytes, rfl⟩
  refine ⟨t₅.put file (.file bytes), ?_⟩
  rw [backupIn, bind_of_ok hwallet, bind_of_ok hencrypt, bind_of_ok hnonce, bind_of_ok hsalt,
    bind_of_ok hversion, bind_of_ok (get_apply _),
    bind_of_ok (attempt_eq_ok_iff.mpr ⟨hnew, rfl⟩)]
  exact hall

/-- A backup to a new file in a directory that is there succeeds. -/
theorem exists_doBackup (ht : tools.Lawful) (hwf : t.WellFormed)
    (hzip : ∀ entries, ∃ bytes, tools.zip entries = .ok bytes)
    (hsteps : pathSteps path = names ++ [.into name])
    (hfollow : t.follow (pathBase tools.cwd path) (pathSteps path) = some file)
    (hfile : t file = none) {tempdir : List OsName}
    (htempdir : tempdir = file.dropLast ++ [.text draws.tempName]) (hfree : t tempdir = none)
    (hne : file ≠ tempdir)
    (hentries : tools.zipEntries ((t.put tempdir .dir).put (tempdir ++ [backupZip]) (.file []))
      walletDir (tempdir ++ [backupZip]) (tools.walkDir
        (((t.put tempdir .dir).put (tempdir ++ [backupZip]) (.file [])).sub walletDir)) [] =
          .ok entries)
    (hzipped : tools.zip entries = .ok zipped)
    (hsecrets : tools.getCypherSecrets password draws.salt draws.nonce = .ok secrets)
    (hencrypted : tools.encryptFrom secrets 0 zipped = .ok encrypted) :
    ∃ t', doBackup tools draws walletDir path password t = .ok () t' := by
  have hlast : file = leadsTo (pathBase tools.cwd path) names ++ [name] := by
    rw [leadsTo_of_follow hfollow, hsteps, leadsTo_append]
    rfl
  have hparent : file.dropLast = leadsTo (pathBase tools.cwd path) names := by
    rw [hlast, List.dropLast_concat]
  have hnames := hfollow
  rw [hsteps] at hnames
  obtain ⟨hmissing, hblocked, hdir⟩ := missingDirs_of_follow hnames
  have hdirs : ∀ p, t p = some .dir → ¬tempdir <+: p := fun p hp hleads => by
    have hsome := hwf.isSome_of_above hleads (by rw [hp]; rfl)
    rw [hfree] at hsome
    cases hsome
  have hout : ¬tempdir <+: file := fun hleads => by
    refine hne (hleads.eq_of_length ?_).symm
    rw [htempdir, hparent, hlast]
    simp
  have hempty := emptyDir_put hwf hfree
  have h₀ : TempDir t tempdir (t.put tempdir .dir) := by
    refine ⟨?_, put_self .., fun name' => ?_, fun p hp => ⟨[], ?_⟩, fun p hp => ?_⟩
    · rw [htempdir]
      refine hwf.put (by rw [hparent, hdir]) ?_ _
      rw [← htempdir, hfree]
      simp
    · rw [hempty.empty _ (by simp)]
      simp
    · by_contra hnil
      rw [hempty.empty p hnil] at hp
      cases hp
    · rw [put_of_ne _ _ ?_]
      rintro rfl
      exact hp (List.prefix_refl _)
  obtain ⟨s, hs⟩ := exists_backupIn ht hzip h₀ hdirs hsteps hfollow hfile
    (by rw [hparent, hdir]) hout hentries hzipped hsecrets hencrypted
  have hnew : pathExists t tools.cwd path = false := by
    rw [pathExists, hfollow]
    simp only
    rw [hfile]
    exact Bool.and_false _
  refine ⟨s.removeAll tempdir, ?_⟩
  rw [doBackup, bind_of_ok (get_apply t), bind_of_ok (by rw [ensure_apply, hnew]; rfl)]
  refine inTempDir_eq_ok_iff.mpr ⟨names, tempdir, t, getParentPath_of_into hsteps, ?_, hblocked,
    ?_, hfree, s, hs, rfl⟩
  · rw [htempdir, hparent]
  · rw [hmissing, withDirs_nil]

end RgbLightningNode
