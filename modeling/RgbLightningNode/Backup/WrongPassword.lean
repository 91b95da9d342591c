import RgbLightningNode.Backup.BackupAndRestore
import RgbLightningNode.Backup.SafeRestores

/-!
# Restoring with another password

With another password than the one a backup was made with, the first chunk of the
archive cannot be decrypted. The restore says so, and the disk is as it was before.
-/

namespace RgbLightningNode

open Fallible FileTree PathStep

namespace BackupCrypto

/-- With the salt and the nonce of a backup, what is encrypted with one password is not
decrypted with the other. -/
def TellsApart (crypto : BackupCrypto) (password password' salt nonce : String) : Prop :=
  ∀ secrets secrets', crypto.getCypherSecrets password salt nonce = .ok secrets →
    crypto.getCypherSecrets password' salt nonce = .ok secrets' → ∀ position last chunk,
      crypto.decryptChunk secrets' position last
        (crypto.encryptChunk secrets position last chunk) = none

variable {crypto : BackupCrypto} {secrets secrets' : CypherSecrets} {position : Nat}
  {source ciphertext : List UInt8} {password password' salt nonce : String}

theorem decryptFrom_of_other (hc : crypto.Lawful)
    (hother : ∀ position last chunk, crypto.decryptChunk secrets' position last
      (crypto.encryptChunk secrets position last chunk) = none)
    (h : crypto.encryptFrom secrets position source = .ok ciphertext) :
    crypto.decryptFrom secrets' position ciphertext = .error (.err .wrongPassword) := by
  rw [encryptFrom_eq_ok_iff] at h
  split at h
  · rename_i hfull
    obtain ⟨hposition, rest, -, rfl⟩ := h
    have hchunk : (crypto.encryptChunk secrets position false
        (source.take backupBufferLenEncrypt)).length = backupBufferLenDecrypt :=
      hc.length_encryptChunk_take hfull false
    rw [decryptFrom, if_pos (by rw [List.length_append, hchunk]; exact Nat.le_add_right ..),
      if_neg hposition, List.take_left' hchunk, hother]
  · rename_i hlast
    subst h
    have hchunk := hc.length_encryptChunk secrets position true source
    have hshort : ¬backupBufferLenDecrypt ≤
        (crypto.encryptChunk secrets position true source).length := by
      rw [hchunk]
      unfold backupBufferLenDecrypt
      omega
    have hne : crypto.encryptChunk secrets position true source ≠ [] := by
      rw [← List.length_pos_iff, hchunk]
      omega
    rw [decryptFrom, if_neg hshort, if_neg hne, hother]

theorem getCypherSecrets_eq_ok_iff :
    crypto.getCypherSecrets password salt nonce = .ok secrets ↔
      ∃ hash, crypto.hashPassword password salt = .ok hash ∧
        backupNonceLength ≤ (utf8Bytes nonce).length ∧
        secrets = ⟨hash.take backupKeyLength, (utf8Bytes nonce).take backupNonceLength⟩ := by
  rw [getCypherSecrets, except_bind_eq_ok_iff]
  simp only [except_mapError_eq_ok_iff]
  refine exists_congr fun hash => and_congr_right fun _ => ?_
  split
  · rename_i hshort
    exact iff_of_false (by simp) fun h => absurd h.1 (not_le.mpr hshort)
  · rename_i hlong
    rw [and_iff_right (not_lt.mp hlong), Except.ok.injEq, eq_comm]

/-- With the nonce of a backup, a password that can be hashed gives secrets. -/
theorem getCypherSecrets_of_other
    (h : crypto.getCypherSecrets password salt nonce = .ok secrets) (password' : String) :
    (∃ e, crypto.hashPassword password' salt = .error e ∧
        crypto.getCypherSecrets password' salt nonce = .error (.err e)) ∨
      ∃ secrets', crypto.getCypherSecrets password' salt nonce = .ok secrets' := by
  obtain ⟨-, -, hlong, -⟩ := getCypherSecrets_eq_ok_iff.mp h
  cases hhash : crypto.hashPassword password' salt with
  | error e =>
    refine .inl ⟨e, rfl, ?_⟩
    rw [getCypherSecrets, hhash]
    rfl
  | ok hash => exact .inr ⟨_, getCypherSecrets_eq_ok_iff.mpr ⟨hash, hhash, hlong, rfl⟩⟩

end BackupCrypto

section Setting

variable {tools : BackupTools} {draws : BackupDraws} {walletDir tempdir file : List OsName}
  {password password' : String} {t t' t₂ : NodeDisk} {path tempName : List Char}
  {bytes : List UInt8} {target : List OsName}

theorem inTempDir_apply {α : Type} {cwd : List OsName}
    (h : FileSetting cwd bytes t path tempName target)
    (body : List OsName → Fallible (Exit APIError) NodeDisk α) :
    inTempDir cwd path tempName body t =
      removing (tempDir cwd path tempName) (body (tempDir cwd path tempName))
        (t.put (tempDir cwd path tempName) .dir) := by
  obtain ⟨names, hparent, hmissing, hblocked, -⟩ := exists_parent_of_file h.wellFormed h.backup
  have hfree := h.temp_free names hparent
  have hmade := createDirAll_apply fileInWay t (pathBase cwd path) names
  rw [hblocked, hmissing, withDirs_nil, if_neg (by decide)] at hmade
  rw [tempDir, hparent, Option.getD_some, inTempDir, hparent,
    bind_of_ok (expect_some _ _ _), bind_of_ok hmade, bind_of_ok (get_apply t), hfree,
    bind_of_ok (by rw [ensure_apply]; rfl), bind_of_ok (modify_apply _ t)]

/-- A program that stays in the temporary directory leaves the disk as it was. -/
theorem removing_of_sameOutside {α : Type} {temp : List OsName}
    {x : Fallible (Exit APIError) NodeDisk α} {e : Exit APIError} {s : NodeDisk}
    (hnone : ∀ q, temp <+: q → t q = none) (hx : x (t.put temp .dir) = .error e s)
    (hsame : SameOutside temp t s) :
    removing temp x (t.put temp .dir) = .error e t := by
  rw [removing, hx]
  refine congrArg (EStateM.Result.error e) (funext fun q => ?_)
  by_cases hq : temp <+: q
  · rw [removeAll_of_below _ hq, hnone q hq]
  · rw [removeAll_of_not_below _ hq, hsame q hq]

/-- The backup is unpacked, and then its archive cannot be decrypted. -/
theorem restoreIn_of_other (ht : tools.Lawful)
    (c : BackupContent tools draws walletDir password t tempdir file)
    (h : FileSetting tools.cwd c.bytes t₂ path tempName target)
    (hother : tools.toBackupCrypto.TellsApart password password' draws.salt draws.nonce) :
    ∃ e s, restoreIn tools path password' target (tempDir tools.cwd path tempName)
        (t₂.put (tempDir tools.cwd path tempName) .dir) = .error (.err e) s ∧
      SameOutside (tempDir tools.cwd path tempName) t₂ s ∧
      ∀ hash, tools.hashPassword password' draws.salt = .ok hash → e = .wrongPassword := by
  have hwf := h.extractable_temp.wellFormed
  have hnone := h.temp_none
  generalize tempDir tools.cwd path tempName = temp at hwf hnone ⊢
  -- the backup file is found, and its entries are extracted
  obtain ⟨file₂, hfollow, hfile⟩ := backup_put hnone h.backup
  obtain ⟨t₃, hbox, hwf₃, hrestored, hframe⟩ := unzip_into_empty hwf
    (emptyDir_put h.wellFormed hnone) hfile (ht.archiver.unzip_zip _ _ c.bytes_eq)
    (c.box_wellFormed.sub c.box_tempdir) (c.zipEntries_box ht)
  have hsame : SameOutside temp t₂ t₃ := fun q hq => by
    rw [hframe q hq, put_of_ne]
    rintro rfl
    exact hq (List.prefix_refl q)
  have hnonce : t₃ (temp ++ [backupNonce]) = some (.file (utf8Bytes draws.nonce)) :=
    hrestored.file c.box_nonce (by decide)
  have hsalt : t₃ (temp ++ [backupSalt]) = some (.file (utf8Bytes draws.salt)) :=
    hrestored.file c.box_salt (by decide)
  have hversion : t₃ (temp ++ [backupVersionFile]) =
      some (.file (utf8Bytes (toString backupVersion))) :=
    hrestored.file c.box_version (by decide)
  have henc : t₃ (temp ++ [backupEnc]) = some (.file c.encrypted) :=
    hrestored.file c.box_enc (by decide)
  have hread : restoreIn tools path password' target temp (t₂.put temp .dir) =
      (decryptFile tools (temp ++ [backupEnc]) (temp ++ [backupZip]) password' draws.salt
        draws.nonce >>= fun _ => unzip tools.toArchiver (temp ++ [backupZip]) target) t₃ := by
    rw [restoreIn, bind_of_ok (get_apply _), hfollow, bind_of_ok (expect_some _ _ _),
      bind_of_ok hbox, bind_of_ok (readToString_of_file hnonce),
      bind_of_ok (readToString_of_file hsalt), bind_of_ok (readToString_of_file hversion),
      bind_of_ok (attempt_eq_ok_iff.mpr
        ⟨except_mapError_eq_ok_iff.mpr parseU8_backupVersion, rfl⟩),
      bind_of_ok (by rw [ensure_apply]; rfl)]
  -- what is to be decrypted is refused, before or after its file has been created
  rcases BackupCrypto.getCypherSecrets_of_other c.secrets_eq password' with
    ⟨e, hhash, hsecrets⟩ | ⟨secrets', hsecrets⟩
  · refine ⟨e, t₃, ?_, hsame, fun hash hhash' => ?_⟩
    · rw [hread]
      refine bind_of_error ?_
      rw [decryptFile, hsecrets, bind_of_error (attempt_error _ t₃)]
    · rw [hhash] at hhash'
      cases hhash'
  · have hrefused := BackupCrypto.decryptFrom_of_other ht.crypto
      (hother c.secrets secrets' c.secrets_eq hsecrets) c.encrypted_eq
    have hzip : t₃.isDir (temp ++ [backupZip]) = false := by
      rw [← Bool.not_eq_true, isDir_eq_true_iff]
      intro hdir
      have hbox := ((hrestored [backupZip] .dir).mp hdir).1
      rw [sub_apply, c.box_zip] at hbox
      cases hbox
    have htemp : t₃.isDir (temp ++ [backupZip]).dropLast = true := by
      rw [List.dropLast_concat, isDir_eq_true_iff]
      exact hwf₃.parent temp backupEnc (by rw [henc]; rfl)
    refine ⟨.wrongPassword, t₃.put (temp ++ [backupZip]) (.file []), ?_, fun q hq => ?_,
      fun _ _ => rfl⟩
    · rw [hread]
      refine bind_of_error ?_
      rw [decryptFile, hsecrets, bind_of_ok (attempt_ok _ t₃),
        bind_of_ok (readFile_eq_ok_iff.mpr ⟨henc, rfl⟩), writeFile_apply, hzip, htemp]
      simp only [hrefused]
      rfl
    · rw [put_of_ne _ _ fun heq => hq ⟨_, heq.symm⟩, hsame q hq]

/-- A backup is not restored with another password: the restore answers with an error,
that of a wrong password unless the password cannot be hashed at all, and leaves the
disk as it was. -/
theorem restoreBackup_of_other_password (ht : tools.Lawful) (draws₂ : BackupDraws)
    {backupPath : List Char} (hwf : t.WellFormed)
    (hcwd : t (pathBase tools.cwd backupPath) = some .dir)
    (h : doBackup tools draws walletDir backupPath password t = .ok () t')
    (hbytes : t' (fileOf tools.cwd backupPath) = some (.file bytes))
    (hsetting : FileSetting tools.cwd bytes t₂ path draws₂.tempName target)
    (hother : tools.toBackupCrypto.TellsApart password password' draws.salt draws.nonce) :
    ∃ e, restoreBackup tools draws₂ path password' target t₂ = .error (.err e) t₂ ∧
      ∀ hash, tools.hashPassword password' draws.salt = .ok hash → e = .wrongPassword := by
  obtain ⟨dir, tempdir, t₁, -, -, -, -, -, -, c, hfile⟩ := doBackup_eq_ok hwf hcwd h
  obtain rfl : c.bytes = bytes := by
    rw [hfile] at hbytes
    exact FileEntry.file.inj (Option.some.inj hbytes)
  obtain ⟨e, s, hs, hsame, he⟩ := restoreIn_of_other ht c hsetting hother
  refine ⟨e, ?_, he⟩
  rw [restoreBackup, inTempDir_apply hsetting]
  exact removing_of_sameOutside (fun _ => hsetting.none_of_below) hs hsame

end Setting

/-! ### A cipher with a checksum -/

/-- The checksum of a key. -/
def keyTag (secrets : CypherSecrets) : List UInt8 :=
  (secrets.key ++ List.replicate 16 0).take 16

theorem length_keyTag (secrets : CypherSecrets) : (keyTag secrets).length = 16 := by
  simp [keyTag]

/-- A chunk is followed by the checksum of the key. -/
def tagCrypto : BackupCrypto where
  hashPassword := plainCrypto.hashPassword
  encryptChunk secrets _ _ chunk := chunk ++ keyTag secrets
  decryptChunk secrets _ _ chunk :=
    if chunk.drop (chunk.length - 16) = keyTag secrets then some (chunk.take (chunk.length - 16))
    else none

theorem decryptChunk_tagCrypto (secrets secrets' : CypherSecrets) (position : Nat) (last : Bool)
    (chunk : List UInt8) :
    tagCrypto.decryptChunk secrets' position last
        (tagCrypto.encryptChunk secrets position last chunk) =
      if keyTag secrets = keyTag secrets' then some chunk else none := by
  simp [tagCrypto, length_keyTag]

theorem lawful_tagCrypto : tagCrypto.Lawful where
  length_encryptChunk secrets _ _ chunk := by
    simp [tagCrypto, length_keyTag]
  decryptChunk_encryptChunk secrets position last chunk := by
    rw [decryptChunk_tagCrypto, if_pos rfl]

noncomputable def tagTools : BackupTools where
  toArchiver := plainArchiver
  toBackupCrypto := tagCrypto
  cwd := []

theorem lawful_tagTools : tagTools.Lawful := ⟨lawful_plainArchiver, lawful_tagCrypto⟩

theorem tellsApart_tagCrypto :
    tagCrypto.TellsApart "password" "passphrase" someDraws.salt someDraws.nonce := by
  intro secrets secrets' h h' position last chunk
  obtain ⟨hash, hhash, -, rfl⟩ := BackupCrypto.getCypherSecrets_eq_ok_iff.mp h
  obtain ⟨hash', hhash', -, rfl⟩ := BackupCrypto.getCypherSecrets_eq_ok_iff.mp h'
  obtain rfl := Except.ok.inj hhash
  obtain rfl := Except.ok.inj hhash'
  rw [decryptChunk_tagCrypto, if_neg (by decide +kernel)]

/-- A wallet directory with a file. -/
def dataWallet : List ZipEntry := [⟨["data".toList], .file [1, 2, 3]⟩]

theorem isListing_dataWallet : IsListing dataWallet := ⟨by decide, by decide⟩

/-- The backup is not restored beside another node. -/
theorem backup_refuses_passphrase :
    ∃ t' bytes, doBackup tagTools someDraws [walletName] "/backup".toList "password"
        (walletOf dataWallet) = .ok () t' ∧
      t' (fileOf tagTools.cwd "/backup".toList) = some (.file bytes) ∧
      restoreBackup tagTools someDraws "backup".toList "passphrase" [nodeName] (boxDisk bytes) =
        .error (.err .wrongPassword) (boxDisk bytes) := by
  obtain ⟨t', h⟩ := isListing_dataWallet.exists_doBackup lawful_tagTools (fun _ => rfl) rfl
    (by decide +kernel)
  obtain ⟨_, _, _, -, -, -, -, -, -, c, hfile⟩ :=
    doBackup_eq_ok isListing_dataWallet.wellFormed rfl h
  obtain ⟨e, hrestore, he⟩ := restoreBackup_of_other_password lawful_tagTools someDraws
    isListing_dataWallet.wellFormed rfl h hfile
    (fileSetting_boxDisk c.bytes) tellsApart_tagCrypto
  obtain rfl := he _ rfl
  exact ⟨t', c.bytes, h, hfile, hrestore⟩

end RgbLightningNode
