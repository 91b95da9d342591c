import RgbLightningNode.Backup.Restored
import RgbLightningNode.Backup.ZipItems

/-!
# Restoring from any file

The file that is restored from need not be a backup. What is read of it is checked in
part, and what is decrypted is extracted into the directory of the wallet entry by
entry.
-/

namespace RgbLightningNode

open Fallible FileTree PathStep

/-- What a restore takes from elsewhere. -/
structure RestoreTools extends BackupCrypto where
  unarchive : Unarchiver
  cwd : List OsName

section Programs

variable (tools : RestoreTools)

/-- Read what is needed to decrypt the archive, and decrypt it. -/
def decryptBox (password : String) (tempdir : List OsName) :
    Fallible (Exit APIError) NodeDisk Unit := do
  let nonce ← readToString (tempdir ++ [backupNonce])
  let salt ← readToString (tempdir ++ [backupSalt])
  let versionStr ← readToString (tempdir ++ [backupVersionFile])
  let version ← attempt ((parseU8 versionStr.toList).mapError fun e =>
    .err (.unexpected s!"Failed to get backup version: {e}"))
  ensure (version = backupVersion) (.err (.unsupportedBackupVersion (toString version)))
  let cypherSecrets ← attempt (tools.getCypherSecrets password salt nonce)
  let source ← readFile (tempdir ++ [backupEnc])
  writeFile (tempdir ++ [backupZip]) fun _ => tools.decryptFrom cypherSecrets 0 source

/-- What a restore does in its temporary directory. -/
def restoreFileIn (backupPath : List Char) (password : String) (targetDir tempdir : List OsName) :
    Fallible (Exit APIError) NodeDisk Unit := do
  let t ← get
  let backupFile ← expect (t.follow (pathBase tools.cwd backupPath) (pathSteps backupPath))
    (.err (.unexpected "Failed to unzip: No such file or directory (os error 2)"))
  unzipItems tools.unarchive backupFile tempdir
  decryptBox tools password tempdir
  unzipItems tools.unarchive (tempdir ++ [backupZip]) targetDir

def restoreFile (tempName backupPath : List Char) (password : String) (targetDir : List OsName) :
    Fallible (Exit APIError) NodeDisk Unit :=
  inTempDir tools.cwd backupPath tempName (restoreFileIn tools backupPath password targetDir)

end Programs

/-! ### Restoring a backup is restoring from a file -/

section Backups

variable (tools : BackupTools)

def BackupTools.toRestoreTools : RestoreTools where
  toBackupCrypto := tools.toBackupCrypto
  unarchive bytes := (tools.unzip bytes).map (List.map (Except.map .ofEntry))
  cwd := tools.cwd

/-- The entries that are read have names. -/
def Archiver.NamesEntries (arch : Archiver) : Prop :=
  ∀ bytes entries, arch.unzip bytes = .ok entries → ∀ x, .ok x ∈ entries → x.name ≠ []

variable {tools}

theorem unarchive_toRestoreTools (bytes : List UInt8) :
    tools.toRestoreTools.unarchive bytes =
      (tools.unzip bytes).map (List.map (Except.map .ofEntry)) := rfl

theorem unzipItems_toRestoreTools (h : tools.toArchiver.NamesEntries)
    (zipPath pathOut : List OsName) :
    unzipItems tools.toRestoreTools.unarchive zipPath pathOut =
      unzip tools.toArchiver zipPath pathOut := by
  funext t
  rw [unzipItems, unzip, bind_of_ok (get_apply t), bind_of_ok (get_apply t)]
  cases hentry : t zipPath with
  | none => rfl
  | some entry =>
    cases entry with
    | dir => rfl
    | file bytes =>
      dsimp only
      rw [unarchive_toRestoreTools]
      cases hunzip : tools.unzip bytes with
      | error e => rfl
      | ok entries =>
        exact congrFun (extractItems_map_ofEntry (h bytes entries hunzip)) t

theorem restoreBackup_eq_restoreFile (h : tools.toArchiver.NamesEntries) (draws : BackupDraws)
    (backupPath : List Char) (password : String) (targetDir : List OsName) :
    restoreBackup tools draws backupPath password targetDir =
      restoreFile tools.toRestoreTools draws.tempName backupPath password targetDir := by
  refine congrArg (inTempDir tools.cwd backupPath draws.tempName) (funext fun tempdir => ?_)
  simp only [restoreIn, restoreFileIn, decryptBox, decryptFile, unzipItems_toRestoreTools h,
    bind_assoc]
  rfl

end Backups

/-! ### What is in the file -/

/-- The text of a file. -/
def readText (t : NodeDisk) (path : List OsName) : Option String :=
  (t.content? path).bind fun bytes => String.fromUTF8? ⟨bytes.toArray⟩

/-- The archive can be extracted to its end, and this is what comes out. -/
def HoldsTree (unarchive : Unarchiver) (bytes : List UInt8) (box : NodeDisk) : Prop :=
  ∃ items, unarchive bytes = .ok items ∧ TreeOp.Smooth FileTree.empty (itemsOps [] items) ∧
    TreeOp.done FileTree.empty (itemsOps [] items) = box

/-- The nonce and the salt are texts, the version is the one that is supported, and the
password is hashed with the salt. -/
structure Accepted (crypto : BackupCrypto) (password : String) (box : NodeDisk)
    (nonce salt : String) (hash : List UInt8) : Prop where
  nonce_eq : readText box [backupNonce] = some nonce
  salt_eq : readText box [backupSalt] = some salt
  version_eq : ∃ text, readText box [backupVersionFile] = some text ∧
    parseU8 text.toList = .ok backupVersion
  hash_eq : crypto.hashPassword password salt = .ok hash

def cypherSecretsOf (hash : List UInt8) (nonce : String) : CypherSecrets :=
  ⟨hash.take backupKeyLength, (utf8Bytes nonce).take backupNonceLength⟩

/-- An archive is decrypted. -/
def Decrypts (crypto : BackupCrypto) (password : String) (box : NodeDisk) (zipped : List UInt8) :
    Prop :=
  ∃ nonce salt hash enc, Accepted crypto password box nonce salt hash ∧
    backupNonceLength ≤ (utf8Bytes nonce).length ∧ box.content? [backupEnc] = some enc ∧
    box [backupZip] ≠ some .dir ∧
    crypto.decryptFrom (cypherSecretsOf hash nonce) 0 enc = .ok zipped

/-- Nothing panics, and with an error the target directory is as it was. -/
def RestoresSafely (x : Fallible (Exit APIError) NodeDisk Unit) (target : List OsName)
    (t : NodeDisk) : Prop :=
  StopsOnly Exit.answers x t ∧
    ∀ e t', x t = .error e t' → ∀ p, t' (target ++ p) = t (target ++ p)

/-- A file that is safe to restore from: the nonce of every box that is accepted is long
enough, and what the archive in it writes before an entry that cannot be extracted is
in the target directory already. The temporary directory may lie there too. -/
structure SafeFile (tools : RestoreTools) (bytes : List UInt8) (password : String)
    (t : NodeDisk) (target temp : List OsName) : Prop where
  long_nonce : ∀ box, HoldsTree tools.unarchive bytes box → ∀ nonce salt hash,
    Accepted tools.toBackupCrypto password box nonce salt hash →
      backupNonceLength ≤ (utf8Bytes nonce).length
  keeps_target : ∀ box, HoldsTree tools.unarchive bytes box → ∀ zipped,
    Decrypts tools.toBackupCrypto password box zipped → ∀ items,
      tools.unarchive zipped = .ok items →
        TreeOp.Keeps (fun p => temp <+: target ++ p)
          ((t.graft temp (box.put [backupZip] (.file zipped))).sub target) (itemsOps [] items)

/-- A disk on which a file is restored from: the file is at the path, and nothing has the
name of the temporary directory yet. -/
structure FileSetting (cwd : List OsName) (bytes : List UInt8) (t : NodeDisk)
    (path tempName : List Char) (target : List OsName) : Prop where
  wellFormed : t.WellFormed
  backup : ∃ file, t.follow (pathBase cwd path) (pathSteps path) = some file ∧
    t file = some (.file bytes)
  target_dir : t target = some .dir
  temp_free : ∀ parent, getParentPath path = some parent →
    t (leadsTo (pathBase cwd path) parent ++ [.text tempName]) = none

/-- Where the temporary directory is. -/
def tempDir (cwd : List OsName) (path tempName : List Char) : List OsName :=
  leadsTo (pathBase cwd path) ((getParentPath path).getD []) ++ [.text tempName]

/-- Outside of a directory all is as it was. -/
def SameOutside (dir : List OsName) (t t' : NodeDisk) : Prop := ∀ q, ¬dir <+: q → t' q = t q

/-! ### What is in a file is in it only once -/

section Unique

variable {unarchive : Unarchiver} {crypto : BackupCrypto} {bytes : List UInt8} {password : String}
  {box box' : NodeDisk} {nonce nonce' salt salt' : String} {hash hash' zipped zipped' : List UInt8}

theorem HoldsTree.unique (h : HoldsTree unarchive bytes box) (h' : HoldsTree unarchive bytes box') :
    box = box' := by
  obtain ⟨items, hitems, -, rfl⟩ := h
  obtain ⟨items', hitems', -, rfl⟩ := h'
  rw [Except.ok.inj (hitems.symm.trans hitems')]

theorem Accepted.unique (h : Accepted crypto password box nonce salt hash)
    (h' : Accepted crypto password box nonce' salt' hash') :
    nonce = nonce' ∧ salt = salt' ∧ hash = hash' := by
  obtain rfl := Option.some.inj (h.nonce_eq.symm.trans h'.nonce_eq)
  obtain rfl := Option.some.inj (h.salt_eq.symm.trans h'.salt_eq)
  exact ⟨rfl, rfl, Except.ok.inj (h.hash_eq.symm.trans h'.hash_eq)⟩

theorem Decrypts.unique (h : Decrypts crypto password box zipped)
    (h' : Decrypts crypto password box zipped') : zipped = zipped' := by
  obtain ⟨nonce, salt, hash, enc, haccepted, -, henc, -, hzipped⟩ := h
  obtain ⟨nonce', salt', hash', enc', haccepted', -, henc', -, hzipped'⟩ := h'
  obtain ⟨rfl, rfl, rfl⟩ := haccepted.unique haccepted'
  obtain rfl := Option.some.inj (henc.symm.trans henc')
  exact Except.ok.inj (hzipped.symm.trans hzipped')

/-- The archive can be written where it is decrypted to. -/
theorem Decrypts.not_dir {temp : List OsName} {s : NodeDisk}
    (h : Decrypts crypto password (s.sub temp) zipped) : s (temp ++ [backupZip]) ≠ some .dir := by
  obtain ⟨-, -, -, -, -, -, -, hdir, -⟩ := h
  exact hdir

end Unique

/-! ### Extracting the box -/

section Box

variable {unarchive : Unarchiver} {bytes : List UInt8} {s : NodeDisk} {zipPath temp : List OsName}

theorem unzipItems_of_file (unarchive : Unarchiver) (hfile : s zipPath = some (.file bytes))
    (pathOut : List OsName) :
    unzipItems unarchive zipPath pathOut s =
      match unarchive bytes with
      | .ok items => extractItems pathOut items s
      | .error e => .error (.err (.unexpected s!"Failed to read zip archive: {e}")) s := by
  rw [unzipItems, bind_of_ok (get_apply s), hfile]
  dsimp only
  cases unarchive bytes <;> rfl

/-- The box is extracted into an empty directory, or an error comes up. -/
theorem unzipItems_into_empty (unarchive : Unarchiver) (hs : Extractable temp s)
    (hempty : s.sub temp = FileTree.empty) (hfile : s zipPath = some (.file bytes)) :
    (∃ box s₁, HoldsTree unarchive bytes box ∧ unzipItems unarchive zipPath temp s = .ok () s₁ ∧
      Extractable temp s₁ ∧ s₁.sub temp = box ∧ SameOutside temp s s₁) ∨
    (¬∃ box, HoldsTree unarchive bytes box) ∧
      ∃ e s₁, unzipItems unarchive zipPath temp s = .error (.err e) s₁ ∧ SameOutside temp s s₁ := by
  rw [unzipItems_of_file unarchive hfile]
  cases hitems : unarchive bytes with
  | error message =>
    refine .inr ⟨?_, _, s, rfl, fun _ _ => rfl⟩
    rintro ⟨box, items, hok, -⟩
    cases hitems.symm.trans hok
  | ok items =>
    have hrun := extractItems_apply hs items
    have hkeeps := extractable_extractItems items s hs
    have hanswers := stopsOnly_extractItems hs items
    cases hops : runOps (itemsOps [] items) FileTree.empty with
    | ok _ box =>
      rw [zoom_of_ok (hempty ▸ hops)] at hrun
      rw [after_of_ok hrun] at hkeeps
      obtain ⟨hsmooth, hdone⟩ := TreeOp.run_eq_ok_iff.mp hops
      exact .inl ⟨box, _, ⟨items, hitems, hsmooth, hdone⟩, hrun, hkeeps, sub_graft ..,
        fun q hq => graft_of_not_below _ _ _ hq⟩
    | error e u =>
      rw [zoom_of_error (hempty ▸ hops)] at hrun
      refine .inr ⟨?_, ?_⟩
      · rintro ⟨box, items', hok, hsmooth, hdone⟩
        obtain rfl := Except.ok.inj (hitems.symm.trans hok)
        cases (TreeOp.run_eq_ok_iff.mpr ⟨hsmooth, hdone⟩).symm.trans hops
      · cases e with
        | err e => exact ⟨e, _, hrun, fun q hq => graft_of_not_below _ _ _ hq⟩
        | panic held message => exact (hanswers _ _ hrun).elim

end Box

/-! ### Decrypting what is in the box -/

section Decrypt

variable {tools : RestoreTools} {password nonce salt : String} {temp : List OsName}
  {s : NodeDisk} {hash zipped : List UInt8}

theorem readFile_of_content {path : List OsName} {bytes : List UInt8}
    (h : (s.sub temp).content? path = some bytes) : readFile (temp ++ path) s = .ok bytes s :=
  readFile_eq_ok_iff.mpr ⟨content?_eq_some_iff.mp h, rfl⟩

theorem readToString_of_readText {path : List OsName} {text : String}
    (h : readText (s.sub temp) path = some text) :
    readToString (temp ++ path) s = .ok text s := by
  obtain ⟨bytes, hfile, htext⟩ := Option.bind_eq_some_iff.mp h
  rw [readToString, bind_of_ok (readFile_of_content hfile), htext, expect_some]

/-- The program stops with an error and has changed nothing. -/
def Refuses {α : Type} (x : Fallible (Exit APIError) NodeDisk α) (s : NodeDisk) : Prop :=
  ∃ e, x s = .error (.err e) s

theorem Refuses.bind {α β : Type} {x : Fallible (Exit APIError) NodeDisk α} (h : Refuses x s)
    (f : α → Fallible (Exit APIError) NodeDisk β) : Refuses (x >>= f) s :=
  h.imp fun _ he => bind_of_error he

/-- What is no file cannot be read. -/
theorem refuses_readFile {path : List OsName} (h : (s.sub temp).content? path = none) :
    Refuses (readFile (temp ++ path)) s := by
  unfold Refuses readFile
  rw [bind_of_ok (get_apply s)]
  cases hentry : s (temp ++ path) with
  | none => exact ⟨_, rfl⟩
  | some entry =>
    cases entry with
    | dir => exact ⟨_, rfl⟩
    | file bytes => cases h.symm.trans (content?_eq_some_iff.mpr hentry)

theorem refuses_readToString {path : List OsName} (h : readText (s.sub temp) path = none) :
    Refuses (readToString (temp ++ path)) s := by
  cases hfile : (s.sub temp).content? path with
  | none => exact (refuses_readFile hfile).bind _
  | some bytes =>
    have htext : String.fromUTF8? ⟨bytes.toArray⟩ = none := by
      rwa [readText, hfile] at h
    refine ⟨.io "stream did not contain valid UTF-8", ?_⟩
    rw [readToString, bind_of_ok (readFile_of_content hfile), htext, expect_none]

/-- The secrets are there, or the slice of the nonce panics. -/
theorem getCypherSecrets_of_hash (hhash : tools.hashPassword password salt = .ok hash) :
    tools.getCypherSecrets password salt nonce =
      if (utf8Bytes nonce).length < backupNonceLength then
        .error (.panic none
          s!"range end index 19 out of range for slice of length {(utf8Bytes nonce).length}")
      else .ok (cypherSecretsOf hash nonce) := by
  rw [BackupCrypto.getCypherSecrets, hhash]
  rfl

/-- A box that is not accepted is answered with an error. -/
theorem refuses_decryptBox
    (h : ¬∃ nonce salt hash, Accepted tools.toBackupCrypto password (s.sub temp) nonce salt hash) :
    Refuses (decryptBox tools password temp) s := by
  unfold decryptBox
  cases hnonce : readText (s.sub temp) [backupNonce] with
  | none => exact (refuses_readToString hnonce).bind _
  | some nonce =>
  cases hsalt : readText (s.sub temp) [backupSalt] with
  | none =>
    rw [Refuses, bind_of_ok (readToString_of_readText hnonce)]
    exact (refuses_readToString hsalt).bind _
  | some salt =>
  cases hversion : readText (s.sub temp) [backupVersionFile] with
  | none =>
    rw [Refuses, bind_of_ok (readToString_of_readText hnonce),
      bind_of_ok (readToString_of_readText hsalt)]
    exact (refuses_readToString hversion).bind _
  | some text =>
  rw [Refuses, bind_of_ok (readToString_of_readText hnonce),
    bind_of_ok (readToString_of_readText hsalt), bind_of_ok (readToString_of_readText hversion)]
  cases hparse : parseU8 text.toList with
  | error e => exact ⟨_, rfl⟩
  | ok version =>
  rw [bind_of_ok (attempt_mapError_ok _ version s)]
  by_cases hsame : version = backupVersion
  · rw [bind_of_ok (by rw [ensure_apply, decide_eq_true hsame, if_pos rfl])]
    cases hhash : tools.hashPassword password salt with
    | error e =>
      refine ⟨e, bind_of_error ?_⟩
      rw [BackupCrypto.getCypherSecrets, hhash]
      rfl
    | ok hash =>
      exact absurd ⟨nonce, salt, hash, hnonce, hsalt, ⟨text, hversion, hsame ▸ hparse⟩, hhash⟩ h
  · refine ⟨.unsupportedBackupVersion (toString version), bind_of_error ?_⟩
    rw [ensure_apply, decide_eq_false hsame]
    rfl

/-- A box that is accepted is decrypted with the nonce it has, if that is long enough. -/
theorem decryptBox_of_accepted
    (h : Accepted tools.toBackupCrypto password (s.sub temp) nonce salt hash) :
    decryptBox tools password temp s =
      (do
        let cypherSecrets ← attempt (tools.getCypherSecrets password salt nonce)
        let source ← readFile (temp ++ [backupEnc])
        writeFile (temp ++ [backupZip]) fun _ => tools.decryptFrom cypherSecrets 0 source :
          Fallible (Exit APIError) NodeDisk Unit) s := by
  obtain ⟨text, hversion, hparse⟩ := h.version_eq
  rw [decryptBox, bind_of_ok (readToString_of_readText h.nonce_eq),
    bind_of_ok (readToString_of_readText h.salt_eq),
    bind_of_ok (readToString_of_readText hversion), hparse,
    bind_of_ok (attempt_mapError_ok _ backupVersion s),
    bind_of_ok (by rw [ensure_apply, decide_eq_true rfl, if_pos rfl])]

theorem decryptBox_of_short_nonce
    (h : Accepted tools.toBackupCrypto password (s.sub temp) nonce salt hash)
    (hshort : (utf8Bytes nonce).length < backupNonceLength) :
    ∃ message, decryptBox tools password temp s = .error (.panic none message) s := by
  rw [decryptBox_of_accepted h, getCypherSecrets_of_hash h.hash_eq, if_pos hshort]
  exact ⟨_, bind_of_error (attempt_error _ s)⟩

/-- Outside of the temporary directory nothing is written. -/
theorem decryptBox_of_decrypts (htemp : s temp = some .dir)
    (h : Decrypts tools.toBackupCrypto password (s.sub temp) zipped) :
    decryptBox tools password temp s =
      .ok () (s.put (temp ++ [backupZip]) (.file zipped)) := by
  obtain ⟨nonce, salt, hash, enc, haccepted, hlong, henc, hdir, hzipped⟩ := h
  rw [decryptBox_of_accepted haccepted, getCypherSecrets_of_hash haccepted.hash_eq,
    if_neg (not_lt.mpr hlong), bind_of_ok (attempt_ok _ s),
    bind_of_ok (readFile_of_content henc)]
  refine writeFile_eq_ok_iff.mpr ⟨hdir, ?_, zipped, hzipped, rfl⟩
  rwa [List.dropLast_concat]

theorem decryptBox_of_no_archive (htemp : s temp = some .dir)
    (hlong : ∀ nonce salt hash,
      Accepted tools.toBackupCrypto password (s.sub temp) nonce salt hash →
        backupNonceLength ≤ (utf8Bytes nonce).length)
    (h : ¬∃ zipped, Decrypts tools.toBackupCrypto password (s.sub temp) zipped) :
    ∃ e s', decryptBox tools password temp s = .error (.err e) s' ∧ SameOutside temp s s' := by
  by_cases haccepted : ∃ nonce salt hash,
      Accepted tools.toBackupCrypto password (s.sub temp) nonce salt hash
  case neg =>
    obtain ⟨e, he⟩ := refuses_decryptBox haccepted
    exact ⟨e, s, he, fun _ _ => rfl⟩
  obtain ⟨nonce, salt, hash, haccepted⟩ := haccepted
  have hlong := hlong nonce salt hash haccepted
  rw [decryptBox_of_accepted haccepted, getCypherSecrets_of_hash haccepted.hash_eq,
    if_neg (not_lt.mpr hlong), bind_of_ok (attempt_ok _ s)]
  cases henc : (s.sub temp).content? [backupEnc] with
  | none =>
    obtain ⟨e, he⟩ := (refuses_readFile henc).bind _
    exact ⟨e, s, he, fun _ _ => rfl⟩
  | some enc =>
  rw [bind_of_ok (readFile_of_content henc), writeFile_apply,
    List.dropLast_concat, isDir_eq_true_iff.mpr htemp]
  by_cases hdir : s.isDir (temp ++ [backupZip]) = true
  · rw [if_pos hdir]
    exact ⟨_, s, rfl, fun _ _ => rfl⟩
  rw [if_neg hdir, if_pos rfl]
  cases hzipped : tools.decryptFrom (cypherSecretsOf hash nonce) 0 enc with
  | ok zipped =>
    refine absurd ⟨zipped, nonce, salt, hash, enc, haccepted, hlong, henc, ?_, hzipped⟩ h
    exact fun hzip => hdir (isDir_eq_true_iff.mpr hzip)
  | error e =>
    have hanswers := tools.failsOnly_decryptFrom _ _ _ e hzipped
    cases e with
    | panic held message => exact hanswers.elim
    | err e =>
      refine ⟨e, _, rfl, fun q hq => put_of_ne _ _ ?_⟩
      rintro rfl
      exact hq (List.prefix_append ..)

end Decrypt

end RgbLightningNode
