import RgbLightningNode.Backup.ForeignFiles
import RgbLightningNode.Backup.PlainTools

/-!
# Restores that are safe

Up to the extraction into the directory of the wallet, a restore works in its temporary
directory only. It panics at a nonce that is too short, and what has been extracted when
an entry cannot be stays in the directory.
-/

namespace RgbLightningNode

open Fallible FileTree PathStep

/-- Nothing panics, and with an error the target directory is as it was, the temporary
directory apart. -/
def SafeBeside {α : Type} (temp target : List OsName) (x : Fallible (Exit APIError) NodeDisk α)
    (s : NodeDisk) : Prop :=
  StopsOnly Exit.answers x s ∧
    ∀ e s', x s = .error e s' → ∀ p, ¬temp <+: target ++ p → s' (target ++ p) = s (target ++ p)

variable {tools : RestoreTools} {unarchive : Unarchiver} {password : String}
  {bytes zipped : List UInt8} {temp target : List OsName} {s s' t : NodeDisk}

section Beside

variable {α β : Type} {x : Fallible (Exit APIError) NodeDisk α}
  {f : α → Fallible (Exit APIError) NodeDisk β}

/-- What is done in the temporary directory does not matter. -/
theorem safeBeside_bind_iff {a : α} (h : x s = .ok a s') (hsame : SameOutside temp s s') :
    SafeBeside temp target (x >>= f) s ↔ SafeBeside temp target (f a) s' := by
  refine and_congr (StopsOnly.bind_of_ok_iff h) ?_
  rw [bind_of_ok h]
  refine forall₃_congr fun e u _ => forall₂_congr fun p hp => ?_
  rw [hsame _ hp]

theorem safeBeside_of_error {e : APIError} (h : x s = .error (.err e) s')
    (hsame : SameOutside temp s s') : SafeBeside temp target x s := by
  refine ⟨fun e' u he => ?_, fun e' u he p hp => ?_⟩
  · obtain ⟨rfl, -⟩ := EStateM.Result.error.inj (h.symm.trans he)
    trivial
  · obtain ⟨-, rfl⟩ := EStateM.Result.error.inj (h.symm.trans he)
    exact hsame _ hp

theorem not_safeBeside_of_panic {held : Option Mutex} {message : String}
    (h : x s = .error (.panic held message) s') : ¬SafeBeside temp target x s :=
  fun hsafe => hsafe.1 _ _ h

end Beside

/-- An archive is extracted safely if and only if what is written before an entry that
cannot be extracted is there already. -/
theorem safeBeside_unzipItems_iff {zipPath : List OsName} (hs : Extractable target s)
    (hfile : s zipPath = some (.file zipped)) :
    SafeBeside temp target (unzipItems unarchive zipPath target) s ↔
      ∀ items, unarchive zipped = .ok items →
        TreeOp.Keeps (fun p => temp <+: target ++ p) (s.sub target) (itemsOps [] items) := by
  have hunzip := unzipItems_of_file unarchive hfile target
  cases hitems : unarchive zipped with
  | error message =>
    rw [hitems] at hunzip
    exact iff_of_true (safeBeside_of_error hunzip fun _ _ => rfl) fun items hok => by cases hok
  | ok items =>
    rw [hitems] at hunzip
    have hkeeps := TreeOp.keeps_iff (fun p => temp <+: target ++ p) (s.sub target)
      (itemsOps [] items)
    have hrun := hunzip.trans (extractItems_apply hs items)
    constructor
    · intro hsafe items' hok
      obtain rfl := Except.ok.inj hok
      refine hkeeps.mp fun e u herror p hp => ?_
      have hsame := hsafe.2 e _ (hrun.trans (zoom_of_error herror)) p hp
      rwa [← sub_apply (s.graft target u), sub_graft] at hsame
    · intro hsafe
      refine ⟨fun e s' herror => ?_, fun e s' herror p hp => ?_⟩
      · exact stopsOnly_extractItems hs items e s' (hunzip.symm.trans herror)
      · cases hops : runOps (itemsOps [] items) (s.sub target) with
        | ok _ u => cases (hrun.trans (zoom_of_ok hops)).symm.trans herror
        | error e' u =>
          obtain ⟨-, rfl⟩ :=
            EStateM.Result.error.inj ((hrun.trans (zoom_of_error hops)).symm.trans herror)
          rw [← sub_apply (s.graft target u), sub_graft]
          exact hkeeps.mpr (hsafe items rfl) e' u hops p hp

section Setting

variable {path tempName : List Char}

/-- The temporary directory is made beside the file, and is removed in the end. -/
theorem restoreFile_apply (h : FileSetting tools.cwd bytes t path tempName target) :
    restoreFile tools tempName path password target t =
      removing (tempDir tools.cwd path tempName)
        (restoreFileIn tools path password target (tempDir tools.cwd path tempName))
        (t.put (tempDir tools.cwd path tempName) .dir) := by
  obtain ⟨names, hparent, hmissing, hblocked, -⟩ := exists_parent_of_file h.wellFormed h.backup
  have hfree := h.temp_free names hparent
  have hmade := createDirAll_apply fileInWay t (pathBase tools.cwd path) names
  rw [hblocked, hmissing, withDirs_nil, if_neg (by decide)] at hmade
  rw [tempDir, hparent, Option.getD_some, restoreFile, inTempDir, hparent,
    bind_of_ok (expect_some _ _ _), bind_of_ok hmade, bind_of_ok (get_apply t), hfree,
    bind_of_ok (by rw [ensure_apply]; rfl), bind_of_ok (modify_apply _ t)]

namespace FileSetting

variable {cwd : List OsName} (h : FileSetting cwd bytes t path tempName target)

include h

theorem temp_none : t (tempDir cwd path tempName) = none := by
  obtain ⟨names, hparent, -⟩ := exists_parent_of_file h.wellFormed h.backup
  rw [tempDir, hparent]
  exact h.temp_free names hparent

theorem none_of_below {q : List OsName} (hq : tempDir cwd path tempName <+: q) : t q = none := by
  by_contra hsome
  have htemp := h.wellFormed.isSome_of_above hq (Option.isSome_iff_ne_none.mpr hsome)
  rw [h.temp_none] at htemp
  cases htemp

theorem extractable_temp :
    Extractable (tempDir cwd path tempName) (t.put (tempDir cwd path tempName) .dir) := by
  refine ⟨?_, put_self ..⟩
  obtain ⟨names, hparent, -, -, hdir⟩ := exists_parent_of_file h.wellFormed h.backup
  have hnone := h.temp_none
  rw [tempDir, hparent, Option.getD_some] at hnone ⊢
  exact h.wellFormed.put hdir (by rw [hnone]; simp) .dir

theorem sub_temp :
    (t.put (tempDir cwd path tempName) .dir).sub (tempDir cwd path tempName) =
      FileTree.empty := by
  have hempty := emptyDir_put h.wellFormed h.temp_none
  funext q
  cases q with
  | nil =>
    rw [sub_apply, List.append_nil, hempty.dir]
    rfl
  | cons name q => exact hempty.empty _ (List.cons_ne_nil name q)

theorem not_temp_above : ¬tempDir cwd path tempName <+: target := fun habove => by
  cases h.target_dir.symm.trans (h.none_of_below habove)

end FileSetting

/-- With the temporary directory all that is in it goes. -/
theorem restoresSafely_iff_safeBeside {x y : Fallible (Exit APIError) NodeDisk Unit}
    (h : x t = removing temp y (t.put temp .dir)) (hnone : ∀ q, temp <+: q → t q = none) :
    RestoresSafely x target t ↔ SafeBeside temp target y (t.put temp .dir) := by
  have hsame : ∀ q, ¬temp <+: q → t.put temp .dir q = t q := fun q hq => put_of_ne _ _ (by
    rintro rfl
    exact hq (List.prefix_refl q))
  unfold RestoresSafely SafeBeside StopsOnly
  rw [h, removing]
  cases hy : y (t.put temp .dir) with
  | ok a s => exact iff_of_true (by simp) (by simp)
  | error e s =>
    constructor
    · rintro ⟨hanswers, hkeeps⟩
      refine ⟨fun e' s' he => hanswers e' (s'.removeAll temp) ?_, fun e' s' he p hp => ?_⟩
      · obtain ⟨rfl, rfl⟩ := EStateM.Result.error.inj he
        rfl
      · obtain ⟨rfl, rfl⟩ := EStateM.Result.error.inj he
        rw [hsame _ hp, ← hkeeps _ _ rfl p, removeAll_of_not_below _ hp]
    · rintro ⟨hanswers, hkeeps⟩
      refine ⟨fun e' s' he => hanswers e' s ?_, fun e' s' he p => ?_⟩
      · obtain ⟨rfl, rfl⟩ := EStateM.Result.error.inj he
        rfl
      · obtain ⟨rfl, rfl⟩ := EStateM.Result.error.inj he
        by_cases hp : temp <+: target ++ p
        · rw [removeAll_of_below _ hp, hnone _ hp]
        · rw [removeAll_of_not_below _ hp, hkeeps _ _ rfl p hp, hsame _ hp]

/-- What is put in the temporary directory can be told from what is in that. -/
theorem put_eq_graft_of_same (q : List OsName) (e : FileEntry (List UInt8))
    (hsame : ∀ q, ¬temp <+: q → s q = t q) :
    s.put (temp ++ q) e = t.graft temp ((s.sub temp).put q e) := by
  refine eq_graft_iff.mpr ⟨sub_put .., fun r hr => ?_⟩
  rw [put_of_ne _ _ fun heq => hr ⟨q, heq.symm⟩, hsame r hr]

/-- A box that has been extracted is safe if and only if a nonce that is accepted is long
enough and what is decrypted is extracted safely. -/
theorem safeBeside_decryptBox_iff (hs : Extractable temp s) (habove : ¬temp <+: target)
    (htarget : s target = some .dir) :
    SafeBeside temp target
        (decryptBox tools password temp >>= fun _ =>
          unzipItems tools.unarchive (temp ++ [backupZip]) target) s ↔
      (∀ nonce salt hash, Accepted tools.toBackupCrypto password (s.sub temp) nonce salt hash →
        backupNonceLength ≤ (utf8Bytes nonce).length) ∧
      ∀ zipped, Decrypts tools.toBackupCrypto password (s.sub temp) zipped → ∀ items,
        tools.unarchive zipped = .ok items →
          TreeOp.Keeps (fun p => temp <+: target ++ p)
            ((s.put (temp ++ [backupZip]) (.file zipped)).sub target) (itemsOps [] items) := by
  by_cases hlong : ∀ nonce salt hash,
      Accepted tools.toBackupCrypto password (s.sub temp) nonce salt hash →
        backupNonceLength ≤ (utf8Bytes nonce).length
  case neg =>
    refine iff_of_false ?_ fun hsafe => hlong hsafe.1
    simp only [not_forall, not_le, exists_prop] at hlong
    obtain ⟨nonce, salt, hash, haccepted, hshort⟩ := hlong
    obtain ⟨message, hpanic⟩ := decryptBox_of_short_nonce haccepted hshort
    exact not_safeBeside_of_panic (bind_of_error hpanic)
  refine Iff.trans ?_ (and_iff_right hlong).symm
  by_cases hdecrypts : ∃ zipped, Decrypts tools.toBackupCrypto password (s.sub temp) zipped
  case neg =>
    obtain ⟨e, s', herror, hsame⟩ := decryptBox_of_no_archive hs.dir hlong hdecrypts
    refine iff_of_true (safeBeside_of_error (bind_of_error herror) hsame) ?_
    exact fun zipped hzipped => absurd ⟨zipped, hzipped⟩ hdecrypts
  obtain ⟨zipped, hzipped⟩ := hdecrypts
  have hsame : SameOutside temp s (s.put (temp ++ [backupZip]) (.file zipped)) := fun q hq =>
    put_of_ne _ _ fun heq => hq ⟨_, heq.symm⟩
  have hs' : Extractable target (s.put (temp ++ [backupZip]) (.file zipped)) := by
    refine ⟨wellFormed_put_file hs.wellFormed hzipped.not_dir ?_ _, ?_⟩
    · rw [List.dropLast_concat, hs.dir]
    · rw [hsame _ habove, htarget]
  rw [safeBeside_bind_iff (decryptBox_of_decrypts hs.dir hzipped) hsame,
    safeBeside_unzipItems_iff hs' (put_self ..)]
  constructor
  · intro hkeeps zipped' hzipped'
    rwa [hzipped'.unique hzipped]
  · exact fun hsafe => hsafe zipped hzipped

/-- A restore is safe in its temporary directory if and only if the file is. -/
theorem safeBeside_restoreFileIn_iff (h : FileSetting tools.cwd bytes t path tempName target)
    (htemp : tempDir tools.cwd path tempName = temp) :
    SafeBeside temp target (restoreFileIn tools path password target temp) (t.put temp .dir) ↔
      SafeFile tools bytes password t target temp := by
  have hs₀ := h.extractable_temp
  have hempty := h.sub_temp
  have habove := h.not_temp_above
  have hnone := h.temp_none
  rw [htemp] at hs₀ hempty habove hnone
  obtain ⟨file, hfollow, hfile⟩ := backup_put hnone h.backup
  rw [restoreFileIn, safeBeside_bind_iff (get_apply _) fun _ _ => rfl, hfollow,
    safeBeside_bind_iff (expect_some file _ _) fun _ _ => rfl]
  obtain ⟨box, s, hbox, hunzip, hs, rfl, hsame⟩ | ⟨hno, e, s, herror, hsame⟩ :=
    unzipItems_into_empty tools.unarchive hs₀ hempty hfile
  case inr =>
    refine iff_of_true (safeBeside_of_error (bind_of_error herror) hsame) ⟨?_, ?_⟩
    · exact fun box hbox => absurd ⟨box, hbox⟩ hno
    · exact fun box hbox => absurd ⟨box, hbox⟩ hno
  have hkept : ∀ q, ¬temp <+: q → s q = t q := fun q hq => by
    rw [hsame q hq, put_of_ne]
    rintro rfl
    exact hq (List.prefix_refl q)
  rw [safeBeside_bind_iff hunzip hsame,
    safeBeside_decryptBox_iff hs habove ((hkept _ habove).trans h.target_dir)]
  simp only [put_eq_graft_of_same _ _ hkept]
  constructor
  · rintro ⟨hlong, hkeeps⟩
    refine ⟨fun box hbox' => ?_, fun box hbox' => ?_⟩
    · rwa [hbox'.unique hbox]
    · rwa [hbox'.unique hbox]
  · exact fun hsafe => ⟨hsafe.long_nonce _ hbox, hsafe.keeps_target _ hbox⟩

/-- A restore does not panic and keeps the target directory with an error if and only if
the file is safe to restore from. -/
theorem restoresSafely_iff (h : FileSetting tools.cwd bytes t path tempName target) :
    RestoresSafely (restoreFile tools tempName path password target) target t ↔
      SafeFile tools bytes password t target (tempDir tools.cwd path tempName) :=
  (restoresSafely_iff_safeBeside (restoreFile_apply h) fun _ => h.none_of_below).trans
    (safeBeside_restoreFileIn_iff h rfl)

end Setting

/-! ### Files that are safe and files that are not -/

noncomputable def plainRestoreTools : RestoreTools := plainTools.toRestoreTools

theorem unarchive_listCode (entries : List ZipEntry) :
    plainRestoreTools.unarchive (listCode zipEntryCode entries) =
      .ok (entries.map fun x => .ok (.ofEntry x)) := by
  have hunzip := lawful_plainTools.archiver.unzip_zip entries _ rfl
  rw [plainRestoreTools, unarchive_toRestoreTools, hunzip]
  exact congrArg Except.ok (List.map_map ..)

/-- A file with an archive in it, and with a nonce to decrypt that. -/
def boxFile (nonce : String) (entries : List ZipEntry) : List UInt8 :=
  listCode zipEntryCode
    [⟨["backup.nonce".toList], .file (utf8Bytes nonce)⟩,
      ⟨["backup.salt".toList], .file (utf8Bytes "c2FsdHNhbHQ")⟩,
      ⟨["backup.version".toList], .file (utf8Bytes (toString backupVersion))⟩,
      ⟨["backup.enc".toList],
        .file (plainCrypto.encryptChunk ⟨[], []⟩ 0 true (listCode zipEntryCode entries))⟩]

/-- What comes out of it. -/
def boxTree (nonce : String) (entries : List ZipEntry) : NodeDisk :=
  (((empty.put [backupNonce] (.file (utf8Bytes nonce))).put [backupSalt]
    (.file (utf8Bytes "c2FsdHNhbHQ"))).put [backupVersionFile]
      (.file (utf8Bytes (toString backupVersion)))).put [backupEnc]
        (.file (plainCrypto.encryptChunk ⟨[], []⟩ 0 true (listCode zipEntryCode entries)))

def nodeName : OsName := .text "node".toList

/-- A disk with the directory of a wallet and a file beside it. -/
def boxDisk (bytes : List UInt8) : NodeDisk :=
  (empty.put [nodeName] .dir).put [.text "backup".toList] (.file bytes)

variable {nonce : String} {entries : List ZipEntry}

theorem fileSetting_boxDisk (bytes : List UInt8) :
    FileSetting plainRestoreTools.cwd bytes (boxDisk bytes) "backup".toList ".tmp".toList
      [nodeName] where
  wellFormed := by
    have hnode : (empty.put [nodeName] .dir : NodeDisk).WellFormed :=
      wellFormed_empty.put (p := []) rfl (by simp [empty]) _
    exact hnode.put (p := []) rfl (by decide) _
  backup := ⟨_, rfl, put_self ..⟩
  target_dir := rfl
  temp_free parent hparent := by
    obtain rfl := Option.some.inj hparent
    rfl

theorem holdsTree_boxFile (nonce : String) (entries : List ZipEntry) :
    HoldsTree plainRestoreTools.unarchive (boxFile nonce entries) (boxTree nonce entries) := by
  refine ⟨_, unarchive_listCode _, ?_⟩
  refine TreeOp.run_eq_ok_iff.mp (?_ : runOps _ empty = .ok () _)
  rfl

theorem accepted_boxTree (nonce : String) (entries : List ZipEntry) :
    ∃ hash, Accepted plainCrypto "password" (boxTree nonce entries) nonce "c2FsdHNhbHQ" hash :=
  ⟨_, fromUTF8_utf8Bytes nonce, fromUTF8_utf8Bytes "c2FsdHNhbHQ",
    ⟨_, fromUTF8_utf8Bytes (toString backupVersion), parseU8_backupVersion⟩, rfl⟩

theorem decrypts_boxTree (hlong : backupNonceLength ≤ (utf8Bytes nonce).length)
    (hshort : (listCode zipEntryCode entries).length < backupBufferLenEncrypt) :
    Decrypts plainCrypto "password" (boxTree nonce entries) (listCode zipEntryCode entries) := by
  obtain ⟨hash, haccepted⟩ := accepted_boxTree nonce entries
  refine ⟨nonce, _, hash, _, haccepted, hlong, rfl, fun hdir => (nomatch hdir), ?_⟩
  refine BackupCrypto.decryptFrom_encryptFrom lawful_plainCrypto ?_
  rw [BackupCrypto.encryptFrom, if_neg (not_le.mpr hshort)]
  rfl

/-- Files in nested directories, a directory that comes twice, and an empty one. -/
def nestedEntries : List ZipEntry :=
  [⟨["data".toList], .file [7]⟩, ⟨["deep".toList, "nested".toList, "page".toList], .file [4, 5]⟩,
    ⟨["deep".toList], .dir⟩, ⟨["cache".toList], .dir⟩,
    ⟨["deep".toList, "index".toList], .file []⟩]

def nestedFile : List UInt8 := boxFile "0123456789012345678" nestedEntries

/-- A file whose archive is extracted to its end is safe. -/
theorem restoresSafely_of_nestedEntries :
    FileSetting plainRestoreTools.cwd nestedFile (boxDisk nestedFile) "backup".toList
        ".tmp".toList [nodeName] ∧
      RestoresSafely
        (restoreFile plainRestoreTools ".tmp".toList "backup".toList "password" [nodeName])
        [nodeName] (boxDisk nestedFile) := by
  refine ⟨fileSetting_boxDisk _, (restoresSafely_iff (fileSetting_boxDisk _)).mpr ⟨?_, ?_⟩⟩
  · intro box hbox nonce salt hash haccepted
    obtain rfl := hbox.unique (holdsTree_boxFile _ _)
    obtain ⟨hash', haccepted'⟩ := accepted_boxTree "0123456789012345678" nestedEntries
    obtain ⟨rfl, -, -⟩ := haccepted.unique haccepted'
    decide +kernel
  · intro box hbox zipped hzipped items hitems
    obtain rfl := hbox.unique (holdsTree_boxFile _ _)
    obtain rfl := hzipped.unique (decrypts_boxTree (by decide +kernel) (by decide +kernel))
    obtain rfl := Except.ok.inj ((unarchive_listCode _).symm.trans hitems)
    have hrun : runOps (itemsOps [] (nestedEntries.map fun x => .ok (.ofEntry x)))
        ((boxDisk nestedFile).sub [nodeName]) = .ok () _ := rfl
    exact TreeOp.keeps_of_smooth _ (TreeOp.run_eq_ok_iff.mp hrun).1

/-- A nonce that is too short panics. An archive that has a file as a directory, too, is
restored up to there. -/
theorem not_restoresSafely_of_foreign :
    ¬RestoresSafely
        (restoreFile plainRestoreTools ".tmp".toList "backup".toList "password" [nodeName])
        [nodeName] (boxDisk (boxFile "" [])) ∧
      ¬RestoresSafely
        (restoreFile plainRestoreTools ".tmp".toList "backup".toList "password" [nodeName])
        [nodeName] (boxDisk (boxFile "0123456789012345678"
          [⟨["0".toList], .file [7]⟩, ⟨["0".toList, "0".toList], .file []⟩])) := by
  have hfile : ∀ bytes, RestoresSafely
      (restoreFile plainRestoreTools ".tmp".toList "backup".toList "password" [nodeName])
      [nodeName] (boxDisk bytes) →
        SafeFile plainRestoreTools bytes "password" (boxDisk bytes) [nodeName]
          (tempDir plainRestoreTools.cwd "backup".toList ".tmp".toList) := fun bytes hsafe => by
    have h := fileSetting_boxDisk bytes
    exact (safeBeside_restoreFileIn_iff h rfl).mp
      ((restoresSafely_iff_safeBeside (restoreFile_apply h) fun _ => h.none_of_below).mp hsafe)
  constructor
  · intro hsafe
    obtain ⟨hash, haccepted⟩ := accepted_boxTree "" []
    have hlong := (hfile _ hsafe).long_nonce _ (holdsTree_boxFile _ _) _ _ _ haccepted
    exact absurd hlong (by decide +kernel)
  · intro hsafe
    have hkeeps := (hfile _ hsafe).keeps_target _ (holdsTree_boxFile _ _) _
      (decrypts_boxTree (by decide +kernel) (by decide +kernel)) _ (unarchive_listCode _)
    -- the file is written, and then a directory of its name is to be made
    have hwritten := hkeeps [.write [.text "0".toList] [7] _] (.mkdir [.text "0".toList] _) _ rfl
      ⟨fun hdir => (nomatch hdir), trivial⟩ ⟨[7], rfl⟩ [.text "0".toList] (by decide) _ rfl
    cases hwritten

end RgbLightningNode
