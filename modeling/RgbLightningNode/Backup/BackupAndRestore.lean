import Mathlib.Data.List.Permutation
import RgbLightningNode.Backup.PlainTools
import RgbLightningNode.Backup.RoundTrip

/-!
# Backup and restore

A backup that is restored gives back the wallet directory, but for what lies in its
way: directories that are made in it for the backup file, a backup file in it, and
directories that have the end of their names in common with `logs`.
-/

namespace RgbLightningNode

open Fallible FileTree PathStep

/-! ### Disks with a wallet directory -/

def walletName : OsName := .text "wallet".toList

/-- A disk with a wallet directory in which there is this. -/
def walletOf (entries : List ZipEntry) : NodeDisk :=
  ofList (([], .dir) :: ([walletName], .dir) ::
    entries.map fun x => (walletName :: x.path, x.entry))

/-- What there is in a directory. -/
def directoryOf (entries : List ZipEntry) : NodeDisk :=
  ofList (([], .dir) :: entries.map fun x => (x.path, x.entry))

/-- Every entry lies in a directory, and no path comes twice. -/
structure IsListing (entries : List ZipEntry) : Prop where
  parents : ∀ x ∈ entries, x.path ≠ [] ∧ directoryOf entries x.path.dropLast = some .dir
  nodup : (entries.map ZipEntry.path).Nodup

def someDraws : BackupDraws :=
  ⟨".tmp".toList, tmp_begins, "c2FsdHNhbHQ", "0123456789012345678"⟩

variable {entries : List ZipEntry}

theorem sub_walletOf (entries : List ZipEntry) :
    (walletOf entries).sub [walletName] = directoryOf entries := by
  have hlookup : ∀ (entries : List ZipEntry) (p : List OsName),
      (entries.map fun x => (walletName :: x.path, x.entry)).lookup (walletName :: p) =
        (entries.map fun x => (x.path, x.entry)).lookup p := by
    intro entries p
    induction entries with
    | nil => rfl
    | cons x entries ih =>
      have hhead : (walletName :: p == walletName :: x.path) = (p == x.path) := by simp
      rw [List.map_cons, List.map_cons, List.lookup_cons, List.lookup_cons, hhead, ih]
  funext p
  change ofList _ (walletName :: p) = _
  rw [directoryOf, ofList, ofList, List.lookup_cons, List.lookup_cons, List.lookup_cons, hlookup]
  cases p <;> rfl

theorem walletOf_dir (entries : List ZipEntry) : walletOf entries [walletName] = some .dir := rfl

/-- Nothing is beside the wallet directory. -/
theorem walletOf_eq_none {name : OsName} (hname : name ≠ walletName) (p : List OsName) :
    walletOf entries (name :: p) = none := by
  rw [← Option.not_isSome_iff_eq_none, walletOf, ofList_isSome_iff]
  simp only [List.map_cons, List.map_map, List.mem_cons, List.mem_map, Function.comp,
    List.cons.injEq, reduceCtorEq, hname, hname.symm, false_and, and_false, exists_false, or_self,
    not_false_eq_true]

theorem IsListing.wellFormed (h : IsListing entries) : (walletOf entries).WellFormed := by
  refine wellFormed_ofList rfl (List.forall_mem_cons.mpr ⟨fun hnil => absurd rfl hnil,
    List.forall_mem_cons.mpr ⟨fun _ => rfl, fun x hx _ => ?_⟩⟩)
  obtain ⟨y, hy, rfl⟩ := List.mem_map.mp hx
  obtain ⟨hne, hdir⟩ := h.parents y hy
  rw [List.dropLast_cons_of_ne_nil hne]
  exact (congrFun (sub_walletOf entries) y.path.dropLast).trans hdir

/-- The walk through the wallet directory lists it in some order. -/
theorem IsListing.walkDir_perm (h : IsListing entries) {arch : Archiver} (ha : arch.Lawful)
    (hdir : (directoryOf entries).WellFormed) :
    (arch.walkDir (directoryOf entries)).Perm ([] :: entries.map ZipEntry.path) := by
  have hnil : [] ∉ entries.map ZipEntry.path := fun hmem => by
    obtain ⟨x, hx, hpath⟩ := List.mem_map.mp hmem
    exact (h.parents x hx).1 hpath
  refine (List.perm_ext_iff_of_nodup (ha.nodup_walkDir _)
    (List.nodup_cons.mpr ⟨hnil, h.nodup⟩)).mpr fun p => ?_
  rw [ha.mem_walkDir _ hdir, directoryOf, ofList_isSome_iff, List.map_cons, List.map_map]
  rfl

/-- The disk when the wallet directory is archived. -/
def archivedDisk (t : NodeDisk) : NodeDisk :=
  (t.put [.text someDraws.tempName] .dir).put ([.text someDraws.tempName] ++ [backupZip])
    (.file [])

theorem sub_archivedDisk (t : NodeDisk) :
    (archivedDisk t).sub [walletName] = t.sub [walletName] := by
  have hnot : ∀ rest, ¬[walletName] <+: .text someDraws.tempName :: rest := fun rest h =>
    absurd (List.cons_prefix_cons.mp h).1 (by decide)
  exact (sub_put_of_not_below _ _ (hnot [backupZip])).trans (sub_put_of_not_below _ _ (hnot []))

theorem entriesAt_congr {t t' : NodeDisk} {pathIn : List OsName}
    (h : t.sub pathIn = t'.sub pathIn) : entriesAt t pathIn = entriesAt t' pathIn := by
  funext name
  have hname : t (pathIn ++ name) = t' (pathIn ++ name) := congrFun h name
  rw [entriesAt, entriesAt, hname]

/-- A wallet directory that is not too large can be backed up. -/
theorem IsListing.exists_doBackup (h : IsListing entries) {tools : BackupTools}
    (ht : tools.Lawful)
    (hzip : ∀ entries, tools.zip entries = .ok (listCode zipEntryCode entries))
    {secrets : CypherSecrets}
    (hsecrets : tools.getCypherSecrets "password" someDraws.salt someDraws.nonce = .ok secrets)
    (hshort : (listCode zipEntryCode (([] :: entries.map ZipEntry.path).flatMap
      (entriesAt (walletOf entries) [walletName]))).length <
        backupBufferLenEncrypt * streamCounterMax) :
    ∃ t', doBackup tools someDraws [walletName] "/backup".toList "password" (walletOf entries) =
      .ok () t' := by
  have hdir : (directoryOf entries).WellFormed := by
    rw [← sub_walletOf]
    exact h.wellFormed.sub (walletOf_dir entries)
  have hwalk := h.walkDir_perm ht.archiver hdir
  have htext : ∀ name ∈ tools.walkDir (directoryOf entries),
      ∃ nameStr : List (List Char), name = nameStr.map .text := by
    intro name hname
    obtain rfl | hmem := List.mem_cons.mp (hwalk.mem_iff.mp hname)
    · exact ⟨[], rfl⟩
    · obtain ⟨x, -, rfl⟩ := List.mem_map.mp hmem
      exact ⟨x.name, rfl⟩
  have hout : ¬[walletName] <+: [.text someDraws.tempName] ++ [backupZip] := by decide
  have hentries : tools.zipEntries (archivedDisk (walletOf entries)) [walletName]
      ([.text someDraws.tempName] ++ [backupZip])
      (tools.walkDir ((archivedDisk (walletOf entries)).sub [walletName])) [] =
        .ok ((tools.walkDir (directoryOf entries)).flatMap
          (entriesAt (walletOf entries) [walletName])) := by
    rw [sub_archivedDisk, sub_walletOf, zipEntries_eq_ok_flatMap _ _ htext hout,
      entriesAt_congr (sub_archivedDisk _), List.nil_append]
  -- the length of the archive does not depend on the order
  have hlength : (listCode zipEntryCode ((tools.walkDir (directoryOf entries)).flatMap
      (entriesAt (walletOf entries) [walletName]))).length <
        backupBufferLenEncrypt * (streamCounterMax - 0) := by
    rw [length_listCode, ((hwalk.flatMap_right _).map _).sum_eq, ← length_listCode]
    exact hshort
  obtain ⟨encrypted, hencrypted⟩ := exists_encryptFrom tools.toBackupCrypto secrets 0 hlength
  have hsteps : pathSteps "/backup".toList = [.here] ++ [.into (.text "backup".toList)] := rfl
  have hfollow : (walletOf entries).follow (pathBase tools.cwd "/backup".toList)
      (pathSteps "/backup".toList) = some [.text "backup".toList] := rfl
  have hbeside : ∀ {name : List Char}, OsName.text name ≠ walletName →
      walletOf entries [.text name] = none := fun hname => walletOf_eq_none hname []
  exact RgbLightningNode.exists_doBackup ht h.wellFormed (fun entries => ⟨_, hzip entries⟩) hsteps
    hfollow (hbeside (by decide)) rfl (hbeside (by decide)) (by decide) hentries (hzip _) hsecrets
    hencrypted

theorem liesOutside_backup :
    LiesOutside [walletName] (fileOf plainTools.cwd "/backup".toList).dropLast := by
  intro d hd
  have hd : [] = walletName :: d := hd
  cases hd

/-! ### Backup and restore -/

/-- A backup leaves the wallet directory as it was if and only if no directory is made
in it, and one that succeeds can then be restored if and only if the backup file lies
outside and no directory is lost for its name. -/
theorem doBackup_restoreBackup_iff {tools : BackupTools} (ht : tools.Lawful)
    (draws : BackupDraws) (walletDir : List OsName) (path : List Char) (password : String)
    {t : NodeDisk} (hwf : t.WellFormed) (hcwd : t (pathBase tools.cwd path) = some .dir)
    (hwallet : t walletDir = some .dir) :
    (Unchanged tools.cwd path walletDir t
        (after (doBackup tools draws walletDir path password) t) ↔
      ∀ p, walletDir ++ p ∉ newDirs t tools.cwd path) ∧
    ∀ t', doBackup tools draws walletDir path password t = .ok () t' →
      (Unchanged tools.cwd path walletDir t t' ∧
          RoundTrip tools password (t.sub walletDir) (fileOf tools.cwd path) t' ↔
        (∀ p, walletDir ++ p ∉ newDirs t tools.cwd path) ∧
          LiesOutside walletDir (fileOf tools.cwd path).dropLast ∧
          KeepsLogs (t.sub walletDir) walletDir (fileOf tools.cwd path).dropLast) := by
  have hunchanged := unchanged_doBackup_iff tools draws walletDir path password hwf hcwd
  refine ⟨hunchanged, fun t' h => ?_⟩
  rw [after_of_ok h] at hunchanged
  rw [hunchanged]
  exact and_congr_right fun hnew => roundTrip_iff ht hwf hcwd hwallet hnew h

/-- A wallet directory with files, with an empty directory and with one in another, with
a directory whose name only ends with `logs`, and with logs. -/
def nestedWallet : List ZipEntry :=
  [⟨["data".toList], .file [1, 2, 3]⟩, ⟨["cache".toList], .dir⟩, ⟨["deep".toList], .dir⟩,
    ⟨["deep".toList, "nested".toList], .dir⟩,
    ⟨["deep".toList, "nested".toList, "page".toList], .file [4]⟩,
    ⟨["dialogs".toList], .dir⟩, ⟨["dialogs".toList, "page".toList], .file [5]⟩,
    ⟨["log".toList], .file [6]⟩, ⟨["logs".toList], .dir⟩]

theorem isListing_nestedWallet : IsListing nestedWallet where
  parents := by decide
  nodup := by decide

theorem keepsLogs_nestedWallet : KeepsLogs (directoryOf nestedWallet) [walletName] [] := by
  intro p hp hends hlogs
  -- of the directories only two have such a name, and one of them is `logs`
  have hnames : ∀ x ∈ nestedWallet, x.entry = .dir → EndsWithLogs x.path →
      x.path = [.text "dialogs".toList] ∨ .text logsDir ∈ x.path := by
    decide
  obtain hroot | hmem := List.mem_cons.mp (mem_of_ofList_eq_some hp)
  · obtain ⟨rfl, -⟩ := Prod.mk.inj hroot
    exact absurd hends (by decide)
  · obtain ⟨x, hx, hx'⟩ := List.mem_map.mp hmem
    obtain ⟨rfl, hentry⟩ := Prod.mk.inj hx'
    have hdialogs := (hnames x hx hentry hends).resolve_right hlogs
    refine .inl ⟨[.text "dialogs".toList, .text "page".toList], .file [5], by decide, ?_, ?_⟩
    · exact fun hlog => absurd hlog (by decide)
    · rw [hdialogs]
      decide

/-- It is backed up and restored. -/
theorem roundTrip_of_nestedWallet :
    ∃ t', doBackup plainTools someDraws [walletName] "/backup".toList "password"
        (walletOf nestedWallet) = .ok () t' ∧
      Unchanged plainTools.cwd "/backup".toList [walletName] (walletOf nestedWallet) t' ∧
      RoundTrip plainTools "password" ((walletOf nestedWallet).sub [walletName])
        (fileOf plainTools.cwd "/backup".toList) t' := by
  obtain ⟨t', h⟩ := isListing_nestedWallet.exists_doBackup lawful_plainTools (fun _ => rfl) rfl
    (by decide +kernel)
  refine ⟨t', h, ((doBackup_restoreBackup_iff lawful_plainTools someDraws [walletName]
    "/backup".toList "password" isListing_nestedWallet.wellFormed rfl (walletOf_dir _)).2 t' h).mpr
    ⟨fun p => List.not_mem_nil, liesOutside_backup, ?_⟩⟩
  rw [sub_walletOf]
  exact keepsLogs_nestedWallet

/-- An empty directory is lost for the end of its name. -/
theorem not_roundTrip_of_dialogs :
    ∃ t', doBackup plainTools someDraws [walletName] "/backup".toList "password"
        (walletOf [⟨["dialogs".toList], .dir⟩]) = .ok () t' ∧
      ¬RoundTrip plainTools "password"
        ((walletOf [⟨["dialogs".toList], .dir⟩]).sub [walletName])
        (fileOf plainTools.cwd "/backup".toList) t' := by
  have hlisting : IsListing [⟨["dialogs".toList], .dir⟩] := ⟨by decide, by decide⟩
  obtain ⟨t', h⟩ := hlisting.exists_doBackup lawful_plainTools (fun _ => rfl) rfl
    (by decide +kernel)
  refine ⟨t', h, fun hround => ?_⟩
  obtain ⟨-, hkeeps⟩ := (roundTrip_iff lawful_plainTools hlisting.wellFormed rfl
    (walletOf_dir _) (fun p => List.not_mem_nil) h).mp hround
  rw [sub_walletOf] at hkeeps
  obtain ⟨q, e, hq, harchived, hleads⟩ | ⟨d, hd, -⟩ := hkeeps [.text "dialogs".toList] rfl
    ⟨"dialogs".toList, rfl, by decide⟩ (by decide)
  · obtain hq | hq := List.mem_pair.mp (mem_of_ofList_eq_some hq)
    · obtain ⟨rfl, -⟩ := Prod.mk.inj hq
      exact absurd (List.prefix_nil.mp hleads) (by decide)
    · obtain ⟨rfl, rfl⟩ := Prod.mk.inj hq
      exact harchived.2 ⟨"dialogs".toList, rfl, by decide⟩
  · have hd : [] = walletName :: d := hd
    cases hd

end RgbLightningNode
