import RgbLightningNode.Backup.Restored

/-!
# A backup that is restored

What is restored is the wallet directory when the backup file does not lie in it and
every directory whose name ends with `logs` has an archived entry below. Where the
backup file does lie in it, the temporary directory is archived with the rest.
-/

namespace RgbLightningNode

open Fallible FileTree PathStep

/-- What a backup is to leave out: files named `log`, and directories named `logs`
with all they contain. -/
def LeftOut (w : NodeDisk) (p : List OsName) : Prop :=
  (∃ content, w p = some (.file content)) ∧ p.getLast? = some (.text "log".toList) ∨
    ∃ q, q <+: p ∧ w q = some .dir ∧ q.getLast? = some (.text logsDir)

/-- Two trees are the same but for what a backup is to leave out. -/
def SameWallet (w r : NodeDisk) : Prop :=
  ∀ p e, w p = some e ∧ ¬LeftOut w p ↔ r p = some e ∧ ¬LeftOut r p

/-- A directory does not lie in the wallet directory, or in what is left out of it. -/
def LiesOutside (walletDir dir : List OsName) : Prop :=
  ∀ d, dir = walletDir ++ d → .text logsDir ∈ d

/-- No directory is lost for the end of its name: each has an archived entry below, or
the directory of the backup file. -/
def KeepsLogs (w : NodeDisk) (walletDir dir : List OsName) : Prop :=
  ∀ p, w p = some .dir → EndsWithLogs p → .text logsDir ∉ p →
    HasArchived w p ∨ ∃ d, dir = walletDir ++ d ∧ p <+: d

/-- A tree is the wallet directory with the temporary directory, if that is in it. -/
structure WithTemp (w u : NodeDisk) (walletDir dir : List OsName) (tempName : List Char) :
    Prop where
  begins : ".tmp".toList <+: tempName
  outside : ∀ p, ¬dir ++ [.text tempName] <+: walletDir ++ p → u p = w p
  free : ∀ p, dir ++ [.text tempName] <+: walletDir ++ p → w p = none
  dir_eq : ∀ d, dir = walletDir ++ d → w d = some .dir
  zip_eq : ∀ d, dir = walletDir ++ d →
    ∃ content, u (d ++ [.text tempName, backupZip]) = some (.file content)

theorem HasArchived.above {u : NodeDisk} {p q : List OsName} (h : HasArchived u q)
    (hpq : p <+: q) : HasArchived u p := by
  obtain ⟨r, e, hr, harchived, hqr⟩ := h
  exact ⟨r, e, hr, harchived, hpq.trans hqr⟩

theorem mem_of_getLast?_of_above {p q : List OsName} {name : OsName} (hpq : p <+: q)
    (h : p.getLast? = some name) : name ∈ q :=
  hpq.subset (List.mem_of_getLast? h)

namespace WithTemp

variable {w u r : NodeDisk} {walletDir dir p : List OsName} {tempName : List Char}

theorem tempName_ne (h : WithTemp w u walletDir dir tempName) :
    .text tempName ≠ OsName.text logsDir := by
  intro heq
  have hbegins := h.begins
  rw [OsName.text.inj heq] at hbegins
  exact absurd hbegins (by decide)

theorem eq_of_isSome (h : WithTemp w u walletDir dir tempName) (hp : (w p).isSome) :
    u p = w p := by
  refine h.outside p fun htemp => ?_
  rw [h.free p htemp] at hp
  cases hp

theorem hasArchived (h : WithTemp w u walletDir dir tempName) (hp : HasArchived w p) :
    HasArchived u p := by
  obtain ⟨q, e, hq, harchived, hpq⟩ := hp
  exact ⟨q, e, (h.eq_of_isSome (by rw [hq]; rfl)).trans hq, harchived, hpq⟩

/-- What lies above something in the temporary directory and is not in it itself lies
above the temporary directory. -/
theorem exists_of_above (h : WithTemp w u walletDir dir tempName) {q : List OsName}
    (hp : (w p).isSome) (hpq : p <+: q) (hq : dir ++ [.text tempName] <+: walletDir ++ q) :
    ∃ d, dir = walletDir ++ d ∧ p <+: d := by
  have hnot : ¬dir ++ [.text tempName] <+: walletDir ++ p := fun htemp => by
    rw [h.free p htemp] at hp
    cases hp
  have hp' : walletDir ++ p <+: dir := by
    obtain hbelow | habove := List.prefix_or_prefix_of_prefix hq
      ((List.prefix_append_right_inj walletDir).mpr hpq)
    · exact absurd hbelow hnot
    · obtain heq | hdir := List.prefix_concat_iff.mp habove
      · exact absurd (heq ▸ List.prefix_refl _) hnot
      · exact hdir
  obtain ⟨rest, hrest⟩ := hp'
  exact ⟨p ++ rest, by rw [← hrest, List.append_assoc], List.prefix_append ..⟩

theorem hasArchived_zip (h : WithTemp w u walletDir dir tempName) {d : List OsName}
    (hdir : dir = walletDir ++ d) : HasArchived u (d ++ [.text tempName, backupZip]) := by
  obtain ⟨content, hzip⟩ := h.zip_eq d hdir
  refine ⟨_, _, hzip, ?_, List.prefix_refl _⟩
  show (d ++ [.text tempName, backupZip]).getLast? ≠ _
  rw [List.append_cons, List.getLast?_concat]
  decide

/-- What is left out of the wallet directory is left out of what is restored, and
the other way round, wherever there is something. -/
theorem leftOut_iff (hw : w.WellFormed) (h : WithTemp w u walletDir dir tempName)
    (hr : IsRestoredFrom u r) (hrp : (r p).isSome) (hwp : (w p).isSome) :
    LeftOut w p ↔ LeftOut r p := by
  have hsame : ∀ q, q <+: p → r q = w q := fun q hq => by
    obtain ⟨e, he⟩ := Option.isSome_iff_exists.mp hrp
    obtain ⟨f, hf⟩ := Option.isSome_iff_exists.mp (hw.isSome_of_above hq hwp)
    obtain ⟨-, hkept⟩ := (hr p e).mp he
    rw [hf]
    refine (hr q f).mpr ⟨by rw [h.eq_of_isSome (by rw [hf]; rfl), hf], ?_⟩
    obtain rfl | hkept := hkept
    · exact .inl (List.prefix_nil.mp hq)
    · exact .inr (hkept.above hq)
  unfold LeftOut
  rw [hsame p (List.prefix_refl _)]
  refine or_congr_right (exists_congr fun q => and_congr_right fun hq => ?_)
  rw [hsame q hq]

/-- What is in the wallet directory and not left out is restored. -/
theorem restored_of_kept (hw : w.WellFormed) (h : WithTemp w u walletDir dir tempName)
    (hr : IsRestoredFrom u r) (hkeeps : KeepsLogs w walletDir dir)
    {e : FileEntry (List UInt8)} (hp : w p = some e) (hleft : ¬LeftOut w p) :
    r p = some e := by
  have hu : u p = some e := (h.eq_of_isSome (by rw [hp]; rfl)).trans hp
  refine (hr p e).mpr ⟨hu, or_iff_not_imp_left.mpr fun hne => ?_⟩
  by_cases harchived : Archived p e
  · exact ⟨p, e, hu, harchived, List.prefix_refl _⟩
  · cases e with
    | file content => exact absurd (.inl ⟨⟨content, hp⟩, not_not.mp harchived⟩) hleft
    | dir =>
      have hends : EndsWithLogs p := by
        by_contra hno
        exact harchived ⟨hne, hno⟩
      -- nothing above is named `logs`, since that would be left out
      have hlogs : .text logsDir ∉ p := by
        intro hmem
        obtain ⟨pre, rest, rfl⟩ := List.append_of_mem hmem
        rw [List.append_cons] at hp hleft
        refine hleft (.inr ⟨pre ++ [.text logsDir], List.prefix_append .., ?_, by simp⟩)
        by_cases hnil : rest = []
        · rwa [hnil, List.append_nil] at hp
        · exact hw.dir_of_append hnil (by rw [hp]; rfl)
      obtain hbelow | ⟨d, hd, hpd⟩ := hkeeps p hp hends hlogs
      · exact h.hasArchived hbelow
      · exact (h.hasArchived_zip hd).above (hpd.trans (List.prefix_append ..))

/-- What is restored in the place of the temporary directory is left out when the
backup file lies outside. -/
theorem leftOut_of_temp (hw : w.WellFormed) (h : WithTemp w u walletDir dir tempName)
    (hr : IsRestoredFrom u r) (hout : LiesOutside walletDir dir)
    {e : FileEntry (List UInt8)} (hp : r p = some e)
    (htemp : dir ++ [.text tempName] <+: walletDir ++ p) : LeftOut r p := by
  obtain ⟨d, hd, -⟩ := h.exists_of_above (by rw [hw.root]; rfl) List.nil_prefix htemp
  obtain ⟨pre, rest, rfl⟩ := List.append_of_mem (hout d hd)
  have hdp : (pre ++ [.text logsDir]) ++ rest <+: p := by
    rw [← List.append_cons, ← List.prefix_append_right_inj walletDir, ← hd]
    exact (List.prefix_append ..).trans htemp
  have hw' : w (pre ++ [.text logsDir]) = some .dir := by
    have hdir := h.dir_eq _ hd
    rw [List.append_cons] at hdir
    by_cases hnil : rest = []
    · rwa [hnil, List.append_nil] at hdir
    · exact hw.dir_of_append hnil (by rw [hdir]; rfl)
  have hlogs := (List.prefix_append ..).trans hdp
  refine .inr ⟨pre ++ [.text logsDir], hlogs, (hr _ _).mpr ⟨?_, .inr ?_⟩, by simp⟩
  · rw [h.eq_of_isSome (by rw [hw']; rfl), hw']
  · obtain rfl | hkept := ((hr p e).mp hp).2
    · rw [List.prefix_nil] at hlogs
      exact absurd hlogs (by simp)
    · exact hkept.above hlogs

/-- The wallet directory is restored if and only if the backup file lies outside it and
no directory is lost for its name. -/
theorem sameWallet_iff (hw : w.WellFormed) (h : WithTemp w u walletDir dir tempName)
    (hr : IsRestoredFrom u r) :
    SameWallet w r ↔ LiesOutside walletDir dir ∧ KeepsLogs w walletDir dir := by
  constructor
  · refine fun hsame => ⟨fun d hd => ?_, fun p hp hends hlogs => ?_⟩
    · -- the archive in the temporary directory would be restored
      by_contra hlogs
      obtain ⟨content, hzip⟩ := h.zip_eq d hd
      have hrestored := (hr _ _).mpr ⟨hzip, .inr (h.hasArchived_zip hd)⟩
      have hleft : ¬LeftOut r (d ++ [.text tempName, backupZip]) := by
        rintro (⟨-, hlast⟩ | ⟨q, hq, -, hlast⟩)
        · rw [List.append_cons, List.getLast?_concat] at hlast
          exact absurd hlast (by decide)
        · have hmem := mem_of_getLast?_of_above hq hlast
          rw [List.mem_append, List.mem_pair] at hmem
          obtain hmem | hmem | hmem := hmem
          · exact hlogs hmem
          · exact h.tempName_ne hmem.symm
          · exact absurd hmem (by decide)
      have hnone := h.free (d ++ [.text tempName, backupZip]) (by simp [hd])
      rw [((hsame _ _).mpr ⟨hrestored, hleft⟩).1] at hnone
      cases hnone
    · have hleft : ¬LeftOut w p := by
        rintro (⟨⟨content, hfile⟩, -⟩ | ⟨q, hq, -, hlast⟩)
        · cases hp.symm.trans hfile
        · exact hlogs (mem_of_getLast?_of_above hq hlast)
      have hne : p ≠ [] := by
        rintro rfl
        obtain ⟨name, hname, -⟩ := hends
        cases hname
      have hrp := ((hsame p .dir).mp ⟨hp, hleft⟩).1
      obtain ⟨q, e, hq, harchived, hpq⟩ := ((hr p .dir).mp hrp).2.resolve_left hne
      by_cases htemp : dir ++ [.text tempName] <+: walletDir ++ q
      · exact .inr (h.exists_of_above (by rw [hp]; rfl) hpq htemp)
      · exact .inl ⟨q, e, (h.outside q htemp).symm.trans hq, harchived, hpq⟩
  · rintro ⟨hout, hkeeps⟩ p e
    constructor
    · rintro ⟨hp, hleft⟩
      have hrp := h.restored_of_kept hw hr hkeeps hp hleft
      exact ⟨hrp, fun hno => hleft ((h.leftOut_iff hw hr (by rw [hrp]; rfl)
        (by rw [hp]; rfl)).mpr hno)⟩
    · rintro ⟨hrp, hleft⟩
      have hp : w p = some e := by
        rw [← h.outside p fun htemp => hleft (h.leftOut_of_temp hw hr hout hrp htemp)]
        exact ((hr p e).mp hrp).1
      exact ⟨hp, fun hno => hleft ((h.leftOut_iff hw hr (by rw [hrp]; rfl)
        (by rw [hp]; rfl)).mp hno)⟩

end WithTemp

/-! ### The round trip of a backup -/

/-- The backup file, moved to any disk and restored there into an empty directory with
the password, gives back a directory. -/
def RoundTrip (tools : BackupTools) (password : String) (w : NodeDisk) (file : List OsName)
    (t' : NodeDisk) : Prop :=
  ∃ bytes, t' file = some (.file bytes) ∧
    ∀ (draws : BackupDraws) (path : List Char) (target : List OsName) (t : NodeDisk),
      RestoreSetting tools.cwd bytes t path draws.tempName target →
        ∃ s, restoreBackup tools draws path password target t = .ok () s ∧
          SameWallet w (s.sub target)

variable {tools : BackupTools} {draws : BackupDraws} {walletDir : List OsName} {path : List Char}
  {password : String} {t t' : NodeDisk}

/-- A disk with a backup file and an empty directory. -/
def spareDisk (bytes : List UInt8) : NodeDisk :=
  (empty.put [.text "backup".toList] (.file bytes)).put [.text "wallet".toList] .dir

theorem tmp_begins : ".tmp".toList <+: ".tmp".toList := List.prefix_refl _

def spareDraws : BackupDraws := ⟨".tmp".toList, tmp_begins, "", ""⟩

theorem spareDisk_of_ne {bytes : List UInt8} {p : List OsName}
    (hfile : p ≠ [.text "backup".toList]) (hdir : p ≠ [.text "wallet".toList]) :
    spareDisk bytes p = empty p := by
  rw [spareDisk, put_of_ne _ _ hdir, put_of_ne _ _ hfile]

theorem wellFormed_spareDisk (bytes : List UInt8) : (spareDisk bytes).WellFormed := by
  have hfile : (empty.put [.text "backup".toList] (.file bytes) : NodeDisk).WellFormed :=
    wellFormed_empty.put (p := []) rfl (by simp [empty]) _
  refine hfile.put (p := []) rfl ?_ _
  rw [List.nil_append, put_of_ne _ _ (by decide)]
  simp [empty]

/-- Any content can be restored there. -/
theorem restoreSetting_spareDisk (cwd : List OsName) (bytes : List UInt8) :
    RestoreSetting cwd bytes (spareDisk bytes) "/backup".toList spareDraws.tempName
      [.text "wallet".toList] where
  wellFormed := wellFormed_spareDisk bytes
  backup := ⟨[.text "backup".toList], rfl, (put_of_ne _ _ (by decide)).trans (put_self ..)⟩
  target_empty := by
    refine ⟨rfl, fun q hq => ?_⟩
    rw [spareDisk_of_ne (by simp [hq]) (by simp [hq])]
    rfl
  temp_free parent hparent := by
    obtain rfl : [PathStep.here] = parent := Option.some.inj hparent
    rfl

/-- What is archived of the wallet directory, by a backup that makes no directories in it. -/
theorem withTemp_of_archived {dir tempdir : List OsName} {t₁ u : NodeDisk} (ht₁ : t₁.WellFormed)
    (htempdir : tempdir = dir ++ [.text draws.tempName]) (hdir : t₁ dir = some .dir)
    (hfree : t₁ tempdir = none)
    (hu : IsArchivedTree ((t₁.put tempdir .dir).put (tempdir ++ [backupZip]) (.file []))
      walletDir (tempdir ++ [backupZip]) u) :
    WithTemp (t₁.sub walletDir) u walletDir dir draws.tempName where
  begins := draws.tempName_begins
  outside p hp := by
    rw [← htempdir] at hp
    have hne : ∀ rest, walletDir ++ p ≠ tempdir ++ rest := fun rest heq => hp ⟨rest, heq.symm⟩
    obtain hsame | ⟨heq, -⟩ := hu p
    · rw [hsame, put_of_ne _ _ (hne _), put_of_ne _ _ (by simpa using hne []), sub_apply]
    · exact absurd heq (hne _)
  free p hp := by
    rw [← htempdir] at hp
    by_contra hsome
    have hbelow := ht₁.isSome_of_above hp (Option.isSome_iff_ne_none.mpr hsome)
    rw [hfree] at hbelow
    cases hbelow
  dir_eq d hd := by rw [sub_apply, ← hd, hdir]
  zip_eq d hd := by
    have hpath : walletDir ++ (d ++ [.text draws.tempName, backupZip]) =
        tempdir ++ [backupZip] := by
      rw [htempdir, hd]
      simp
    obtain hsame | ⟨-, -, content, -, hfile⟩ := hu (d ++ [.text draws.tempName, backupZip])
    · exact ⟨[], by rw [hsame, hpath, put_self]⟩
    · exact ⟨content, hfile⟩

/-- A backup that makes no directories in the wallet directory can be restored if and
only if the backup file lies outside and no directory is lost for its name. -/
theorem roundTrip_iff (ht : tools.Lawful) (hwf : t.WellFormed)
    (hcwd : t (pathBase tools.cwd path) = some .dir) (hwallet : t walletDir = some .dir)
    (hnew : ∀ p, walletDir ++ p ∉ newDirs t tools.cwd path)
    (h : doBackup tools draws walletDir path password t = .ok () t') :
    RoundTrip tools password (t.sub walletDir) (fileOf tools.cwd path) t' ↔
      LiesOutside walletDir (fileOf tools.cwd path).dropLast ∧
        KeepsLogs (t.sub walletDir) walletDir (fileOf tools.cwd path).dropLast := by
  obtain ⟨dir, tempdir, t₁, rfl, htempdir, ht₁, hwf₁, hdir, hfree, c, hfile⟩ :=
    doBackup_eq_ok hwf hcwd h
  have hsub : t₁.sub walletDir = t.sub walletDir := by
    funext p
    rw [ht₁]
    exact if_neg (hnew p)
  -- the archive is one of the wallet directory with the temporary directory
  have htemp : ((t₁.put tempdir .dir).put (tempdir ++ [backupZip]) (.file [])).WellFormed := by
    have hnew : t₁ ((fileOf tools.cwd path).dropLast ++ [.text draws.tempName]) ≠ some .dir := by
      rw [← htempdir, hfree]
      simp
    have hput := hwf₁.put hdir hnew .dir
    rw [← htempdir] at hput
    refine wellFormed_put_file hput ?_ ?_ _
    · rw [(emptyDir_put hwf₁ hfree).empty _ (by simp)]
      simp
    · rw [List.dropLast_concat, put_self]
  have hin : ((t₁.put tempdir .dir).put (tempdir ++ [backupZip]) (.file [])) walletDir =
      some .dir := by
    have hwallet₁ : t₁ walletDir = some .dir := by
      have hroot := congrFun hsub []
      rwa [sub_apply, sub_apply, List.append_nil, hwallet] at hroot
    have hnot : ¬tempdir <+: walletDir := fun hleads => by
      have hbelow := hwf₁.isSome_of_above hleads (by rw [hwallet₁]; rfl)
      rw [hfree] at hbelow
      cases hbelow
    have hne : ∀ rest, walletDir ≠ tempdir ++ rest := fun rest heq => hnot ⟨rest, heq.symm⟩
    rw [put_of_ne _ _ (hne _), put_of_ne _ _ (by simpa using hne []), hwallet₁]
  obtain ⟨u, htree, hentries⟩ := ht.archiver.zipEntries_walkDir htemp hin c.entries_eq
  have hwith := withTemp_of_archived hwf₁ htempdir hdir hfree htree
  rw [hsub] at hwith
  have hu := htree.wellFormed htemp hin
  have hiff : ∀ r, IsRestoredFrom u r → (SameWallet (t.sub walletDir) r ↔ _) := fun r hr =>
    hwith.sameWallet_iff (hwf.sub hwallet) hr
  constructor
  · rintro ⟨bytes, hbytes, hall⟩
    obtain rfl : bytes = c.bytes := FileEntry.file.inj (Option.some.inj (hbytes.symm.trans hfile))
    have hsetting := restoreSetting_spareDisk tools.cwd c.bytes
    obtain ⟨s, hs, hsame⟩ := hall _ _ _ _ hsetting
    obtain ⟨s', hs', hr⟩ := restoreBackup_eq_ok ht c hsetting hu hentries
    obtain rfl := (EStateM.Result.ok.inj (hs.symm.trans hs')).2
    exact (hiff _ hr).mp hsame
  · refine fun hcond => ⟨c.bytes, hfile, fun draws₂ path₂ target t₂ hsetting => ?_⟩
    obtain ⟨s, hs, hr⟩ := restoreBackup_eq_ok ht c hsetting hu hentries
    exact ⟨s, hs, (hiff _ hr).mpr hcond⟩

end RgbLightningNode
