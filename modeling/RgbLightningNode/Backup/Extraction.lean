import RgbLightningNode.Backup.Archive

/-!
# Extraction of archives

An archive is extracted entry by entry, with the directories an entry needs. What
has been archived of a tree is there again, with all directories above it.
-/

namespace RgbLightningNode

open Fallible FileTree

def extractEntry (pathOut : List OsName) (x : ZipEntry) :
    Fallible (Exit APIError) NodeDisk Unit :=
  match x.entry with
  | .dir => discard (createDirAll fileInWay pathOut (x.path.map .into))
  | .file content => do
    -- where the directory is a file, none is made and the entry's own file cannot be
    discard (createDirAll fileAbove pathOut (x.path.dropLast.map .into))
    writeFile (pathOut ++ x.path) fun _ => .ok content

/-- Extract the entries one by one. -/
def extract (pathOut : List OsName) :
    List (Except String ZipEntry) → Fallible (Exit APIError) NodeDisk Unit
  | [] => pure ()
  | entry :: entries => do
    let x ← attempt (entry.mapError fun e =>
      .err (.unexpected s!"Failed to get file by index: {e}"))
    extractEntry pathOut x
    extract pathOut entries

def unzip (arch : Archiver) (zipPath pathOut : List OsName) :
    Fallible (Exit APIError) NodeDisk Unit := do
  let t ← get
  match t zipPath with
  | none => throw (.err (.unexpected "Failed to unzip: No such file or directory (os error 2)"))
  | some .dir => throw (.err (.unexpected
      "Failed to read zip archive: Is a directory (os error 21)"))
  | some (.file bytes) =>
    let entries ← attempt ((arch.unzip bytes).mapError fun e =>
      .err (.unexpected s!"Failed to read zip archive: {e}"))
    extract pathOut entries

/-- Whatever is below a directory already is as in another tree. -/
def Fits (u t : NodeDisk) (target : List OsName) : Prop :=
  ∀ p e, t (target ++ p) = some e → u p = some e

variable {u t : NodeDisk} {target : List OsName}

/-- Directories of the tree are made without meeting a file. -/
theorem createDirAll_of_fits (hfits : Fits u t target) (htarget : t target = some .dir)
    {names : List OsName} (hway : ∀ p, p <+: names → u p = some .dir)
    (e : Bool → Exit APIError) :
    ∃ t', createDirAll e target (names.map .into) t = .ok (target ++ names) t' ∧
      (∀ p, p <+: names → t' (target ++ p) = some .dir) ∧
      ∀ q, (∀ p, p <+: names → q ≠ target ++ p) → t' q = t q := by
  have hblocked : t.blocked target (names.map .into) = false := by
    refine blocked_map_into fun p hp content hfile => ?_
    have hfile := hfits p _ hfile
    rw [hway p hp] at hfile
    cases hfile
  refine ⟨t.withDirs (t.missingDirs target (names.map .into)), ?_, fun p hp => ?_, fun q hq => ?_⟩
  · rw [createDirAll_apply, hblocked, PathStep.leadsTo_map_into]
    rfl
  · cases hentry : t (target ++ p) with
    | some entry =>
      rw [withDirs_of_isSome (by rw [hentry]; rfl), hentry, ← hfits p entry hentry, hway p hp]
    | none =>
      refine if_pos (mem_missingDirs_map_into hentry (List.prefix_append ..) (fun heq => ?_)
        ((List.prefix_append_right_inj target).mpr hp) hblocked)
      rw [← heq, htarget] at hentry
      cases hentry
  · refine if_neg fun hmem => ?_
    obtain ⟨⟨p, rfl⟩, hp⟩ := prefix_of_mem_missingDirs hmem
    exact hq p ((List.prefix_append_right_inj target).mp hp) rfl

/-- One entry of a tree is extracted with the directories above it, and nothing else. -/
theorem extractEntry_eq_ok (hu : u.WellFormed) (ht : t.WellFormed) (hfits : Fits u t target)
    (htarget : t target = some .dir) {x : ZipEntry} (hx : u x.path = some x.entry) :
    ∃ t', extractEntry target x t = .ok () t' ∧ t'.WellFormed ∧
      (∀ p, p <+: x.path → t' (target ++ p) = u p) ∧
      ∀ q, (∀ p, p <+: x.path → q ≠ target ++ p) → t' q = t q := by
  have habove : ∀ p, p <+: x.path → p ≠ x.path → u p = some .dir := fun p hp hne =>
    hu.dir_of_above hp hne (by rw [hx]; rfl)
  cases hentry : x.entry with
  | dir =>
    rw [hentry] at hx
    have hway : ∀ p, p <+: x.path → u p = some .dir := fun p hp => by
      by_cases hne : p = x.path
      · rwa [hne]
      · exact habove p hp hne
    obtain ⟨t', hok, hin, hout⟩ := createDirAll_of_fits hfits htarget hway fileInWay
    have hwf := (wellFormed_createDirAll fileInWay (x.path.map .into) ht htarget).1
    rw [after_of_ok hok] at hwf
    refine ⟨t', ?_, hwf, fun p hp => (hin p hp).trans (hway p hp).symm, hout⟩
    simp only [extractEntry, hentry]
    exact discard_eq_ok_iff.mpr ⟨_, hok⟩
  | file content =>
    rw [hentry] at hx
    obtain ⟨pre, name, hpath⟩ : ∃ pre name, x.path = pre ++ [name] := by
      have hne : x.path ≠ [] := by
        intro hnil
        rw [hnil, hu.root] at hx
        cases hx
      exact ⟨_, _, (List.dropLast_append_getLast hne).symm⟩
    have hpre : ∀ p, p <+: pre → p <+: x.path ∧ p ≠ x.path := fun p hp => by
      refine ⟨hpath ▸ hp.trans (List.prefix_append ..), fun heq => ?_⟩
      have hlength := hp.length_le
      rw [heq, hpath, List.length_append, List.length_singleton] at hlength
      omega
    have hway : ∀ p, p <+: pre → u p = some .dir := fun p hp =>
      habove p (hpre p hp).1 (hpre p hp).2
    obtain ⟨t', hok, hin, hout⟩ := createDirAll_of_fits hfits htarget hway fileAbove
    have hwf := (wellFormed_createDirAll fileAbove (pre.map .into) ht htarget).1
    rw [after_of_ok hok] at hwf
    have hwrite : writeFile (target ++ x.path) (fun _ => .ok content) t' =
        .ok () (t'.put (target ++ x.path) (.file content)) := by
      refine writeFile_eq_ok_iff.mpr ⟨fun hdir => ?_, ?_, content, rfl, rfl⟩
      · rw [hout _ fun p hp heq => (hpre p hp).2 (List.append_cancel_left heq).symm] at hdir
        cases (hfits _ _ hdir).symm.trans hx
      · rw [hpath, ← List.append_assoc, List.dropLast_concat]
        exact hin pre (List.prefix_refl pre)
    have hwf' := wellFormed_writeFile (target ++ x.path) (fun _ => .ok content) t' hwf
    rw [after_of_ok hwrite] at hwf'
    refine ⟨_, ?_, hwf', fun p hp => ?_, fun q hq => ?_⟩
    · simp only [extractEntry, hentry, hpath, List.dropLast_concat]
      rw [bind_of_ok (discard_eq_ok_iff (u := ()).mpr ⟨_, hok⟩), ← hpath]
      exact hwrite
    · by_cases hsame : p = x.path
      · rw [hsame, put_self, hx]
      · have hp : p <+: pre := by
          rw [hpath] at hp hsame
          exact (List.prefix_concat_iff.mp hp).resolve_left hsame
        rw [put_of_ne _ _ fun heq => hsame (List.append_cancel_left heq), hin p hp, hway p hp]
    · rw [put_of_ne _ _ (hq _ (List.prefix_refl _))]
      exact hout q fun p hp => hq p (hpre p hp).1

/-- There is an entry for a path or for something below it. -/
def Kept (entries : List ZipEntry) (p : List OsName) : Prop := ∃ x ∈ entries, p <+: x.path

/-- Entries of a tree are extracted to what the tree has, with all directories above,
and nothing else is changed. -/
theorem extract_eq_ok (hu : u.WellFormed) (ht : t.WellFormed) (hfits : Fits u t target)
    (htarget : t target = some .dir) {entries : List ZipEntry}
    (hentries : ∀ x ∈ entries, u x.path = some x.entry) :
    ∃ t', extract target (entries.map .ok) t = .ok () t' ∧ t'.WellFormed ∧
      (∀ p, Kept entries p → t' (target ++ p) = u p) ∧
      ∀ q, (∀ p, Kept entries p → q ≠ target ++ p) → t' q = t q := by
  induction entries generalizing t with
  | nil =>
    refine ⟨t, rfl, ht, fun p hp => ?_, fun _ _ => rfl⟩
    obtain ⟨x, hx, -⟩ := hp
    cases hx
  | cons x entries ih =>
    obtain ⟨hx, hentries⟩ := List.forall_mem_cons.mp hentries
    obtain ⟨t₁, hfirst, hwf, hin, hout⟩ := extractEntry_eq_ok hu ht hfits htarget hx
    -- what has been extracted fits the tree again
    have hfits₁ : Fits u t₁ target := fun p e he => by
      by_cases hp : p <+: x.path
      · rwa [← hin p hp]
      · rw [hout _ fun p' hp' heq => hp (by rwa [List.append_cancel_left heq])] at he
        exact hfits p e he
    have htarget₁ : t₁ target = some .dir := by
      have hnil := hin [] List.nil_prefix
      rwa [List.append_nil, hu.root] at hnil
    obtain ⟨t', hrest, hwf', hin', hout'⟩ := ih hwf hfits₁ htarget₁ hentries
    refine ⟨t', ?_, hwf', fun p hp => ?_, fun q hq => ?_⟩
    · rw [List.map_cons, extract,
        bind_of_ok (attempt_eq_ok_iff.mpr ⟨except_mapError_eq_ok_iff.mpr rfl, rfl⟩),
        bind_of_ok hfirst, hrest]
    · by_cases hrest : Kept entries p
      · exact hin' p hrest
      · obtain ⟨y, hy, hpy⟩ := hp
        obtain rfl | hy := List.mem_cons.mp hy
        · rw [hout' _ fun p' hp' heq => hrest (by rwa [List.append_cancel_left heq]),
          hin p hpy]
        · exact absurd ⟨y, hy, hpy⟩ hrest
    · rw [hout' q fun p ⟨y, hy, hpy⟩ => hq p ⟨y, List.mem_cons_of_mem _ hy, hpy⟩,
        hout q fun p hp => hq p ⟨x, List.mem_cons_self .., hp⟩]

end RgbLightningNode
