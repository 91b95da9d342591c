import RgbLightningNode.Backup.Files
import RgbLightningNode.Lib.Text

/-!
# Archives of directories

A directory is archived entry by entry, without the files named `log` and without
the entries of directories whose name ends with `logs`; what lies in those is
archived. An archive is extracted entry by entry, with the directories an entry
needs.
-/

namespace RgbLightningNode

open Fallible FileTree

/-- An entry of an archive, under the names of its path. -/
structure ZipEntry where
  name : List (List Char)
  entry : FileEntry (List UInt8)
  deriving DecidableEq

def logsDir : List Char := "logs".toList

/-- The path of an entry on a disk. -/
def ZipEntry.path (x : ZipEntry) : List OsName := x.name.map .text

/-- The step of the writing of an archive that fails. -/
inductive ZipError where
  | startFile (e : String)
  | addDirectory (e : String)
  | finish (e : String)

def ZipError.toAPIError : ZipError → APIError
  | startFile e => .unexpected s!"Failed creating file in the archive: {e}"
  | addDirectory e => .unexpected s!"Failed to add directory to zip: {e}"
  | finish e => .unexpected s!"Failed to finalize zip: {e}"

/-- The walk through a directory, and the archive format. The entries of an archive are
read one by one. -/
structure Archiver where
  walkDir : NodeDisk → List (List OsName)
  zip : List ZipEntry → Except ZipError (List UInt8)
  unzip : List UInt8 → Except String (List (Except String ZipEntry))
  /-- What is found in the file of an archive that has some entries already and is
  to have its own file for the next. The archive may also grow with all that is read. -/
  zipSoFar : List ZipEntry → Except APIError (List UInt8)

/-- A walk lists everything once, and what has been archived can be read. -/
structure Archiver.Lawful (arch : Archiver) : Prop where
  mem_walkDir : ∀ t : NodeDisk, t.WellFormed → ∀ p, p ∈ arch.walkDir t ↔ (t p).isSome
  nodup_walkDir : ∀ t, (arch.walkDir t).Nodup
  unzip_zip : ∀ entries bytes, arch.zip entries = .ok bytes →
    arch.unzip bytes = .ok (entries.map .ok)

/-! ### Archiving a directory -/

namespace Archiver

variable (arch : Archiver)

/-- Read a file. It may be the one the archive is written to. -/
def readEntry (path pathOut : List OsName) (added : List ZipEntry) (content : List UInt8) :
    Except (Exit APIError) (List UInt8) :=
  if path = pathOut then (arch.zipSoFar added).mapError .err else .ok content

/-- Go through the paths of a directory and add them to an archive. -/
def zipEntries (t : NodeDisk) (pathIn pathOut : List OsName) :
    List (List OsName) → List ZipEntry → Except (Exit APIError) (List ZipEntry)
  | [], added => .ok added
  | name :: names, added =>
    match name.mapM OsName.toStr with
    | none => .error (.err (.unexpected "Failed to convert file name to string"))
    | some nameStr =>
      match t (pathIn ++ name) with
      | some (.file content) =>
        if (pathIn ++ name).getLast? = some (.text "log".toList) then
          zipEntries t pathIn pathOut names added
        else do
          let content ← arch.readEntry (pathIn ++ name) pathOut added content
          zipEntries t pathIn pathOut names (added ++ [⟨nameStr, .file content⟩])
      | _ =>
        if name = [] then zipEntries t pathIn pathOut names added
        else if logsDir <:+ Text.joinWith '/' nameStr then zipEntries t pathIn pathOut names added
        else zipEntries t pathIn pathOut names (added ++ [⟨nameStr, .dir⟩])

def zipDir (pathIn pathOut : List OsName) : Fallible (Exit APIError) NodeDisk Unit :=
  writeFile pathOut fun t => do
    let entries ← arch.zipEntries t pathIn pathOut (arch.walkDir (t.sub pathIn)) []
    (arch.zip entries).mapError fun e => .err e.toAPIError

end Archiver

/-- The name of the last directory or file of a path ends with `logs`. -/
def EndsWithLogs (path : List OsName) : Prop :=
  ∃ name, path.getLast? = some (.text name) ∧ logsDir <:+ name

instance (path : List OsName) : Decidable (EndsWithLogs path) :=
  match h : path.getLast? with
  | some (.text name) => decidable_of_iff (logsDir <:+ name) (by simp [EndsWithLogs, h])
  | some (.other _) => isFalse (by simp [EndsWithLogs, h])
  | none => isFalse (by simp [EndsWithLogs, h])

/-- What has an entry of its own in an archive. -/
def Archived (path : List OsName) : FileEntry (List UInt8) → Prop
  | .file _ => path.getLast? ≠ some (.text "log".toList)
  | .dir => path ≠ [] ∧ ¬EndsWithLogs path

theorem logsDir_suffix_joinWith_iff {names : List (List Char)} (hne : names ≠ []) :
    logsDir <:+ Text.joinWith '/' names ↔ EndsWithLogs (names.map .text) := by
  have hslash : '/' ∉ logsDir := by decide
  have hlast : (names.map OsName.text).getLast? = some (.text (names.getLast hne)) := by
    rw [List.getLast?_map, List.getLast?_eq_some_getLast hne]
    rfl
  rw [← List.dropLast_append_getLast hne, Text.suffix_joinWith_iff hslash,
    List.dropLast_append_getLast hne, EndsWithLogs, hlast]
  constructor
  · exact fun h => ⟨_, rfl, h⟩
  · rintro ⟨name, hname, h⟩
    rwa [OsName.text.inj (Option.some.inj hname)]

theorem mapM_toStr_eq_some_iff {path : List OsName} {names : List (List Char)} :
    path.mapM OsName.toStr = some names ↔ path = names.map .text := by
  induction path generalizing names with
  | nil => cases names <;> simp
  | cons name path ih =>
    cases name with
    | text name =>
      cases names <;>
        simp [List.mapM_cons, OsName.toStr, Option.bind_eq_some_iff, ih, and_comm]
    | other bytes => cases names <;> simp [List.mapM_cons, OsName.toStr]

/-- The tree that is archived: the directory, with what has been read of the file the
archive is written to. -/
def IsArchivedTree (t : NodeDisk) (pathIn pathOut : List OsName) (u : NodeDisk) : Prop :=
  ∀ p, u p = t (pathIn ++ p) ∨ pathIn ++ p = pathOut ∧
    ∃ content content', t (pathIn ++ p) = some (.file content) ∧ u p = some (.file content')

/-- The entries of an archive are those of the tree that have one. -/
def IsArchiveOf (u : NodeDisk) (names : List (List OsName)) (added entries : List ZipEntry) :
    Prop :=
  ∀ x, x ∈ entries ↔ x ∈ added ∨ x.path ∈ names ∧ u x.path = some x.entry ∧ Archived x.path x.entry

theorem IsArchiveOf.cons_of_not_archived {u : NodeDisk} {name : List OsName}
    {names : List (List OsName)} {added entries : List ZipEntry}
    (h : IsArchiveOf u names added entries) (hno : ∀ e, u name = some e → ¬Archived name e) :
    IsArchiveOf u (name :: names) added entries := by
  intro x
  rw [h x, List.mem_cons]
  constructor
  · rintro (hx | ⟨hmem, hx⟩)
    · exact .inl hx
    · exact .inr ⟨.inr hmem, hx⟩
  · rintro (hx | ⟨hname | hmem, hentry, harchived⟩)
    · exact .inl hx
    · exact absurd (hname ▸ harchived) (hno _ (hname ▸ hentry))
    · exact .inr ⟨hmem, hentry, harchived⟩

theorem ZipEntry.eq_of_path {x y : ZipEntry} (hpath : x.path = y.path)
    (hentry : x.entry = y.entry) : x = y := by
  obtain ⟨name, entry⟩ := x
  obtain ⟨name', entry'⟩ := y
  obtain rfl : entry = entry' := hentry
  have hinj : Function.Injective (List.map OsName.text) :=
    List.map_injective_iff.mpr fun _ _ => OsName.text.inj
  obtain rfl : name = name' := hinj hpath
  rfl

theorem IsArchiveOf.cons_of_archived {u : NodeDisk} {x : ZipEntry}
    {names : List (List OsName)} {added entries : List ZipEntry}
    (h : IsArchiveOf u names (added ++ [x]) entries) (hentry : u x.path = some x.entry)
    (harchived : Archived x.path x.entry) :
    IsArchiveOf u (x.path :: names) added entries := by
  intro y
  rw [h y, List.mem_append, List.mem_singleton, List.mem_cons]
  constructor
  · rintro ((hy | rfl) | ⟨hmem, hy⟩)
    · exact .inl hy
    · exact .inr ⟨.inl rfl, hentry, harchived⟩
    · exact .inr ⟨.inr hmem, hy⟩
  · rintro (hy | ⟨hpath | hmem, hy⟩)
    · exact .inl (.inl hy)
    · rw [hpath, hentry] at hy
      exact .inl (.inr (ZipEntry.eq_of_path hpath (Option.some.inj hy.1).symm))
    · exact .inr ⟨hmem, hy⟩

theorem IsArchiveOf.congr {u v : NodeDisk} {names : List (List OsName)}
    {added entries : List ZipEntry} (h : IsArchiveOf u names added entries)
    (huv : ∀ p ∈ names, v p = u p) : IsArchiveOf v names added entries := by
  intro x
  rw [h x]
  exact or_congr_right (and_congr_right fun hmem => by rw [huv _ hmem])

namespace Archiver

variable {arch : Archiver} {t : NodeDisk} {pathIn pathOut : List OsName}

/-- The loop archives the directory. The file the archive is written to comes up
at most once, and has some content then. -/
theorem zipEntries_eq_ok {names : List (List OsName)} {added entries : List ZipEntry}
    (hnodup : names.Nodup) (hin : t pathIn = some .dir)
    (hnames : ∀ name ∈ names, (t (pathIn ++ name)).isSome)
    (h : arch.zipEntries t pathIn pathOut names added = .ok entries) :
    ∃ u, IsArchivedTree t pathIn pathOut u ∧ IsArchiveOf u names added entries := by
  induction names generalizing added with
  | nil =>
    obtain rfl := Except.ok.inj h
    exact ⟨t.sub pathIn, fun _ => .inl rfl, fun x => by simp⟩
  | cons name names ih =>
    obtain ⟨hnotMem, hnodup⟩ := List.nodup_cons.mp hnodup
    obtain ⟨hname, hnames⟩ := List.forall_mem_cons.mp hnames
    rw [zipEntries] at h
    cases hstr : name.mapM OsName.toStr with
    | none => rw [hstr] at h; cases h
    | some nameStr =>
      have hpath : name = nameStr.map .text := mapM_toStr_eq_some_iff.mp hstr
      rw [hstr] at h
      cases hentry : t (pathIn ++ name) with
      | none => rw [hentry] at hname; cases hname
      | some entry =>
        rw [hentry] at h
        have hlast : name ≠ [] → (pathIn ++ name).getLast? = name.getLast? := fun hne =>
          List.getLast?_append_of_ne_nil _ hne
        cases entry with
        | file content =>
          have hne : name ≠ [] := by
            rintro rfl
            rw [List.append_nil, hin] at hentry
            cases hentry
          simp only [hlast hne] at h
          by_cases hlog : name.getLast? = some (.text "log".toList)
          · rw [if_pos hlog] at h
            obtain ⟨u, htree, harchive⟩ := ih hnodup hnames h
            refine ⟨u, htree, harchive.cons_of_not_archived fun e he => ?_⟩
            obtain ⟨content', rfl⟩ : ∃ content', e = .file content' := by
              obtain hsame | ⟨-, -, content', -, hfile⟩ := htree name
              · exact ⟨content, Option.some.inj (he.symm.trans (hsame.trans hentry))⟩
              · exact ⟨content', Option.some.inj (he.symm.trans hfile)⟩
            exact fun harchived => harchived hlog
          · rw [if_neg hlog] at h
            obtain ⟨content', hread, h⟩ := except_bind_eq_ok_iff.mp h
            obtain ⟨u, htree, harchive⟩ := ih hnodup hnames h
            refine ⟨Function.update u name (some (.file content')), fun p => ?_, ?_⟩
            · by_cases hp : p = name
              · subst hp
                rw [Function.update_self]
                by_cases hout : pathIn ++ p = pathOut
                · exact .inr ⟨hout, content, content', hentry, rfl⟩
                · rw [readEntry, if_neg hout] at hread
                  rw [← Except.ok.inj hread]
                  exact .inl hentry.symm
              · rw [Function.update_of_ne hp]
                exact htree p
            · subst hpath
              refine (harchive.congr fun p hp => ?_).cons_of_archived
                (x := ⟨nameStr, .file content'⟩) (Function.update_self ..) hlog
              have hne' : p ≠ nameStr.map .text := by
                rintro rfl
                exact hnotMem hp
              exact Function.update_of_ne hne' ..
        | dir =>
          simp only at h
          have hdir : ∀ u, IsArchivedTree t pathIn pathOut u → u name = some .dir := by
            intro u htree
            obtain hsame | ⟨-, content, -, hfile, -⟩ := htree name
            · exact hsame.trans hentry
            · cases hentry.symm.trans hfile
          by_cases hskip : name = [] ∨ EndsWithLogs name
          · have h : arch.zipEntries t pathIn pathOut names added = .ok entries := by
              by_cases hne : name = []
              · rwa [if_pos hne] at h
              · have hlogs := hskip.resolve_left hne
                rw [hpath, ← logsDir_suffix_joinWith_iff fun hnil => hne (by simp [hpath, hnil])]
                  at hlogs
                rwa [if_neg hne, if_pos hlogs] at h
            obtain ⟨u, htree, harchive⟩ := ih hnodup hnames h
            refine ⟨u, htree, harchive.cons_of_not_archived fun e he harchived => ?_⟩
            obtain rfl := Option.some.inj (he.symm.trans (hdir u htree))
            exact hskip.elim harchived.1 harchived.2
          · obtain ⟨hne, hlogs⟩ := not_or.mp hskip
            have hname : nameStr ≠ [] := fun hnil => hne (by rw [hpath, hnil]; rfl)
            rw [if_neg hne, if_neg fun hsuffix => hlogs
              (hpath ▸ (logsDir_suffix_joinWith_iff hname).mp hsuffix)] at h
            obtain ⟨u, htree, harchive⟩ := ih hnodup hnames h
            have hentry' := hdir u htree
            subst hpath
            exact ⟨u, htree, harchive.cons_of_archived (x := ⟨nameStr, .dir⟩) hentry' ⟨hne, hlogs⟩⟩

/-- Every name of a listing that succeeds is text. -/
theorem text_of_zipEntries_eq_ok {names : List (List OsName)} {added entries : List ZipEntry}
    (h : arch.zipEntries t pathIn pathOut names added = .ok entries) :
    ∀ name ∈ names, ∃ nameStr : List (List Char), name = nameStr.map .text := by
  induction names generalizing added with
  | nil => exact fun _ hmem => nomatch hmem
  | cons name names ih =>
    rw [zipEntries] at h
    cases hstr : name.mapM OsName.toStr with
    | none => rw [hstr] at h; cases h
    | some nameStr =>
      refine List.forall_mem_cons.mpr ⟨⟨nameStr, mapM_toStr_eq_some_iff.mp hstr⟩, ?_⟩
      rw [hstr] at h
      simp only at h
      split at h
      · split at h
        · exact ih h
        · obtain ⟨content, -, h⟩ := except_bind_eq_ok_iff.mp h
          exact ih h
      · split at h
        · exact ih h
        · split at h
          · exact ih h
          · exact ih h

end Archiver

/-! ### The archive of a directory -/

namespace IsArchivedTree

variable {t u : NodeDisk} {pathIn pathOut p : List OsName}

theorem dir_iff (h : IsArchivedTree t pathIn pathOut u) :
    u p = some .dir ↔ t (pathIn ++ p) = some .dir := by
  obtain hsame | ⟨-, content, content', ht, hu⟩ := h p
  · rw [hsame]
  · rw [ht, hu]
    simp

theorem isSome_eq (h : IsArchivedTree t pathIn pathOut u) :
    (u p).isSome = (t (pathIn ++ p)).isSome := by
  obtain hsame | ⟨-, content, content', ht, hu⟩ := h p
  · rw [hsame]
  · rw [ht, hu]
    rfl

theorem wellFormed (h : IsArchivedTree t pathIn pathOut u) (ht : t.WellFormed)
    (hin : t pathIn = some .dir) : u.WellFormed where
  root := h.dir_iff.mpr (by rw [List.append_nil, hin])
  parent p name hp := by
    rw [h.isSome_eq] at hp
    exact h.dir_iff.mpr ((ht.sub hin).parent p name hp)
  finite := (ht.sub hin).finite.subset fun p hp => h.isSome_eq.symm.trans hp

end IsArchivedTree

/-- There is something with an entry of its own at a path or below it. -/
def HasArchived (u : NodeDisk) (p : List OsName) : Prop :=
  ∃ q e, u q = some e ∧ Archived q e ∧ p <+: q

/-- The entries are those of a tree. -/
structure IsArchive (u : NodeDisk) (entries : List ZipEntry) : Prop where
  mem_iff : ∀ x, x ∈ entries ↔ u x.path = some x.entry ∧ Archived x.path x.entry
  hasArchived_iff : ∀ p, HasArchived u p ↔ ∃ x ∈ entries, p <+: x.path

/-- The archive of a directory has the entries of a tree that is the directory but
for the file of the archive. -/
theorem Archiver.Lawful.zipEntries_walkDir {arch : Archiver} (ha : arch.Lawful) {t : NodeDisk}
    {pathIn pathOut : List OsName} {entries : List ZipEntry} (ht : t.WellFormed)
    (hin : t pathIn = some .dir)
    (h : arch.zipEntries t pathIn pathOut (arch.walkDir (t.sub pathIn)) [] = .ok entries) :
    ∃ u, IsArchivedTree t pathIn pathOut u ∧ IsArchive u entries := by
  have hwalk : ∀ p, p ∈ arch.walkDir (t.sub pathIn) ↔ (t (pathIn ++ p)).isSome :=
    ha.mem_walkDir _ (ht.sub hin)
  obtain ⟨u, htree, harchive⟩ := Archiver.zipEntries_eq_ok (ha.nodup_walkDir _) hin
    (fun name hname => (hwalk name).mp hname) h
  have hentries : ∀ x, x ∈ entries ↔ u x.path = some x.entry ∧ Archived x.path x.entry := by
    intro x
    rw [harchive x]
    constructor
    · rintro (hx | ⟨-, hx⟩)
      · cases hx
      · exact hx
    · refine fun hx => .inr ⟨(hwalk _).mpr ?_, hx⟩
      rw [← htree.isSome_eq, hx.1]
      rfl
  refine ⟨u, htree, hentries, fun p => ⟨?_, ?_⟩⟩
  · rintro ⟨q, e, hq, harchived, hpq⟩
    have hmem : q ∈ arch.walkDir (t.sub pathIn) := by
      rw [hwalk, ← htree.isSome_eq, hq]
      rfl
    obtain ⟨name, rfl⟩ := Archiver.text_of_zipEntries_eq_ok h q hmem
    exact ⟨⟨name, e⟩, (hentries _).mpr ⟨hq, harchived⟩, hpq⟩
  · rintro ⟨x, hx, hpx⟩
    obtain ⟨hentry, harchived⟩ := (hentries x).mp hx
    exact ⟨x.path, x.entry, hentry, harchived, hpx⟩

end RgbLightningNode
