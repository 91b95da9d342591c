import RgbLightningNode.Backup.Extraction
import RgbLightningNode.Lib.TreeOps

/-!
# Extraction of any archive

The entries of an archive from elsewhere have any names, come twice, cannot be read
or only in part, and clash with one another. What their extraction does to a
directory is given as a list of directories to make and files to write.
-/

namespace RgbLightningNode

open Fallible FileTree PathStep

/-- An entry as it is read. Its name does not lead out of a directory, or it has none
that is taken. Reading it may fail behind some of its content. -/
structure ZipItem where
  enclosedName : Option (List (PathStep OsName))
  staysBelow : ∀ steps ∈ enclosedName, PathStep.staysBelow 0 steps = true
  /-- The name ends with a slash. -/
  isDir : Bool
  content : List UInt8
  readError : Option String

/-- The steps to the directory that the last step is taken from. -/
def parentSteps (steps : List (PathStep OsName)) : List (PathStep OsName) :=
  (steps.reverse.dropWhile (· = .here)).tail.reverse

/-- Extract one entry. -/
def extractItem (pathOut : List OsName) (x : ZipItem) :
    Fallible (Exit APIError) NodeDisk Unit :=
  match x.enclosedName with
  | none => pure ()
  | some steps =>
    if x.isDir then discard (createDirAll fileInWay pathOut steps)
    else do
      discard (createDirAll fileAbove pathOut (parentSteps steps))
      match steps.getLast? with
      | some (.into _) => do
        writeFile (leadsTo pathOut steps) fun _ => .ok x.content
        match x.readError with
        | some e => throw (.err (.io e))
        | none => pure ()
      | _ => throw (.err isADirectory)

/-- Extract the entries one by one. -/
def extractItems (pathOut : List OsName) :
    List (Except String ZipItem) → Fallible (Exit APIError) NodeDisk Unit
  | [] => pure ()
  | item :: items => do
    let x ← attempt (item.mapError fun e =>
      .err (.unexpected s!"Failed to get file by index: {e}"))
    extractItem pathOut x
    extractItems pathOut items

/-- How the entries of an archive are read from its bytes. -/
abbrev Unarchiver := List UInt8 → Except String (List (Except String ZipItem))

def unzipItems (unarchive : Unarchiver) (zipPath pathOut : List OsName) :
    Fallible (Exit APIError) NodeDisk Unit := do
  let t ← get
  match t zipPath with
  | none => throw (.err (.unexpected "Failed to unzip: No such file or directory (os error 2)"))
  | some .dir => throw (.err (.unexpected
      "Failed to read zip archive: Is a directory (os error 21)"))
  | some (.file bytes) =>
    let items ← attempt ((unarchive bytes).mapError fun e =>
      .err (.unexpected s!"Failed to read zip archive: {e}"))
    extractItems pathOut items

/-! ### What an extraction does to a directory -/

abbrev DiskOp := TreeOp OsName (List UInt8) (Exit APIError)

abbrev runOps (ops : List DiskOp) : Fallible (Exit APIError) NodeDisk Unit := TreeOp.run ops

/-- What one entry does below a path. -/
def ZipItem.ops (pathOut : List OsName) (x : ZipItem) : List DiskOp :=
  match x.enclosedName with
  | none => []
  | some steps =>
    if x.isDir then TreeOp.mkdirs fileInWay pathOut steps
    else TreeOp.mkdirs fileAbove pathOut (parentSteps steps) ++
      match steps.getLast? with
      | some (.into _) =>
        .write (leadsTo pathOut steps) x.content (.err isADirectory) ::
          x.readError.toList.map fun e => .stop (.err (.io e))
      | _ => [.stop (.err isADirectory)]

def itemOps (pathOut : List OsName) : Except String ZipItem → List DiskOp
  | .ok x => x.ops pathOut
  | .error e => [.stop (.err (.unexpected s!"Failed to get file by index: {e}"))]

/-- What the entries do below a path. -/
def itemsOps (pathOut : List OsName) (items : List (Except String ZipItem)) : List DiskOp :=
  items.flatMap (itemOps pathOut)

/-- A disk with a directory that is extracted into. -/
structure Extractable (pathOut : List OsName) (t : NodeDisk) : Prop where
  wellFormed : t.WellFormed
  dir : t pathOut = some .dir

variable {pathOut : List OsName} {t : NodeDisk} {x : ZipItem}

theorem parentSteps_concat_into (steps : List (PathStep OsName)) (name : OsName) :
    parentSteps (steps ++ [.into name]) = steps := by
  rw [parentSteps, List.reverse_concat, List.dropWhile_cons_of_neg (by simp), List.tail_cons,
    List.reverse_reverse]

theorem parentSteps_prefix (steps : List (PathStep OsName)) : parentSteps steps <+: steps := by
  have hsuffix : (steps.reverse.dropWhile (· = .here)).tail <:+ steps.reverse :=
    (List.tail_suffix _).trans (List.dropWhile_suffix _)
  rw [parentSteps, ← List.reverse_suffix, List.reverse_reverse]
  exact hsuffix

/-- Making directories keeps the disk fit for an extraction. -/
theorem extractable_createDirAll (e : Bool → Exit APIError) (steps : List (PathStep OsName)) :
    Preserves (Extractable pathOut)
      (discard (createDirAll e pathOut steps) : Fallible (Exit APIError) NodeDisk Unit) := by
  intro t ht
  rw [after_discard]
  refine ⟨(wellFormed_createDirAll _ steps ht.wellFormed ht.dir).1, ?_⟩
  have hdir : t.withDirs (t.missingDirs pathOut steps) pathOut = some .dir := by
    rw [withDirs_of_isSome (by rw [ht.dir]; rfl), ht.dir]
  have happly := createDirAll_apply e t pathOut steps
  split at happly
  · rwa [after_of_error happly]
  · rwa [after_of_ok happly]

theorem extractable_writeFile (path : List OsName)
    (bytes : NodeDisk → Except (Exit APIError) (List UInt8)) :
    Preserves (Extractable pathOut) (writeFile path bytes) := by
  intro t ht
  refine ⟨wellFormed_writeFile path bytes t ht.wellFormed, ?_⟩
  obtain hsame | ⟨hpath, -, content, hwritten⟩ := after_writeFile path bytes t
  · rw [hsame, ht.dir]
  · rw [hwritten, put_of_ne, ht.dir]
    rintro rfl
    exact hpath ht.dir

theorem extractable_extractItem (x : ZipItem) :
    Preserves (Extractable pathOut) (extractItem pathOut x) := by
  unfold extractItem
  split
  · exact .pure ()
  · split
    · exact extractable_createDirAll _ _
    · refine .bind (extractable_createDirAll _ _) fun _ => ?_
      split
      · refine .bind (extractable_writeFile _ _) fun _ => ?_
        split
        · exact fun _ h => h
        · exact .pure ()
      · exact fun _ h => h

/-- In a directory that is there, a file is written in one operation. -/
theorem writeFile_eq_exec {path : List OsName} (hparent : t path.dropLast = some .dir)
    (content : List UInt8) :
    writeFile path (fun _ => .ok content) t =
      TreeOp.exec (.write path content (.err isADirectory)) t := by
  rw [writeFile_apply, TreeOp.exec, bind_of_ok (get_apply t), isDir_eq_true_iff.mpr hparent]
  cases t.isDir path <;> rfl

/-- One entry is extracted as its operations tell. -/
theorem extractItem_eq_runOps (ht : Extractable pathOut t) (x : ZipItem) :
    extractItem pathOut x t = runOps (x.ops pathOut) t := by
  unfold extractItem ZipItem.ops
  cases hname : x.enclosedName with
  | none => rfl
  | some steps =>
    simp only
    by_cases hdir : x.isDir = true
    · rw [if_pos hdir, if_pos hdir]
      exact TreeOp.discard_createDirAll fileInWay pathOut steps t
    rw [if_neg hdir, if_neg hdir, runOps, TreeOp.run_append, bind_apply, bind_apply,
      ← TreeOp.discard_createDirAll]
    cases hmade : (discard (createDirAll fileAbove pathOut (parentSteps steps)) :
        Fallible (Exit APIError) NodeDisk Unit) t with
    | error e t' => rfl
    | ok u t' =>
      cases hlast : steps.getLast? with
      | none => rfl
      | some step =>
        cases step with
        | here | up => rfl
        | into name =>
          obtain ⟨pre, rfl⟩ := List.getLast?_eq_some_iff.mp hlast
          rw [parentSteps_concat_into] at hmade
          obtain ⟨dir, hmade⟩ := discard_eq_ok_iff.mp hmade
          have hdir := (wellFormed_createDirAll _ pre ht.wellFormed ht.dir).2 dir t' hmade
          have hparent : (leadsTo pathOut (pre ++ [.into name])).dropLast = dir := by
            rw [createDirAll_apply] at hmade
            split at hmade
            · cases hmade
            · rw [leadsTo_append, ← (EStateM.Result.ok.inj hmade).1]
              exact List.dropLast_concat
          simp only [TreeOp.run, bind_apply]
          rw [writeFile_eq_exec (hparent ▸ hdir)]
          cases TreeOp.exec (.write (leadsTo pathOut (pre ++ [.into name])) x.content
            (Exit.err isADirectory)) t' with
          | error e t'' => rfl
          | ok u t'' => cases x.readError <;> rfl

/-- The entries of an archive are extracted as their operations tell. -/
theorem extractItems_eq_runOps (ht : Extractable pathOut t)
    (items : List (Except String ZipItem)) :
    extractItems pathOut items t = runOps (itemsOps pathOut items) t := by
  induction items generalizing t with
  | nil => rfl
  | cons item items ih =>
    rw [itemsOps, List.flatMap_cons, runOps, TreeOp.run_append, extractItems]
    cases item with
    | error e => rfl
    | ok x =>
      have hkeeps := extractable_extractItem x t ht
      rw [Except.mapError, bind_of_ok (attempt_ok x t), bind_apply, bind_apply,
        extractItem_eq_runOps ht x]
      unfold after at hkeeps
      rw [extractItem_eq_runOps ht x] at hkeeps
      simp only [itemOps, runOps] at hkeeps ⊢
      cases hrun : TreeOp.run (x.ops pathOut) t with
      | error e t' => rfl
      | ok u t' =>
        rw [hrun] at hkeeps
        exact ih hkeeps

theorem extractable_extractItems (items : List (Except String ZipItem)) :
    Preserves (Extractable pathOut) (extractItems pathOut items) := by
  induction items with
  | nil => exact .pure ()
  | cons item items ih =>
    exact .bind (.attempt _) fun x => .bind (extractable_extractItem x) fun _ => ih

/-! ### Wherever it is extracted to -/

theorem ops_eq_map_shift (pathOut : List OsName) (x : ZipItem) :
    x.ops pathOut = (x.ops []).map (TreeOp.shift pathOut) := by
  unfold ZipItem.ops
  cases hname : x.enclosedName with
  | none => rfl
  | some steps =>
    have hbelow := x.staysBelow steps hname
    have hparent : PathStep.staysBelow 0 (parentSteps steps) = true := by
      obtain ⟨rest, hrest⟩ := parentSteps_prefix steps
      exact staysBelow_of_append (hrest ▸ hbelow)
    simp only
    split
    · exact TreeOp.mkdirs_eq_map_shift fileInWay pathOut hbelow
    · rw [List.map_append, ← TreeOp.mkdirs_eq_map_shift fileAbove pathOut hparent,
        leadsTo_eq_append pathOut hbelow]
      split
      · rw [List.map_cons, List.map_map]
        rfl
      · rfl

theorem itemsOps_eq_map_shift (pathOut : List OsName) (items : List (Except String ZipItem)) :
    itemsOps pathOut items = (itemsOps [] items).map (TreeOp.shift pathOut) := by
  rw [itemsOps, itemsOps, List.map_flatMap]
  refine congrArg (List.flatMap · items) (funext fun item => ?_)
  cases item with
  | error e => rfl
  | ok x => exact ops_eq_map_shift pathOut x

/-- An extraction does to a directory what its operations do to what is in it. -/
theorem extractItems_apply (ht : Extractable pathOut t) (items : List (Except String ZipItem)) :
    extractItems pathOut items t =
      zoom (fun t => t.sub pathOut) (fun u t => t.graft pathOut u)
        (runOps (itemsOps [] items)) t := by
  rw [extractItems_eq_runOps ht, itemsOps_eq_map_shift]
  exact congrFun (TreeOp.run_map_shift pathOut _) t

/-- No operation of an extraction panics. -/
theorem answers_of_mem_itemsOps {items : List (Except String ZipItem)} {op : DiskOp}
    (h : op ∈ itemsOps pathOut items) : op.error.answers := by
  obtain ⟨item, -, h⟩ := List.mem_flatMap.mp h
  cases item with
  | error message =>
    cases List.mem_singleton.mp h
    trivial
  | ok x =>
    rw [itemOps, ZipItem.ops] at h
    split at h
    · cases h
    · split at h
      · obtain ⟨last, hlast⟩ := TreeOp.error_of_mem_mkdirs h
        rw [hlast]
        trivial
      · obtain h | h := List.mem_append.mp h
        · obtain ⟨last, hlast⟩ := TreeOp.error_of_mem_mkdirs h
          rw [hlast]
          trivial
        · split at h
          · obtain rfl | h := List.mem_cons.mp h
            · trivial
            · obtain ⟨message, -, rfl⟩ := List.mem_map.mp h
              trivial
          · cases List.mem_singleton.mp h
            trivial

/-- No extraction panics. -/
theorem stopsOnly_extractItems (ht : Extractable pathOut t)
    (items : List (Except String ZipItem)) :
    StopsOnly Exit.answers (extractItems pathOut items) t := by
  have hstops : StopsOnly Exit.answers (runOps (itemsOps pathOut items)) t :=
    TreeOp.stopsOnly_run fun op h => answers_of_mem_itemsOps h
  intro e t' herror
  exact hstops e t' ((extractItems_eq_runOps ht items).symm.trans herror)

/-! ### The archives of backups -/

/-- An entry of a backup is read whole. -/
def ZipItem.ofEntry (x : ZipEntry) : ZipItem where
  enclosedName := some (x.path.map .into)
  staysBelow _ h := Option.mem_some_iff.mp h ▸ staysBelow_map_into 0 x.path
  isDir := decide (x.entry = .dir)
  content :=
    match x.entry with
    | .file content => content
    | .dir => []
  readError := none

/-- A backup is extracted as any archive with its entries is. -/
theorem extractItem_ofEntry {x : ZipEntry} (hne : x.name ≠ []) :
    extractItem pathOut (.ofEntry x) = extractEntry pathOut x := by
  obtain ⟨pre, name, hpath⟩ : ∃ pre name, x.path = pre ++ [name] := by
    have hne : x.path ≠ [] := fun hnil => hne (List.map_eq_nil_iff.mp hnil)
    exact ⟨_, _, (List.dropLast_append_getLast hne).symm⟩
  have hsteps : x.path.map PathStep.into = pre.map .into ++ [.into name] := by
    rw [hpath, List.map_append, List.map_singleton]
  unfold extractItem ZipItem.ofEntry extractEntry
  cases x.entry with
  | dir => rfl
  | file content =>
    simp only [reduceCtorEq, decide_false, Bool.false_eq_true, if_false]
    rw [← leadsTo_map_into, hsteps, parentSteps_concat_into, List.getLast?_concat, hpath,
      List.dropLast_concat]
    exact congrArg (_ >>= ·) (funext fun _ => bind_pure _)

theorem extractItems_map_ofEntry {entries : List (Except String ZipEntry)}
    (hne : ∀ x, .ok x ∈ entries → x.name ≠ []) :
    extractItems pathOut (entries.map (·.map .ofEntry)) = extract pathOut entries := by
  induction entries with
  | nil => rfl
  | cons entry entries ih =>
    have hrest := ih fun x hx => hne x (List.mem_cons_of_mem _ hx)
    rw [List.map_cons, extractItems, extract, hrest]
    cases entry with
    | error e => rfl
    | ok x =>
      exact congrArg (· >>= fun _ => extract pathOut entries)
        (extractItem_ofEntry (hne x List.mem_cons_self))

end RgbLightningNode
