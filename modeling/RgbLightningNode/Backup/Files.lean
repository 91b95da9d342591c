import RgbLightningNode.Lib.PathSteps
import RgbLightningNode.Types

/-!
# The files a backup works on

What is on the disk, and the reading and writing of whole files.
-/

namespace RgbLightningNode

open Fallible FileTree

/-- The name of a file. One that is not text is kept as the bytes it has. -/
inductive OsName where
  | text (name : List Char)
  | other (bytes : List UInt8)
  deriving DecidableEq

def OsName.toStr : OsName → Option (List Char)
  | text name => some name
  | other _ => none

abbrev NodeDisk := FileTree OsName (List UInt8)

def isADirectory : APIError := .io "Is a directory (os error 21)"
def notADirectory : APIError := .io "Not a directory (os error 20)"
def fileExists : APIError := .io "File exists (os error 17)"
def noSuchFile : APIError := .io "No such file or directory (os error 2)"

/-- The error for a file in place of a directory that is made, or of one above it. -/
def fileInWay (last : Bool) : Exit APIError := .err (if last then fileExists else notADirectory)

/-- The error for a file in place of a directory above a file. -/
def fileAbove : Bool → Exit APIError := fun _ => .err notADirectory

/-- Create a file and write to it what comes out of a computation on the disk with
the file created. -/
def writeFile (path : List OsName) (bytes : NodeDisk → Except (Exit APIError) (List UInt8)) :
    Fallible (Exit APIError) NodeDisk Unit := do
  let t ← get
  ensure (!t.isDir path) (.err isADirectory)
  ensure (t.isDir path.dropLast) (.err noSuchFile)
  modify fun t => t.put path (.file [])
  let content ← attempt (bytes (t.put path (.file [])))
  modify fun t => t.put path (.file content)

def readFile (path : List OsName) : Fallible (Exit APIError) NodeDisk (List UInt8) := do
  let t ← get
  match t path with
  | some (.file content) => pure content
  | some .dir => throw (.err isADirectory)
  | none => throw (.err noSuchFile)

variable {path : List OsName} {bytes : NodeDisk → Except (Exit APIError) (List UInt8)}
  {t t' : NodeDisk}

theorem writeFile_apply (path : List OsName)
    (bytes : NodeDisk → Except (Exit APIError) (List UInt8)) (t : NodeDisk) :
    writeFile path bytes t =
      if t.isDir path then .error (.err isADirectory) t
      else if t.isDir path.dropLast then
        match bytes (t.put path (.file [])) with
        | .ok content => .ok () (t.put path (.file content))
        | .error e => .error e (t.put path (.file []))
      else .error (.err noSuchFile) t := by
  cases hdir : t.isDir path <;> cases hparent : t.isDir path.dropLast <;>
    cases hbytes : bytes (t.put path (.file [])) <;>
      simp [writeFile, bind_apply, hdir, hparent, hbytes]

/-- A file is written where there is no directory, in one that is there. -/
theorem writeFile_eq_ok_iff :
    writeFile path bytes t = .ok () t' ↔
      t path ≠ some .dir ∧ t path.dropLast = some .dir ∧
        ∃ content, bytes (t.put path (.file [])) = .ok content ∧
          t' = t.put path (.file content) := by
  rw [writeFile_apply]
  simp only [ne_eq, ← isDir_eq_true_iff]
  cases hdir : t.isDir path <;> cases hparent : t.isDir path.dropLast <;>
    cases hbytes : bytes (t.put path (.file [])) <;> simp [eq_comm]

/-- A file that has not been written to the end is there, with nothing in it. -/
theorem after_writeFile (path : List OsName)
    (bytes : NodeDisk → Except (Exit APIError) (List UInt8)) (t : NodeDisk) :
    after (writeFile path bytes) t = t ∨
      t path ≠ some .dir ∧ t path.dropLast = some .dir ∧
        ∃ content, after (writeFile path bytes) t = t.put path (.file content) := by
  rw [after, writeFile_apply]
  simp only [ne_eq, ← isDir_eq_true_iff]
  cases hdir : t.isDir path
  · cases hparent : t.isDir path.dropLast
    · exact .inl rfl
    · right
      cases hbytes : bytes (t.put path (.file [])) with
      | ok content => exact ⟨by simp, rfl, content, by simp⟩
      | error e => exact ⟨by simp, rfl, [], by simp⟩
  · exact .inl rfl

theorem readFile_eq_ok_iff {content : List UInt8} :
    readFile path t = .ok content t' ↔ t path = some (.file content) ∧ t = t' := by
  rw [readFile, bind_of_ok (get_apply t)]
  cases hentry : t path with
  | none => simp
  | some entry => cases entry <;> simp

theorem wellFormed_put_file (ht : t.WellFormed) (hpath : t path ≠ some .dir)
    (hparent : t path.dropLast = some .dir) (content : List UInt8) :
    (t.put path (.file content)).WellFormed := by
  obtain ⟨pre, name, rfl⟩ : ∃ pre name, path = pre ++ [name] := by
    have hne : path ≠ [] := by
      rintro rfl
      exact hpath ht.root
    exact ⟨path.dropLast, path.getLast hne, (List.dropLast_append_getLast hne).symm⟩
  rw [List.dropLast_concat] at hparent
  exact ht.put hparent hpath _

/-- What is written to stays a tree a disk can hold. -/
theorem wellFormed_writeFile (path : List OsName)
    (bytes : NodeDisk → Except (Exit APIError) (List UInt8)) :
    Preserves FileTree.WellFormed (writeFile path bytes) := by
  intro t ht
  obtain hsame | ⟨hpath, hparent, content, hwritten⟩ := after_writeFile path bytes t
  · rwa [hsame]
  · rw [hwritten]
    exact wellFormed_put_file ht hpath hparent content

/-- There is nothing in a directory. -/
structure EmptyDir (t : NodeDisk) (p : List OsName) : Prop where
  dir : t p = some .dir
  empty : ∀ q, q ≠ [] → t (p ++ q) = none

/-- Nothing lies below what is not there. -/
theorem emptyDir_put (ht : t.WellFormed) (hfree : t path = none) :
    EmptyDir (t.put path .dir) path where
  dir := put_self ..
  empty q hq := by
    rw [put_of_ne _ _ (by simp [hq])]
    by_contra hsome
    have hdir := ht.dir_of_append hq (Option.isSome_iff_ne_none.mpr hsome)
    rw [hfree] at hdir
    cases hdir

end RgbLightningNode
