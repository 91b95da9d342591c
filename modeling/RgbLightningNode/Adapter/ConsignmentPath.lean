import RgbLightningNode.Adapter.Consignment
import RgbLightningNode.Backup.Backup

/-!
# The path of a consignment

The path a consignment is written to names its asset and its transaction, and the
asset is read back from the name of the file. The directory of the data is a
text, and so is every path below it.
-/

namespace RgbLightningNode

open Fallible

/-- Put a path behind a directory. One from the root stays as it is. -/
def joinPath (dir path : List Char) : List Char :=
  match path with
  | '/' :: _ => path
  | _ =>
    match dir.getLast? with
    | none => path
    | some '/' => dir ++ path
    | some _ => dir ++ '/' :: path

/-- The name a path ends with. -/
def pathFileName (path : List Char) : Option OsName :=
  match (pathSteps path).reverse.dropWhile (· = .here) with
  | .into name :: _ => some name
  | _ => none

def getSendConsignmentPath (dataDir : List Char) (assetId txid : String) : List Char :=
  joinPath (joinPath dataDir "consignments".toList) (consignmentName assetId txid).toList

/-- The asset that a posting takes from the path of its consignment. -/
def consignmentPathAsset (path : List Char) : Except (Exit String) String := do
  let fileName ← orErr ((pathFileName path).bind OsName.toStr) "Cannot extract filename"
  consignmentAsset (String.ofList fileName)

/-- The components of a path, by which paths are compared. -/
def pathComponents (path : List Char) : List (PathStep OsName) :=
  (pathSteps path).filter (· ≠ .here)

/-! ### The name at the end of a path -/

theorem pathStep_of_lt {name : List Char} (h : 2 < name.length) :
    pathStep name = .into (.text name) := by
  unfold pathStep
  split
  · exact absurd h (by simp)
  · exact absurd h (by simp)
  · exact absurd h (by simp)
  · rfl

theorem joinPath_of_getLast {dir path : List Char} {c : Char} (hdir : dir.getLast? = some c)
    (hc : c ≠ '/') (hpath : '/' ∉ path) : joinPath dir path = dir ++ '/' :: path := by
  unfold joinPath
  split
  · exact absurd (List.mem_cons_self ..) hpath
  · rw [hdir]
    split
    · rename_i heq
      cases heq
    · rename_i heq
      exact absurd (Option.some.inj heq) hc
    · rfl

theorem getLast?_joinPath (dir : List Char) {path : List Char} (h : path ≠ []) :
    (joinPath dir path).getLast? = path.getLast? := by
  unfold joinPath
  split
  · rfl
  · split
    · rfl
    · exact List.getLast?_append_of_ne_nil dir h
    · rw [List.append_cons, List.getLast?_append_of_ne_nil _ h]

theorem pathFileName_of_steps {path name : List Char} {steps : List (PathStep OsName)}
    (h : pathSteps path = steps ++ [.into (.text name)]) :
    pathFileName path = some (.text name) := by
  rw [pathFileName, h, List.reverse_append]
  rfl

/-! ### The asset is read back -/

variable {assetId txid assetId' txid' : String}

/-- What a consignment's path ends with. -/
theorem pathSteps_getSendConsignmentPath (dataDir : List Char)
    (hasset : '/' ∉ assetId.toList) (htxid : ∀ c ∈ txid.toList, hexDigit c ≠ none) :
    ∃ steps, pathSteps (getSendConsignmentPath dataDir assetId txid) =
      steps ++ [.into (.text (consignmentName assetId txid).toList)] := by
  have hslash : '/' ∉ (consignmentName assetId txid).toList := by
    rw [toList_consignmentName, List.mem_append, List.mem_cons, List.mem_append]
    rintro (h | h | h | h)
    · exact hasset h
    · exact absurd h (by decide)
    · exact htxid '/' h (by decide)
    · exact absurd h (by decide)
  have hlength : 2 < (consignmentName assetId txid).toList.length := by
    rw [toList_consignmentName, List.length_append, List.length_cons, List.length_append]
    have hext : ".consignment".toList.length = 12 := by decide
    omega
  refine ⟨pathSteps (joinPath dataDir "consignments".toList), ?_⟩
  have hlast : (joinPath dataDir "consignments".toList).getLast? = some 's' :=
    getLast?_joinPath dataDir (by decide)
  rw [getSendConsignmentPath, joinPath_of_getLast hlast (by decide) hslash, pathSteps,
    Text.splitOn_append_sep, Text.splitOn_of_notMem hslash, List.map_append, List.map_singleton,
    pathStep_of_lt hlength, pathSteps]

/-- An asset without slashes is read back from the path of its consignment, and
every asset and transaction have a path of their own. -/
theorem consignmentPathAsset_getSendConsignmentPath (dataDir : List Char)
    (hasset : '/' ∉ assetId.toList) (htxid : ∀ c ∈ txid.toList, hexDigit c ≠ none) :
    consignmentPathAsset (getSendConsignmentPath dataDir assetId txid) = .ok assetId ∧
      ∀ assetId' txid' : String, '/' ∉ assetId'.toList →
        (∀ c ∈ txid'.toList, hexDigit c ≠ none) →
        pathComponents (getSendConsignmentPath dataDir assetId txid) =
          pathComponents (getSendConsignmentPath dataDir assetId' txid') →
        assetId = assetId' ∧ txid = txid' := by
  have hunderscore : ∀ {txid : String}, (∀ c ∈ txid.toList, hexDigit c ≠ none) →
      '_' ∉ txid.toList := fun h hmem => h '_' hmem (by decide)
  obtain ⟨steps, hsteps⟩ := pathSteps_getSendConsignmentPath dataDir hasset htxid
  constructor
  · rw [consignmentPathAsset, pathFileName_of_steps hsteps, Option.bind_some, OsName.toStr, orErr,
      except_ok_bind, String.ofList_toList]
    exact consignmentAsset_consignmentName (hunderscore htxid)
  · intro assetId' txid' hasset' htxid' hsame
    obtain ⟨steps', hsteps'⟩ := pathSteps_getSendConsignmentPath dataDir hasset' htxid'
    rw [pathComponents, pathComponents, hsteps, hsteps', List.filter_append,
      List.filter_append] at hsame
    -- the file names are the last components
    have hlast := (List.append_inj' hsame rfl).2
    have hname : consignmentName assetId txid = consignmentName assetId' txid' := by
      rw [← String.toList_inj]
      simpa using hlast
    have hread := congrArg consignmentAsset hname
    rw [consignmentAsset_consignmentName (hunderscore htxid),
      consignmentAsset_consignmentName (hunderscore htxid')] at hread
    obtain rfl := Except.ok.inj hread
    refine ⟨rfl, ?_⟩
    rw [← String.toList_inj, toList_consignmentName, toList_consignmentName] at hname
    rw [← String.toList_inj]
    simpa using hname

/-- An asset with an underscore and the extension in its id. -/
theorem consignmentPathAsset_rgb_20 :
    consignmentPathAsset (getSendConsignmentPath "/data".toList "rgb_20.consignment" "00fF") =
        .ok "rgb_20.consignment" ∧
      ∀ assetId' txid' : String, '/' ∉ assetId'.toList →
        (∀ c ∈ txid'.toList, hexDigit c ≠ none) →
        pathComponents (getSendConsignmentPath "/data".toList "rgb_20.consignment" "00fF") =
          pathComponents (getSendConsignmentPath "/data".toList assetId' txid') →
        "rgb_20.consignment" = assetId' ∧ "00fF" = txid' := by
  have htxid : ("00fF".toList.all fun c => (hexDigit c).isSome) = true := by decide
  refine consignmentPathAsset_getSendConsignmentPath "/data".toList (by decide) fun c hc => ?_
  exact Option.isSome_iff_ne_none.mp (List.all_eq_true.mp htxid c hc)

end RgbLightningNode
