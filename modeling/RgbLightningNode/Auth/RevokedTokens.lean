import RgbLightningNode.Auth.Revocation
import RgbLightningNode.Lib.Mealy
import RgbLightningNode.Utils

/-!
# The file of revoked tokens

A revocation updates the set under its lock and writes the whole set down there;
the file is replaced afterwards, without the lock. What the file holds is read
when the node starts. The file keeps every id as long as it is replaced in the
order in which the sets were written down.
-/

namespace RgbLightningNode

/-- The order in which a hash set is gone through, which nothing fixes. -/
structure HashSetIter where
  toList : Finset (List UInt8) → List (List UInt8)
  nodup : ∀ s, (toList s).Nodup
  mem_toList : ∀ s id, id ∈ toList s ↔ id ∈ s

/-- The text of a list of revoked ids, one line an id. -/
def revokedFileBody (ids : List (List UInt8)) : List Char :=
  ids.flatMap fun id => (hexStr id).toList ++ ['\n']

/-- The characters that are trimmed from a line. -/
def isWhiteSpace (c : Char) : Bool :=
  (9 ≤ c.toNat && c.toNat ≤ 13) || (0x2000 ≤ c.toNat && c.toNat ≤ 0x200a) ||
    [0x20, 0x85, 0xa0, 0x1680, 0x2028, 0x2029, 0x202f, 0x205f, 0x3000].contains c.toNat

inductive AppError where
  | invalidRevokedTokensFile
  deriving DecidableEq

/-- Read the lines of the file. The first one that is not hexadecimal is an error. -/
def readRevokedLines (revoked : Finset (List UInt8)) :
    List (List Char) → Except AppError (Finset (List UInt8))
  | [] => .ok revoked
  | line :: lines =>
    match Text.trim isWhiteSpace line with
    | [] => readRevokedLines revoked lines
    | '#' :: _ => readRevokedLines revoked lines
    | s =>
      match hexStrToVec s with
      | some tokenId => readRevokedLines (insert tokenId revoked) lines
      | none => .error .invalidRevokedTokensFile

/-- Load the revoked ids from the file, which may be missing. -/
def loadRevokedTokens : Option (List Char) → Except AppError (Finset (List UInt8))
  | none => .ok ∅
  | some text => readRevokedLines ∅ (Text.splitOn '\n' text)

/-- The file has the id, for a node that loads it. -/
def OnFile (file : Option (List Char)) (id : List UInt8) : Prop :=
  ∃ revoked, loadRevokedTokens file = .ok revoked ∧ id ∈ revoked

/-! ### Writing and loading -/

theorem hexStr_toList (id : List UInt8) : (hexStr id).toList = id.flatMap hexByte := by
  rw [hexStr, String.toList_ofList]

theorem trim_hexStr (id : List UInt8) :
    Text.trim isWhiteSpace (hexStr id).toList = (hexStr id).toList := by
  refine Text.trim_eq_self fun c hc => ?_
  rw [hexStr_toList] at hc
  exact forall_mem_flatMap_hexByte (p := fun c => isWhiteSpace c = false) (by decide) hc

/-- A line with an id is read back. The line of the empty id is an empty line. -/
theorem readRevokedLines_hexStr (revoked : Finset (List UInt8)) (id : List UInt8)
    (lines : List (List Char)) :
    readRevokedLines revoked ((hexStr id).toList :: lines) =
      readRevokedLines (if id = [] then revoked else insert id revoked) lines := by
  rw [readRevokedLines, trim_hexStr, hexStr_toList]
  cases id with
  | nil => rfl
  | cons v id =>
    have hcomment : ∀ c ∈ (v :: id).flatMap hexByte, c ≠ '#' := fun c hc =>
      forall_mem_flatMap_hexByte (p := (· ≠ '#')) (by decide) hc
    have hback := hexStrToVec_flatMap_hexByte (v :: id)
    rw [List.flatMap_cons, hexByte, List.cons_append] at hcomment hback ⊢
    have := hcomment _ List.mem_cons_self
    split
    · contradiction
    · rename_i heq
      exact absurd (List.cons.inj heq).1 this
    · rw [hback, if_neg (List.cons_ne_nil v id)]

theorem splitOn_revokedFileBody_cons (id : List UInt8) (ids : List (List UInt8)) :
    Text.splitOn '\n' (revokedFileBody (id :: ids)) =
      (hexStr id).toList :: Text.splitOn '\n' (revokedFileBody ids) := by
  have hline : '\n' ∉ (hexStr id).toList := by
    intro h
    rw [hexStr_toList] at h
    exact forall_mem_flatMap_hexByte (p := (· ≠ '\n')) (by decide) h rfl
  have hbody : revokedFileBody (id :: ids) = (hexStr id).toList ++ '\n' :: revokedFileBody ids := by
    rw [revokedFileBody, List.flatMap_cons, List.append_assoc]
    rfl
  rw [hbody, Text.splitOn_append_cons hline]

theorem readRevokedLines_revokedFileBody (ids : List (List UInt8)) :
    ∀ revoked, readRevokedLines revoked (Text.splitOn '\n' (revokedFileBody ids)) =
      .ok (revoked ∪ (ids.filter (· ≠ [])).toFinset) := by
  induction ids with
  | nil =>
    intro revoked
    rw [List.filter_nil, List.toFinset_nil, Finset.union_empty]
    rfl
  | cons id ids ih =>
    intro revoked
    rw [splitOn_revokedFileBody_cons, readRevokedLines_hexStr, ih]
    by_cases hid : id = []
    · rw [if_pos hid, List.filter_cons_of_neg (by simp [hid])]
    · rw [if_neg hid, List.filter_cons_of_pos (by simp [hid]), List.toFinset_cons,
        Finset.insert_union, Finset.union_insert]

/-- What is written is read back, but for the empty id. -/
theorem onFile_revokedFileBody_iff {ids : List (List UInt8)} {id : List UInt8} :
    OnFile (some (revokedFileBody ids)) id ↔ id ∈ ids ∧ id ≠ [] := by
  have hload : loadRevokedTokens (some (revokedFileBody ids)) =
      .ok (ids.filter (· ≠ [])).toFinset := by
    rw [loadRevokedTokens, readRevokedLines_revokedFileBody, Finset.empty_union]
  simp [OnFile, hload]

end RgbLightningNode
