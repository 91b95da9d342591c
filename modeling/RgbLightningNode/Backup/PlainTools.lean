import Mathlib.Algebra.BigOperators.Group.List.Basic
import Mathlib.Algebra.Ring.Nat
import RgbLightningNode.Backup.Success

/-!
# Tools for a backup

Tools as a backup needs them: an archive format that writes the entries one after the
other, a walk that lists a finite tree, and a cipher that appends a checksum.
-/

namespace RgbLightningNode

open FileTree

/-! ### Codes that tell where they end -/

/-- A code can be told from what follows it. -/
def SelfDelimiting {α : Type} (code : α → List UInt8) : Prop :=
  ∀ a b s s', code a ++ s = code b ++ s' → a = b ∧ s = s'

def listCode {α : Type} (code : α → List UInt8) : List α → List UInt8
  | [] => [0]
  | a :: as => 1 :: (code a ++ listCode code as)

theorem length_listCode {α : Type} (code : α → List UInt8) (as : List α) :
    (listCode code as).length = (as.map fun a => (code a).length + 1).sum + 1 := by
  induction as with
  | nil => rfl
  | cons a as ih =>
    rw [listCode, List.length_cons, List.length_append, ih, List.map_cons, List.sum_cons]
    omega

/-- The three bytes of a code point. -/
def charCode (c : Char) : List UInt8 :=
  [UInt8.ofNat (c.toNat / 65536), UInt8.ofNat (c.toNat / 256), UInt8.ofNat c.toNat]

def entryCode : FileEntry (List UInt8) → List UInt8
  | .dir => [0]
  | .file content => 1 :: listCode (fun b => [b]) content

def zipEntryCode (x : ZipEntry) : List UInt8 :=
  listCode (listCode charCode) x.name ++ entryCode x.entry

theorem selfDelimiting_listCode {α : Type} {code : α → List UInt8} (h : SelfDelimiting code) :
    SelfDelimiting (listCode code) := by
  intro as
  induction as with
  | nil =>
    intro bs s s' heq
    cases bs with
    | nil => exact ⟨rfl, (List.cons.inj heq).2⟩
    | cons b bs => exact absurd (List.cons.inj heq).1 (by decide)
  | cons a as ih =>
    intro bs s s' heq
    cases bs with
    | nil => exact absurd (List.cons.inj heq).1 (by decide)
    | cons b bs =>
      have htail : code a ++ listCode code as ++ s = code b ++ listCode code bs ++ s' :=
        (List.cons.inj heq).2
      rw [List.append_assoc, List.append_assoc] at htail
      obtain ⟨rfl, hrest⟩ := h _ _ _ _ htail
      obtain ⟨rfl, hs⟩ := ih _ _ _ hrest
      exact ⟨rfl, hs⟩

theorem selfDelimiting_charCode : SelfDelimiting charCode := by
  intro c d s s' heq
  obtain ⟨hhigh, heq⟩ := List.cons.inj heq
  obtain ⟨hmiddle, heq⟩ := List.cons.inj heq
  obtain ⟨hlow, hs⟩ := List.cons.inj heq
  have hlt : ∀ c : Char, c.toNat < 0x110000 := fun c =>
    c.valid.elim (fun hlow => hlow.trans (by decide)) fun hhigh => hhigh.2
  have hc := hlt c
  have hd := hlt d
  refine ⟨Char.toNat_inj.mp ?_, hs⟩
  simp only [UInt8.ofNat_eq_iff_mod_eq_toNat, UInt8.toNat_ofNat'] at hhigh hmiddle hlow
  omega

theorem selfDelimiting_bytes : SelfDelimiting (listCode fun b : UInt8 => [b]) :=
  selfDelimiting_listCode fun _ _ _ _ h => List.cons.inj h

theorem selfDelimiting_entryCode : SelfDelimiting entryCode := by
  intro e f s s' heq
  cases e with
  | dir =>
    cases f with
    | dir => exact ⟨rfl, (List.cons.inj heq).2⟩
    | file content => exact absurd (List.cons.inj heq).1 (by decide)
  | file content =>
    cases f with
    | dir => exact absurd (List.cons.inj heq).1 (by decide)
    | file content' =>
      obtain ⟨rfl, hs⟩ := selfDelimiting_bytes _ _ _ _ (List.cons.inj heq).2
      exact ⟨rfl, hs⟩

theorem selfDelimiting_zipEntryCode : SelfDelimiting zipEntryCode := by
  intro x y s s' heq
  obtain ⟨name, entry⟩ := x
  obtain ⟨name', entry'⟩ := y
  simp only [zipEntryCode, List.append_assoc] at heq
  obtain ⟨rfl, hentry⟩ := selfDelimiting_listCode
    (selfDelimiting_listCode selfDelimiting_charCode) _ _ _ _ heq
  obtain ⟨rfl, hs⟩ := selfDelimiting_entryCode _ _ _ _ hentry
  exact ⟨rfl, hs⟩

theorem listCode_zipEntryCode_injective : Function.Injective (listCode zipEntryCode) :=
  fun x y h => (selfDelimiting_listCode selfDelimiting_zipEntryCode x y [] []
    (by rw [List.append_nil, List.append_nil, h])).1

/-! ### The tools -/

open Classical in
/-- The archives are the codes of their entries. -/
noncomputable def plainArchiver : Archiver where
  walkDir t := if h : {p | (t p).isSome}.Finite then h.toFinset.toList else []
  zip entries := .ok (listCode zipEntryCode entries)
  unzip bytes :=
    if h : ∃ entries, listCode zipEntryCode entries = bytes then .ok (h.choose.map .ok)
    else .error "invalid Zip archive"
  zipSoFar added := .ok (listCode zipEntryCode added)

theorem lawful_plainArchiver : plainArchiver.Lawful where
  mem_walkDir t ht p := by
    simp [plainArchiver, ht.finite]
  nodup_walkDir t := by
    unfold plainArchiver
    simp only
    split
    · exact Finset.nodup_toList _
    · exact List.nodup_nil
  unzip_zip entries bytes h := by
    obtain rfl := Except.ok.inj h
    have hexists : ∃ entries', listCode zipEntryCode entries' = listCode zipEntryCode entries :=
      ⟨entries, rfl⟩
    unfold plainArchiver
    simp only
    rw [dif_pos hexists, listCode_zipEntryCode_injective hexists.choose_spec]

/-- A chunk is followed by an empty checksum. -/
def plainCrypto : BackupCrypto where
  hashPassword password salt := .ok ((utf8Bytes (password ++ salt) ++ List.replicate 32 0).take 32)
  encryptChunk _ _ _ chunk := chunk ++ List.replicate 16 0
  decryptChunk _ _ _ chunk :=
    if 16 ≤ chunk.length then some (chunk.take (chunk.length - 16)) else none

theorem lawful_plainCrypto : plainCrypto.Lawful where
  length_encryptChunk _ _ _ chunk := by
    simp [plainCrypto]
  decryptChunk_encryptChunk _ _ _ chunk := by
    simp [plainCrypto]

noncomputable def plainTools : BackupTools where
  toArchiver := plainArchiver
  toBackupCrypto := plainCrypto
  cwd := []

theorem lawful_plainTools : plainTools.Lawful := ⟨lawful_plainArchiver, lawful_plainCrypto⟩

end RgbLightningNode
