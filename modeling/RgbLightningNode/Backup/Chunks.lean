import RgbLightningNode.Backup.PlainTools

/-!
# The chunks of an encrypted file

Encryption and decryption read a file in chunks of their own sizes, and the chunks
are the same for every length. A file that was cut differs from a whole one in its
last chunk, whose mark is not checked where the cut lies between two chunks.
-/

namespace RgbLightningNode

open Fallible FileTree

variable {tools : BackupTools} {t t' : NodeDisk} {password salt nonce : String}
  {source ciphertext c : List UInt8} {secrets : CypherSecrets} {p q r : List OsName}

/-! ### Files that are encrypted and decrypted -/

/-- The chunks of a file, the last one included. -/
def chunkCount (source : List UInt8) : Nat := source.length / backupBufferLenEncrypt + 1

/-- A file may be written at a path. -/
def Writable (t : NodeDisk) (p : List OsName) : Prop :=
  t p ≠ some .dir ∧ t p.dropLast = some .dir

theorem exists_encryptFile (hsource : t p = some (.file source)) (hq : Writable t q)
    (hsecrets : tools.getCypherSecrets password salt nonce = .ok secrets)
    (hchunks : chunkCount source < 2 ^ 32) :
    ∃ ciphertext, tools.encryptFrom secrets 0 source = .ok ciphertext ∧
      encryptFile tools p q password salt nonce t =
        .ok () ((t.put q (.file ciphertext)).remove p) := by
  have hshort : source.length < backupBufferLenEncrypt * (streamCounterMax - 0) := by
    have hdiv : source.length / backupBufferLenEncrypt < streamCounterMax := by
      unfold chunkCount at hchunks
      unfold streamCounterMax
      omega
    rw [Nat.sub_zero, Nat.mul_comm]
    exact (Nat.div_lt_iff_lt_mul (by decide)).mp hdiv
  obtain ⟨ciphertext, hcipher⟩ := exists_encryptFrom tools.toBackupCrypto secrets 0 hshort
  have hwrite : writeFile q (fun _ => tools.encryptFrom secrets 0 source) t =
      .ok () (t.put q (.file ciphertext)) :=
    writeFile_eq_ok_iff.mpr ⟨hq.1, hq.2, ciphertext, hcipher, rfl⟩
  refine ⟨ciphertext, hcipher, ?_⟩
  rw [encryptFile, bind_of_ok (attempt_eq_ok_iff.mpr ⟨hsecrets, rfl⟩),
    bind_of_ok (readFile_eq_ok_iff.mpr ⟨hsource, rfl⟩), bind_of_ok hwrite]
  rfl

/-- What a decryption answers is what its loop does with the bytes of the file. -/
theorem decryptFile_of_file (hsource : t q = some (.file c)) (hr : Writable t r)
    (hsecrets : tools.getCypherSecrets password salt nonce = .ok secrets) :
    decryptFile tools q r password salt nonce t =
      match tools.decryptFrom secrets 0 c with
      | .ok cleartext => .ok () (t.put r (.file cleartext))
      | .error e => .error e (t.put r (.file [])) := by
  have hdir : t.isDir r = false := by
    rw [Bool.eq_false_iff]
    exact fun h => hr.1 (isDir_eq_true_iff.mp h)
  rw [decryptFile, bind_of_ok (attempt_eq_ok_iff.mpr ⟨hsecrets, rfl⟩),
    bind_of_ok (readFile_eq_ok_iff.mpr ⟨hsource, rfl⟩), writeFile_apply, hdir,
    isDir_eq_true_iff.mpr hr.2]
  rfl

/-- Encrypting a file leaves what may be written, at the path of the cleartext also. -/
theorem Writable.of_encrypted (hr : Writable t r) (hq : Writable t q) (hqr : q ≠ r)
    (hsource : t p = some (.file source)) (ciphertext : List UInt8) :
    Writable ((t.put q (.file ciphertext)).remove p) r := by
  -- the path lies in a directory, and neither file is one
  have hne : r.dropLast ≠ p := by
    intro heq
    have hdir := hr.2
    rw [heq, hsource] at hdir
    cases hdir
  have hne' : r.dropLast ≠ q := by
    intro heq
    exact hq.1 (heq ▸ hr.2)
  constructor
  · by_cases hrp : r = p
    · rw [hrp, remove_self]
      simp
    · rw [remove_of_ne _ hrp, put_of_ne _ _ hqr.symm]
      exact hr.1
  · rw [remove_of_ne _ hne, put_of_ne _ _ hne']
    exact hr.2

/-! ### Files that are cut -/

/-- A chunk that was cut is not taken for the last one. -/
def BackupCrypto.RejectsCut (crypto : BackupCrypto) : Prop :=
  ∀ secrets position last chunk c, chunk.length ≤ backupBufferLenEncrypt →
    c <+: crypto.encryptChunk secrets position last chunk →
    c.length < (crypto.encryptChunk secrets position last chunk).length →
    crypto.decryptChunk secrets position true c = none

namespace BackupCrypto

variable {crypto : BackupCrypto} {position : Nat}

/-- A part of one chunk is an error, and nothing at all is not. -/
theorem decryptFrom_of_part (hcut : crypto.RejectsCut) {last : Bool} {chunk : List UInt8}
    (hchunk : chunk.length ≤ backupBufferLenEncrypt)
    (hc : c <+: crypto.encryptChunk secrets position last chunk)
    (hlt : c.length < (crypto.encryptChunk secrets position last chunk).length)
    (hshort : c.length < backupBufferLenDecrypt) :
    crypto.decryptFrom secrets position c =
      if backupBufferLenDecrypt ∣ c.length then .ok [] else .error (.err .wrongPassword) := by
  rw [decryptFrom, if_neg (not_le.mpr hshort)]
  by_cases hnil : c = []
  · have hzero : backupBufferLenDecrypt ∣ c.length := by
      rw [hnil]
      exact Nat.dvd_zero _
    rw [if_pos hnil, if_pos hzero]
  · have hpos : 0 < c.length := List.length_pos_iff.mpr hnil
    rw [if_neg hnil, hcut _ _ _ _ _ hchunk hc hlt,
      if_neg fun hdvd => absurd (Nat.le_of_dvd hpos hdvd) (not_le.mpr hshort)]

/-- A cut in the first chunk leaves nothing that is decrypted. -/
theorem take_wholeChunks_of_lt (hshort : c.length < backupBufferLenDecrypt) :
    source.take (backupBufferLenEncrypt * (c.length / backupBufferLenDecrypt)) = [] := by
  rw [Nat.div_eq_of_lt hshort, Nat.mul_zero, List.take_zero]

/-- Every chunk is longer by the checksum. -/
theorem length_encryptFrom (hlaw : crypto.Lawful)
    (h : crypto.encryptFrom secrets position source = .ok ciphertext) :
    ciphertext.length = source.length + 16 * chunkCount source := by
  induction position, source using encryptFrom.induct crypto secrets generalizing ciphertext with
  | case1 source hfull =>
    rw [encryptFrom_eq_ok_iff, if_pos hfull] at h
    exact absurd rfl h.1
  | case2 position source hfull hposition ih =>
    rw [encryptFrom_eq_ok_iff, if_pos hfull] at h
    obtain ⟨-, rest, hrest, rfl⟩ := h
    have hdrop : (source.drop backupBufferLenEncrypt).length =
        source.length - backupBufferLenEncrypt := List.length_drop
    rw [List.length_append, hlaw.length_encryptChunk_take hfull, ih hrest]
    unfold chunkCount
    rw [hdrop]
    unfold backupBufferLenDecrypt backupBufferLenEncrypt at *
    omega
  | case3 position source hlast =>
    rw [encryptFrom_eq_ok_iff, if_neg hlast] at h
    rw [← h, hlaw.length_encryptChunk, chunkCount, Nat.div_eq_of_lt (not_le.mp hlast)]

/-- A file that was cut between two chunks is decrypted to the chunks that are
left, and one that was cut within a chunk is an error. -/
theorem decryptFrom_of_cut (hlaw : crypto.Lawful) (hcut : crypto.RejectsCut)
    (h : crypto.encryptFrom secrets position source = .ok ciphertext) (hc : c <+: ciphertext)
    (hlt : c.length < ciphertext.length) :
    crypto.decryptFrom secrets position c =
      if backupBufferLenDecrypt ∣ c.length then
        .ok (source.take (backupBufferLenEncrypt * (c.length / backupBufferLenDecrypt)))
      else .error (.err .wrongPassword) := by
  induction position, source using encryptFrom.induct crypto secrets generalizing ciphertext c with
  | case1 source hfull =>
    rw [encryptFrom_eq_ok_iff, if_pos hfull] at h
    exact absurd rfl h.1
  | case2 position source hfull hposition ih =>
    rw [encryptFrom_eq_ok_iff, if_pos hfull] at h
    obtain ⟨-, rest, hrest, rfl⟩ := h
    have hchunk : (crypto.encryptChunk secrets position false
        (source.take backupBufferLenEncrypt)).length = backupBufferLenDecrypt :=
      hlaw.length_encryptChunk_take hfull false
    by_cases hshort : c.length < backupBufferLenDecrypt
    · rw [take_wholeChunks_of_lt hshort]
      refine decryptFrom_of_part hcut (List.length_take_le ..) ?_ (hchunk ▸ hshort) hshort
      exact List.prefix_of_prefix_length_le hc (List.prefix_append ..) (hchunk ▸ hshort.le)
    · -- the first chunk is whole, and the cut is in the rest
      obtain ⟨c', rfl⟩ := List.prefix_of_prefix_length_le (List.prefix_append ..) hc
        (hchunk ▸ not_lt.mp hshort)
      rw [List.length_append, List.length_append] at hlt
      have hback := ih hrest ((List.prefix_append_right_inj _).mp hc)
        (Nat.lt_of_add_lt_add_left hlt)
      have hdvd_iff : backupBufferLenDecrypt ∣ backupBufferLenDecrypt + c'.length ↔
          backupBufferLenDecrypt ∣ c'.length := Nat.dvd_add_right (Nat.dvd_refl _)
      rw [decryptFrom_encryptChunk_append hlaw hfull hposition, hback, List.length_append, hchunk]
      by_cases hdvd : backupBufferLenDecrypt ∣ c'.length
      · rw [if_pos hdvd, if_pos (hdvd_iff.mpr hdvd), Nat.add_div_left _ (by decide), Nat.mul_succ,
          Nat.add_comm (backupBufferLenEncrypt * _), List.take_add]
        rfl
      · rw [if_neg hdvd, if_neg (mt hdvd_iff.mp hdvd)]
        rfl
  | case3 position source hlast =>
    rw [encryptFrom_eq_ok_iff, if_neg hlast] at h
    subst h
    have hchunk := hlaw.length_encryptChunk secrets position true source
    have hle : source.length ≤ backupBufferLenEncrypt := (not_le.mp hlast).le
    have hshort : c.length < backupBufferLenDecrypt := by
      unfold backupBufferLenDecrypt
      omega
    rw [take_wholeChunks_of_lt hshort]
    exact decryptFrom_of_part hcut hle hc hlt hshort

end BackupCrypto

/-- A file that was cut is decrypted chunk by chunk. -/
theorem decryptFile_of_cut (hlaw : tools.toBackupCrypto.Lawful)
    (hcut : tools.toBackupCrypto.RejectsCut)
    (hencrypt : encryptFile tools p q password salt nonce t = .ok () t')
    (hq : t' q = some (.file ciphertext)) (hc : c <+: ciphertext) (hne : c ≠ ciphertext)
    (hr : Writable t' r) (hqr : q ≠ r) :
    ∃ source, t p = some (.file source) ∧
      decryptFile tools q r password salt nonce (t'.put q (.file c)) =
        if backupBufferLenDecrypt ∣ c.length then
          .ok () ((t'.put q (.file c)).put r (.file
            (source.take (backupBufferLenEncrypt * (c.length / backupBufferLenDecrypt)))))
        else .error (.err .wrongPassword) ((t'.put q (.file c)).put r (.file [])) := by
  obtain ⟨secrets, source, encrypted, hsecrets, hsource, hencrypted, rfl, -⟩ :=
    encryptFile_eq_ok hencrypt
  have hpq : q ≠ p := by
    rintro rfl
    rw [remove_self] at hq
    cases hq
  have hsame := hq
  rw [remove_of_ne _ hpq, put_self] at hsame
  obtain rfl := FileEntry.file.inj (Option.some.inj hsame)
  have hlt : c.length < encrypted.length :=
    lt_of_le_of_ne hc.length_le fun heq => hne (hc.eq_of_length heq)
  have hne' : r.dropLast ≠ q := by
    intro heq
    have hdir := hr.2
    rw [heq, hq] at hdir
    cases hdir
  have hwritable : Writable (((t.put q (.file encrypted)).remove p).put q (.file c)) r := by
    rw [Writable, put_of_ne _ _ hqr.symm, put_of_ne _ _ hne']
    exact hr
  refine ⟨source, hsource, ?_⟩
  rw [decryptFile_of_file (put_self ..) hwritable hsecrets,
    BackupCrypto.decryptFrom_of_cut hlaw hcut hencrypted hc hlt]
  by_cases hdvd : backupBufferLenDecrypt ∣ c.length
  · rw [if_pos hdvd, if_pos hdvd]
  · rw [if_neg hdvd, if_neg hdvd]

/-! ### A cipher that tells its chunks -/

def chunkFlag (last : Bool) : UInt8 := if last then 1 else 0

/-- A chunk follows a mark of the last one, its position and its length. -/
def taggedCrypto : BackupCrypto where
  hashPassword := plainCrypto.hashPassword
  encryptChunk _ position last chunk :=
    chunkFlag last :: UInt8.ofNat position :: UInt8.ofNat chunk.length ::
      (chunk ++ List.replicate 13 0)
  decryptChunk _ position last
    | flag :: place :: size :: rest =>
      if flag = chunkFlag last ∧ place = UInt8.ofNat position ∧ 13 ≤ rest.length ∧
          size = UInt8.ofNat (rest.length - 13) then some (rest.take (rest.length - 13))
      else none
    | _ => none

theorem lawful_taggedCrypto : taggedCrypto.Lawful where
  length_encryptChunk _ _ _ chunk := by
    simp [taggedCrypto]
  decryptChunk_encryptChunk _ _ _ chunk := by
    simp [taggedCrypto]

theorem rejectsCut_taggedCrypto : taggedCrypto.RejectsCut := by
  intro secrets position last chunk c hchunk hc hlt
  rw [lawful_taggedCrypto.length_encryptChunk] at hlt
  obtain ⟨tail, htail⟩ := hc
  cases c with
  | nil => rfl
  | cons flag c =>
    cases c with
    | nil => rfl
    | cons place c =>
      cases c with
      | nil => rfl
      | cons size rest =>
        obtain ⟨-, htail⟩ := List.cons.inj htail
        obtain ⟨-, htail⟩ := List.cons.inj htail
        obtain ⟨rfl, -⟩ := List.cons.inj htail
        refine if_neg fun ⟨_, _, hrest, hsize⟩ => ?_
        -- the length that was written is that of the whole chunk
        have hmod := congrArg UInt8.toNat hsize
        rw [UInt8.toNat_ofNat', UInt8.toNat_ofNat'] at hmod
        simp only [List.length_cons] at hlt
        unfold backupBufferLenEncrypt at hchunk
        omega

noncomputable def taggedTools : BackupTools where
  toArchiver := plainArchiver
  toBackupCrypto := taggedCrypto
  cwd := []

/-- A disk with a file that is one byte longer than a chunk. -/
def cleartextDisk : NodeDisk := fun path =>
  if path = [] then some .dir
  else if path = [.text ['a']] then some (.file (List.replicate 240 7))
  else none

theorem cleartextDisk_a : cleartextDisk [.text ['a']] = some (.file (List.replicate 240 7)) := by
  simp [cleartextDisk]

theorem writable_cleartextDisk (name : OsName) : Writable cleartextDisk [name] := by
  refine ⟨?_, rfl⟩
  rw [cleartextDisk, if_neg (by simp)]
  split <;> simp

theorem chunkCount_cleartext : chunkCount (List.replicate 240 7) = 2 := by
  rw [chunkCount, List.length_replicate]
  rfl

theorem exists_secrets_taggedTools :
    ∃ secrets, taggedTools.getCypherSecrets "password" "salt" "a nonce of 19 bytes" =
      .ok secrets :=
  ⟨_, rfl⟩

/-- It is encrypted to two chunks. -/
theorem exists_encryptFile_cleartextDisk :
    ∃ ciphertext t₁,
      encryptFile taggedTools [.text ['a']] [.text ['b']] "password" "salt"
        "a nonce of 19 bytes" cleartextDisk = .ok () t₁ ∧
      t₁ [.text ['b']] = some (.file ciphertext) ∧ ciphertext.length = 272 ∧
      Writable t₁ [.text ['a']] := by
  obtain ⟨secrets, hsecrets⟩ := exists_secrets_taggedTools
  obtain ⟨ciphertext, hcipher, hencrypt⟩ := exists_encryptFile cleartextDisk_a
    (writable_cleartextDisk (.text ['b'])) hsecrets (by rw [chunkCount_cleartext]; decide)
  refine ⟨ciphertext, _, hencrypt, ?_, ?_, ?_⟩
  · rw [remove_of_ne _ (by decide), put_self]
  · rw [BackupCrypto.length_encryptFrom lawful_taggedCrypto hcipher, chunkCount_cleartext,
      List.length_replicate]
  · exact (writable_cleartextDisk _).of_encrypted (writable_cleartextDisk _) (by decide)
      cleartextDisk_a ciphertext

/-! ### Whole files and cut ones -/

/-- A file of any length is encrypted, and decrypted to what it was. -/
theorem decryptFile_encryptFile (hc : tools.toBackupCrypto.Lawful)
    (hsource : t p = some (.file source)) (hpq : p ≠ q) (hqr : q ≠ r) (hq : Writable t q)
    (hr : Writable t r) (hsecrets : tools.getCypherSecrets password salt nonce = .ok secrets)
    (hchunks : chunkCount source < 2 ^ 32) :
    ∃ t₁ t₂, encryptFile tools p q password salt nonce t = .ok () t₁ ∧
      decryptFile tools q r password salt nonce t₁ = .ok () t₂ ∧ t₂ r = some (.file source) := by
  obtain ⟨ciphertext, hcipher, hencrypt⟩ := exists_encryptFile hsource hq hsecrets hchunks
  refine ⟨_, ((t.put q (.file ciphertext)).remove p).put r (.file source), hencrypt, ?_,
    put_self ..⟩
  have hthere : ((t.put q (.file ciphertext)).remove p) q = some (.file ciphertext) := by
    rw [remove_of_ne _ hpq.symm, put_self]
  rw [decryptFile_of_file hthere (hr.of_encrypted hq hqr hsource ciphertext) hsecrets,
    BackupCrypto.decryptFrom_encryptFrom hc hcipher]

/-- A file of a chunk and a byte. -/
theorem decryptFile_encryptFile_cleartextDisk :
    ∃ t₁ t₂, encryptFile taggedTools [.text ['a']] [.text ['b']] "password" "salt"
        "a nonce of 19 bytes" cleartextDisk = .ok () t₁ ∧
      decryptFile taggedTools [.text ['b']] [.text ['a']] "password" "salt"
        "a nonce of 19 bytes" t₁ = .ok () t₂ ∧
      t₂ [.text ['a']] = some (.file (List.replicate 240 7)) := by
  obtain ⟨secrets, hsecrets⟩ := exists_secrets_taggedTools
  exact decryptFile_encryptFile lawful_taggedCrypto cleartextDisk_a (by decide) (by decide)
    (writable_cleartextDisk _) (writable_cleartextDisk _) hsecrets
    (by rw [chunkCount_cleartext]; decide)

/-- A file that was cut is rejected if and only if it was not cut between two chunks. -/
theorem decryptFile_cut_eq_error_iff (hlaw : tools.toBackupCrypto.Lawful)
    (hcut : tools.toBackupCrypto.RejectsCut)
    (hencrypt : encryptFile tools p q password salt nonce t = .ok () t')
    (hq : t' q = some (.file ciphertext)) (hc : c <+: ciphertext) (hne : c ≠ ciphertext)
    (hr : Writable t' r) (hqr : q ≠ r) :
    (∃ e t₂, decryptFile tools q r password salt nonce (t'.put q (.file c)) = .error e t₂) ↔
      ¬backupBufferLenDecrypt ∣ c.length := by
  obtain ⟨source, -, hdecrypt⟩ := decryptFile_of_cut hlaw hcut hencrypt hq hc hne hr hqr
  rw [hdecrypt]
  by_cases hdvd : backupBufferLenDecrypt ∣ c.length
  · rw [if_pos hdvd]
    exact ⟨fun ⟨_, _, h⟩ => (by cases h), fun h => absurd hdvd h⟩
  · rw [if_neg hdvd]
    exact ⟨fun _ => hdvd, fun _ => ⟨_, _, rfl⟩⟩

/-- Its ciphertext, cut in the second chunk. -/
theorem decryptFile_cut_cleartextDisk :
    ∃ (c : List UInt8) (t₁ : NodeDisk),
      ((∃ e t₂, decryptFile taggedTools [.text ['b']] [.text ['a']] "password" "salt"
        "a nonce of 19 bytes" (t₁.put [.text ['b']] (.file c)) = .error e t₂) ↔
      ¬backupBufferLenDecrypt ∣ c.length) ∧ c.length = 256 := by
  obtain ⟨ciphertext, t₁, hencrypt, hfile, hlength, hwritable⟩ := exists_encryptFile_cleartextDisk
  have hcut : (ciphertext.take 256).length = 256 := by
    rw [List.length_take, hlength]
    rfl
  refine ⟨ciphertext.take 256, t₁, ?_, hcut⟩
  refine decryptFile_cut_eq_error_iff lawful_taggedCrypto rejectsCut_taggedCrypto hencrypt hfile
    (List.take_prefix ..) (fun heq => ?_) hwritable (by decide)
  rw [heq, hlength] at hcut
  exact absurd hcut (by decide)

/-- Cut behind its first chunk, it is decrypted to less than was encrypted. -/
theorem accepts_cut :
    ¬∀ (tools : BackupTools) (p q r : List OsName) (password salt nonce : String) (t t' : NodeDisk)
      (ciphertext c : List UInt8), tools.toBackupCrypto.Lawful → tools.toBackupCrypto.RejectsCut →
      encryptFile tools p q password salt nonce t = .ok () t' → t' q = some (.file ciphertext) →
      c <+: ciphertext → c ≠ ciphertext → Writable t' r → q ≠ r →
      ∃ e t₂, decryptFile tools q r password salt nonce (t'.put q (.file c)) = .error e t₂ := by
  intro h
  obtain ⟨ciphertext, t₁, hencrypt, hfile, hlength, hwritable⟩ := exists_encryptFile_cleartextDisk
  have hcut : (ciphertext.take 255).length = 255 := by
    rw [List.length_take, hlength]
    rfl
  have hne : ciphertext.take 255 ≠ ciphertext := by
    intro heq
    rw [heq, hlength] at hcut
    exact absurd hcut (by decide)
  obtain ⟨source, -, hok⟩ := decryptFile_of_cut lawful_taggedCrypto rejectsCut_taggedCrypto
    hencrypt hfile (List.take_prefix ..) hne hwritable (by decide)
  obtain ⟨e, t₂, herror⟩ := h _ _ _ _ _ _ _ _ _ _ _ lawful_taggedCrypto rejectsCut_taggedCrypto
    hencrypt hfile (List.take_prefix ..) hne hwritable (by decide)
  rw [hcut, if_pos (by decide)] at hok
  rw [hok] at herror
  cases herror

end RgbLightningNode
