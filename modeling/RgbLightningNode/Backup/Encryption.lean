import RgbLightningNode.Lib.Fallible
import RgbLightningNode.Utils

/-!
# Encryption of a backup

The archive of the wallet is encrypted chunk by chunk, and the last chunk is
marked and always shorter than the others.
-/

namespace RgbLightningNode

open Fallible

def backupBufferLenEncrypt : Nat := 239
def backupBufferLenDecrypt : Nat := backupBufferLenEncrypt + 16
def backupKeyLength : Nat := 32
def backupNonceLength : Nat := 19

/-- The position at which a stream ends. -/
def streamCounterMax : Nat := 2 ^ 32 - 1

structure CypherSecrets where
  key : List UInt8
  nonce : List UInt8

/-- The password hash and the cipher, which come from elsewhere. A chunk is sealed at
its position and as the last one or not. -/
structure BackupCrypto where
  hashPassword : (password salt : String) → Except APIError (List UInt8)
  encryptChunk : CypherSecrets → (position : Nat) → (last : Bool) → List UInt8 → List UInt8
  decryptChunk : CypherSecrets → (position : Nat) → (last : Bool) → List UInt8 →
    Option (List UInt8)

/-- What is encrypted is longer by the checksum, and is decrypted to what it was. -/
structure BackupCrypto.Lawful (crypto : BackupCrypto) : Prop where
  length_encryptChunk : ∀ secrets position last chunk,
    (crypto.encryptChunk secrets position last chunk).length = chunk.length + 16
  decryptChunk_encryptChunk : ∀ secrets position last chunk,
    crypto.decryptChunk secrets position last (crypto.encryptChunk secrets position last chunk) =
      some chunk

namespace BackupCrypto

variable (crypto : BackupCrypto)

def getCypherSecrets (password saltStr nonceStr : String) :
    Except (Exit APIError) CypherSecrets := do
  let hash ← (crypto.hashPassword password saltStr).mapError .err
  let nonceBytes := utf8Bytes nonceStr
  if nonceBytes.length < backupNonceLength then
    .error (.panic none
      s!"range end index 19 out of range for slice of length {nonceBytes.length}")
  else .ok ⟨hash.take backupKeyLength, nonceBytes.take backupNonceLength⟩

/-- The loop of the encryption, from a position on. -/
def encryptFrom (secrets : CypherSecrets) (position : Nat) (source : List UInt8) :
    Except (Exit APIError) (List UInt8) :=
  if backupBufferLenEncrypt ≤ source.length then
    if position = streamCounterMax then
      .error (.err (.unexpected "Failed to encrypt next chunk: aead::Error"))
    else do
      let ciphertext := crypto.encryptChunk secrets position false
        (source.take backupBufferLenEncrypt)
      let rest ← encryptFrom secrets (position + 1) (source.drop backupBufferLenEncrypt)
      return ciphertext ++ rest
  else .ok (crypto.encryptChunk secrets position true source)
termination_by source.length
decreasing_by
  rename_i h _
  rw [List.length_drop]
  unfold backupBufferLenEncrypt at h ⊢
  omega

/-- The loop of the decryption, from a position on. -/
def decryptFrom (secrets : CypherSecrets) (position : Nat) (source : List UInt8) :
    Except (Exit APIError) (List UInt8) :=
  if backupBufferLenDecrypt ≤ source.length then
    if position = streamCounterMax then .error (.err .wrongPassword)
    else
      match crypto.decryptChunk secrets position false (source.take backupBufferLenDecrypt) with
      | some cleartext => do
        let rest ← decryptFrom secrets (position + 1) (source.drop backupBufferLenDecrypt)
        return cleartext ++ rest
      | none => .error (.err .wrongPassword)
  else if source = [] then .ok []
  else
    match crypto.decryptChunk secrets position true source with
    | some cleartext => .ok cleartext
    | none => .error (.err .wrongPassword)
termination_by source.length
decreasing_by
  rename_i h _
  rw [List.length_drop]
  unfold backupBufferLenDecrypt backupBufferLenEncrypt at h ⊢
  omega

/-- What cannot be decrypted is answered. -/
theorem failsOnly_decryptFrom (secrets : CypherSecrets) (position : Nat) (source : List UInt8) :
    FailsOnly Exit.answers (crypto.decryptFrom secrets position source) := by
  induction position, source using decryptFrom.induct crypto secrets with
  | case1 source hfull =>
    rw [decryptFrom, if_pos hfull, if_pos rfl]
    exact FailsOnly.error_iff.mpr trivial
  | case2 position source hfull hposition cleartext hchunk ih =>
    rw [decryptFrom, if_pos hfull, if_neg hposition, hchunk]
    exact FailsOnly.bind_iff.mpr ⟨ih, fun rest _ => .ok _⟩
  | case3 position source hfull hposition hchunk =>
    rw [decryptFrom, if_pos hfull, if_neg hposition, hchunk]
    exact FailsOnly.error_iff.mpr trivial
  | case4 position hfull =>
    rw [decryptFrom, if_neg hfull, if_pos rfl]
    exact .ok []
  | case5 position source hfull hne cleartext hchunk =>
    rw [decryptFrom, if_neg hfull, if_neg hne, hchunk]
    exact .ok cleartext
  | case6 position source hfull hne hchunk =>
    rw [decryptFrom, if_neg hfull, if_neg hne, hchunk]
    exact FailsOnly.error_iff.mpr trivial

variable {crypto}

variable {secrets : CypherSecrets} {position : Nat} {source ciphertext : List UInt8}

/-- The encryption is that of the first chunk followed by the rest, unless the first chunk
is the last one. -/
theorem encryptFrom_eq_ok_iff :
    crypto.encryptFrom secrets position source = .ok ciphertext ↔
      if backupBufferLenEncrypt ≤ source.length then
        position ≠ streamCounterMax ∧ ∃ rest,
          crypto.encryptFrom secrets (position + 1) (source.drop backupBufferLenEncrypt) =
            .ok rest ∧
          crypto.encryptChunk secrets position false (source.take backupBufferLenEncrypt) ++ rest =
            ciphertext
      else crypto.encryptChunk secrets position true source = ciphertext := by
  rw [encryptFrom]
  split
  · split
    · rename_i hlast
      exact ⟨fun h => absurd h (by simp), fun h => absurd hlast h.1⟩
    · rename_i hposition
      refine except_bind_eq_ok_iff.trans ⟨?_, ?_⟩
      · rintro ⟨rest, hrest, hcipher⟩
        exact ⟨hposition, rest, hrest, Except.ok.inj hcipher⟩
      · rintro ⟨-, rest, hrest, hcipher⟩
        exact ⟨rest, hrest, congrArg Except.ok hcipher⟩
  · rw [Except.ok.injEq]

/-- All chunks but the last one are of one length. -/
theorem Lawful.length_encryptChunk_take (hc : crypto.Lawful)
    (hfull : backupBufferLenEncrypt ≤ source.length) (last : Bool) :
    (crypto.encryptChunk secrets position last (source.take backupBufferLenEncrypt)).length =
      backupBufferLenDecrypt := by
  rw [hc.length_encryptChunk, List.length_take, Nat.min_eq_left hfull]
  rfl

/-- A whole chunk is decrypted before the chunks that follow it. -/
theorem decryptFrom_encryptChunk_append (hc : crypto.Lawful)
    (hfull : backupBufferLenEncrypt ≤ source.length) (hposition : position ≠ streamCounterMax)
    (rest : List UInt8) :
    crypto.decryptFrom secrets position
        (crypto.encryptChunk secrets position false (source.take backupBufferLenEncrypt) ++ rest) =
      (crypto.decryptFrom secrets (position + 1) rest).map
        (source.take backupBufferLenEncrypt ++ ·) := by
  have hchunk : (crypto.encryptChunk secrets position false
      (source.take backupBufferLenEncrypt)).length = backupBufferLenDecrypt :=
    hc.length_encryptChunk_take hfull false
  have hwhole : backupBufferLenDecrypt ≤ (crypto.encryptChunk secrets position false
      (source.take backupBufferLenEncrypt) ++ rest).length := by
    rw [List.length_append, hchunk]
    exact Nat.le_add_right ..
  rw [decryptFrom, if_pos hwhole, if_neg hposition, List.take_left' hchunk,
    hc.decryptChunk_encryptChunk, List.drop_left' hchunk]
  cases crypto.decryptFrom secrets (position + 1) rest <;> rfl

/-- What has been encrypted is decrypted to what it was. -/
theorem decryptFrom_encryptFrom (hc : crypto.Lawful)
    (h : crypto.encryptFrom secrets position source = .ok ciphertext) :
    crypto.decryptFrom secrets position ciphertext = .ok source := by
  induction position, source using encryptFrom.induct crypto secrets generalizing ciphertext with
  | case1 source hfull =>
    rw [encryptFrom_eq_ok_iff, if_pos hfull] at h
    exact absurd rfl h.1
  | case2 position source hfull hposition ih =>
    rw [encryptFrom_eq_ok_iff, if_pos hfull] at h
    obtain ⟨-, rest, hrest, rfl⟩ := h
    rw [decryptFrom_encryptChunk_append hc hfull hposition, ih hrest]
    exact congrArg Except.ok (List.take_append_drop ..)
  | case3 position source hlast =>
    rw [encryptFrom_eq_ok_iff, if_neg hlast] at h
    subst h
    have hchunk := hc.length_encryptChunk secrets position true source
    have hshort : ¬backupBufferLenDecrypt ≤
        (crypto.encryptChunk secrets position true source).length := by
      rw [hchunk]
      unfold backupBufferLenDecrypt
      omega
    have hne : crypto.encryptChunk secrets position true source ≠ [] := by
      rw [← List.length_pos_iff, hchunk]
      omega
    rw [decryptFrom, if_neg hshort, if_neg hne, hc.decryptChunk_encryptChunk]

end BackupCrypto

end RgbLightningNode
