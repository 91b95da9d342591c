import RgbLightningNode.Lib.Fallible
import RgbLightningNode.Types

/-!
# Changing the password

The mnemonic is on the disk once, encrypted with the password. A change of the
password reads it and writes it again to the same file, and a write may be cut
short by an error or by the end of the process.
-/

namespace RgbLightningNode

open Fallible

variable {M : Type}

/-- The cipher and the text form of a mnemonic, which come from elsewhere. -/
structure MnemonicTools (M : Type) where
  encryptStrToBase64 : (password text : String) → List Char
  decryptBase64ToString : (password : String) → List Char → Option String
  toString : M → String
  fromStr : String → Option M

/-- What was encrypted is decrypted to what it was, and a part of it to nothing. -/
structure MnemonicTools.Lawful (tools : MnemonicTools M) : Prop where
  decrypt_encrypt : ∀ password text,
    tools.decryptBase64ToString password (tools.encryptStrToBase64 password text) = some text
  decrypt_take : ∀ password password' text n,
    n < (tools.encryptStrToBase64 password text).length →
      tools.decryptBase64ToString password'
        ((tools.encryptStrToBase64 password text).take n) = none
  fromStr_toString : ∀ mnemonic, tools.fromStr (tools.toString mnemonic) = some mnemonic

/-- The mnemonic file: its text, when it can be read. -/
abbrev MnemonicFile := Option (List Char)

/-- How a handler stops early, or is stopped. -/
inductive Halt where
  | exit (e : Exit APIError)
  /-- The process has died. -/
  | died
  deriving DecidableEq

/-- How far a write gets: nowhere, when the file cannot be opened, or so many
bytes far in the file that has been emptied. -/
inductive WriteOutcome where
  | complete
  | fails (written : Option Nat) (e : String)
  | dies (written : Option Nat)

/-- Only some of the bytes are in the file. -/
def WriteOutcome.cuts (content : List Char) : WriteOutcome → Prop
  | .fails (some n) _ | .dies (some n) => n < content.length
  | _ => False

def writeMnemonicFile (content : List Char) : WriteOutcome →
    Fallible Halt MnemonicFile (Except String Unit)
  | .complete => do
    set (some content)
    return .ok ()
  | .fails none e => return .error e
  | .fails (some n) e => do
    set (some (content.take n))
    -- when all is written there is no error
    if n < content.length then return .error e else return .ok ()
  | .dies none => throw .died
  | .dies (some n) => do
    set (some (content.take n))
    throw .died

def passwordMinLength : Nat := 8

def checkPasswordStrength (password : String) : Except (Exit APIError) Unit :=
  if password.utf8ByteSize < passwordMinLength then
    .error (.err (.invalidPassword s!"must have at least {passwordMinLength} chars"))
  else .ok ()

section Programs

variable (tools : MnemonicTools M)

def checkPasswordValidity (password : String) : MnemonicFile → Except (Exit APIError) M
  | some encryptedMnemonic =>
    match tools.decryptBase64ToString password encryptedMnemonic with
    | some mnemonicStr =>
      match tools.fromStr mnemonicStr with
      | some mnemonic => .ok mnemonic
      | none => .error (.panic none "valid mnemonic")
    | none => .error (.err .wrongPassword)
  | none => .error (.err .notInitialized)

def encryptAndSaveMnemonic (outcome : WriteOutcome) (password mnemonic mnemonicPath : String) :
    Fallible Halt MnemonicFile Unit := do
  let encryptedMnemonic := tools.encryptStrToBase64 password mnemonic
  match ← writeMnemonicFile encryptedMnemonic outcome with
  | .ok () => pure ()
  | .error e => throw (.exit (.err (.failedKeysCreation mnemonicPath e)))

/-- `locked` is what check_locked has found; the guard is kept to the end. -/
def changePassword (locked : Except APIError Unit) (outcome : WriteOutcome) (mnemonicPath : String)
    (oldPassword newPassword : String) : Fallible Halt MnemonicFile Unit := do
  attempt (locked.mapError fun e => .exit (.err e))
  attempt ((checkPasswordStrength newPassword).mapError .exit)
  let file ← get
  let mnemonic ← attempt ((checkPasswordValidity tools oldPassword file).mapError .exit)
  encryptAndSaveMnemonic tools outcome newPassword (tools.toString mnemonic) mnemonicPath

end Programs

/-! ### What is left in the file -/

/-- After the change one of the passwords gives the mnemonic that the old one
gave, and after one that is answered with an error the old one does. -/
structure KeepsMnemonic (tools : MnemonicTools M) (oldPassword newPassword : String)
    (change : Fallible Halt MnemonicFile Unit) (file : MnemonicFile) : Prop where
  accepted : ∀ mnemonic, checkPasswordValidity tools oldPassword file = .ok mnemonic →
    checkPasswordValidity tools oldPassword (after change file) = .ok mnemonic ∨
      checkPasswordValidity tools newPassword (after change file) = .ok mnemonic
  refused : ∀ mnemonic, checkPasswordValidity tools oldPassword file = .ok mnemonic →
    (∃ e, (outcome change file).1 = .error (.exit e)) →
      checkPasswordValidity tools oldPassword (after change file) = .ok mnemonic
  wrong : (∀ mnemonic, checkPasswordValidity tools oldPassword file ≠ .ok mnemonic) →
    after change file = file

section Change

variable {tools : MnemonicTools M} {locked : Except APIError Unit} {io : WriteOutcome}
  {mnemonicPath oldPassword newPassword : String} {file : MnemonicFile} {mnemonic : M}
  {content : List Char}

/-- A change gets to the write when the node is locked, the new password is
strong, and the old one gives a mnemonic. -/
structure GetsToWrite (tools : MnemonicTools M) (locked : Except APIError Unit)
    (oldPassword newPassword : String) (file : MnemonicFile) (mnemonic : M) : Prop where
  locked : locked = .ok ()
  strong : passwordMinLength ≤ newPassword.utf8ByteSize
  accepted : checkPasswordValidity tools oldPassword file = .ok mnemonic

theorem checkPasswordValidity_encrypted (h : tools.Lawful) (password : String) (mnemonic : M) :
    checkPasswordValidity tools password
      (some (tools.encryptStrToBase64 password (tools.toString mnemonic))) = .ok mnemonic := by
  rw [checkPasswordValidity, h.decrypt_encrypt]
  dsimp only
  rw [h.fromStr_toString]

/-- What was cut is accepted with no password. -/
theorem checkPasswordValidity_take (h : tools.Lawful) (password password' text : String) {n : Nat}
    (hn : n < (tools.encryptStrToBase64 password text).length) :
    checkPasswordValidity tools password'
      (some ((tools.encryptStrToBase64 password text).take n)) = .error (.err .wrongPassword) := by
  rw [checkPasswordValidity, h.decrypt_take _ _ _ _ hn]

/-- Nothing is lost where nothing is written. -/
theorem KeepsMnemonic.of_unchanged {change : Fallible Halt MnemonicFile Unit}
    (h : after change file = file) : KeepsMnemonic tools oldPassword newPassword change file where
  accepted mnemonic hold := .inl (by rw [h]; exact hold)
  refused mnemonic hold _ := by
    rw [h]
    exact hold
  wrong _ := h

/-- A change that writes is the writing of the mnemonic. -/
theorem changePassword_of_writes (io : WriteOutcome) (mnemonicPath : String)
    (h : GetsToWrite tools locked oldPassword newPassword file mnemonic) :
    changePassword tools locked io mnemonicPath oldPassword newPassword file =
      encryptAndSaveMnemonic tools io newPassword (tools.toString mnemonic) mnemonicPath file := by
  have hstrong : checkPasswordStrength newPassword = .ok () := if_neg (not_lt.mpr h.strong)
  rw [changePassword, h.locked, bind_of_ok (attempt_mapError_ok _ _ file), hstrong,
    bind_of_ok (attempt_mapError_ok _ _ file), bind_of_ok (get_apply file), h.accepted,
    bind_of_ok (attempt_mapError_ok _ _ file)]

/-- One that does not is refused. -/
theorem changePassword_of_not_writes (io : WriteOutcome) (mnemonicPath : String)
    (h : ∀ mnemonic, ¬GetsToWrite tools locked oldPassword newPassword file mnemonic) :
    ∃ e, changePassword tools locked io mnemonicPath oldPassword newPassword file =
      .error (.exit e) file := by
  rw [changePassword]
  cases locked with
  | error e => exact ⟨_, bind_of_error (attempt_mapError_error _ _ file)⟩
  | ok _ =>
    rw [bind_of_ok (attempt_mapError_ok _ _ file), checkPasswordStrength]
    split_ifs with hweak
    · exact ⟨_, bind_of_error (attempt_mapError_error _ _ file)⟩
    · rw [bind_of_ok (attempt_mapError_ok _ _ file), bind_of_ok (get_apply file)]
      cases hcheck : checkPasswordValidity tools oldPassword file with
      | error e => exact ⟨_, bind_of_error (attempt_mapError_error _ _ file)⟩
      | ok mnemonic => exact (h mnemonic ⟨rfl, not_lt.mp hweak, hcheck⟩).elim

/-- A write that is cut leaves a part of the new text. -/
theorem after_encryptAndSaveMnemonic_of_cuts (mnemonicPath : String) (file : MnemonicFile)
    {text : String} (hcut : io.cuts (tools.encryptStrToBase64 newPassword text)) :
    ∃ n < (tools.encryptStrToBase64 newPassword text).length,
      after (encryptAndSaveMnemonic tools io newPassword text mnemonicPath) file =
        some ((tools.encryptStrToBase64 newPassword text).take n) := by
  cases io with
  | complete => exact hcut.elim
  | fails written e =>
    cases written with
    | none => exact hcut.elim
    | some n =>
      have hlt : n < (tools.encryptStrToBase64 newPassword text).length := hcut
      refine ⟨n, hlt, ?_⟩
      simp [encryptAndSaveMnemonic, writeMnemonicFile, hlt, after, bind_apply]
  | dies written =>
    cases written with
    | none => exact hcut.elim
    | some n => exact ⟨n, hcut, rfl⟩

/-- A write that is not cut leaves the new text or the old one, which it leaves
when it is answered with an error. -/
theorem encryptAndSaveMnemonic_of_not_cuts (mnemonicPath : String) (file : MnemonicFile)
    {text : String} (hcut : ¬io.cuts (tools.encryptStrToBase64 newPassword text)) :
    after (encryptAndSaveMnemonic tools io newPassword text mnemonicPath) file = file ∨
      after (encryptAndSaveMnemonic tools io newPassword text mnemonicPath) file =
          some (tools.encryptStrToBase64 newPassword text) ∧
        ∀ e, (outcome (encryptAndSaveMnemonic tools io newPassword text mnemonicPath) file).1 ≠
          .error (.exit e) := by
  cases io with
  | complete => exact .inr ⟨rfl, fun e h => by cases h⟩
  | fails written e =>
    cases written with
    | none => exact .inl rfl
    | some n =>
      have hle : ¬n < (tools.encryptStrToBase64 newPassword text).length := hcut
      refine .inr ⟨?_, fun e => ?_⟩
      · simp [encryptAndSaveMnemonic, writeMnemonicFile, hle, after,
          List.take_of_length_le (not_lt.mp hle)]
      · simp [encryptAndSaveMnemonic, writeMnemonicFile, hle, outcome]
  | dies written =>
    cases written with
    | none => exact .inl rfl
    | some n =>
      have hle : ¬n < (tools.encryptStrToBase64 newPassword text).length := hcut
      refine .inr ⟨?_, fun e h => by cases h⟩
      exact congrArg some (List.take_of_length_le (not_lt.mp hle))

end Change

/-! ### A cipher that tells its end -/

def listText : List Char → List Char
  | [] => ['b']
  | c :: s => 'a' :: c :: listText s

/-- The text that was listed, and what follows it. -/
def readListText : List Char → Option (List Char × List Char)
  | 'a' :: c :: s => (readListText s).map fun read => (c :: read.1, read.2)
  | 'b' :: s => some ([], s)
  | _ => none

theorem readListText_listText_append (s rest : List Char) :
    readListText (listText s ++ rest) = some (s, rest) := by
  induction s with
  | nil => rfl
  | cons c s ih =>
    rw [listText, List.cons_append, List.cons_append, readListText, ih]
    rfl

theorem readListText_take (s : List Char) {n : Nat} (h : n < (listText s).length) :
    readListText ((listText s).take n) = none := by
  induction s generalizing n with
  | nil =>
    obtain rfl : n = 0 := Nat.lt_one_iff.mp h
    rfl
  | cons c s ih =>
    rw [listText] at h ⊢
    cases n with
    | zero => rfl
    | succ n =>
      cases n with
      | zero => rfl
      | succ n =>
        have hlt : n < (listText s).length := by simpa using h
        rw [List.take_succ_cons, List.take_succ_cons, readListText, ih hlt]
        rfl

/-- The text stands behind the password. -/
def listTools : MnemonicTools String where
  encryptStrToBase64 password text := listText password.toList ++ listText text.toList
  decryptBase64ToString password s := do
    let (key, rest) ← readListText s
    if key = password.toList then
      let (text, behind) ← readListText rest
      if behind = [] then some (String.ofList text) else none
    else none
  toString := id
  fromStr := some

theorem lawful_listTools : listTools.Lawful where
  decrypt_encrypt password text := by
    have hread := readListText_listText_append text.toList []
    rw [List.append_nil] at hread
    simp [listTools, readListText_listText_append, hread]
  decrypt_take password password' text n hn := by
    simp only [listTools] at hn ⊢
    rw [List.length_append] at hn
    by_cases hkey : n < (listText password.toList).length
    · rw [List.take_append_of_le_length hkey.le, readListText_take _ hkey]
      rfl
    · have hrest : n - (listText password.toList).length < (listText text.toList).length := by
        omega
      rw [List.take_append, List.take_of_length_le (not_lt.mp hkey),
        readListText_listText_append]
      simp [readListText_take _ hrest]
  fromStr_toString _ := rfl

/-! ### When the mnemonic is kept -/

section Kept

variable {tools : MnemonicTools M} {locked : Except APIError Unit} {io : WriteOutcome}
  {mnemonicPath oldPassword newPassword : String} {file : MnemonicFile}

/-- The mnemonic is kept if and only if no write of it is cut. -/
theorem keepsMnemonic_iff (h : tools.Lawful) :
    KeepsMnemonic tools oldPassword newPassword
        (changePassword tools locked io mnemonicPath oldPassword newPassword) file ↔
      ∀ mnemonic, GetsToWrite tools locked oldPassword newPassword file mnemonic →
        ¬io.cuts (tools.encryptStrToBase64 newPassword (tools.toString mnemonic)) := by
  constructor
  · intro hkeeps mnemonic hwrites hcut
    obtain ⟨n, hn, hfile⟩ := after_encryptAndSaveMnemonic_of_cuts mnemonicPath file hcut
    have haccepted := hkeeps.accepted mnemonic hwrites.accepted
    rw [after, changePassword_of_writes _ _ hwrites, ← after, hfile] at haccepted
    rw [checkPasswordValidity_take h _ _ _ hn, checkPasswordValidity_take h _ _ _ hn] at haccepted
    obtain haccepted | haccepted := haccepted <;> cases haccepted
  · intro hcut
    by_cases hwrites : ∃ mnemonic, GetsToWrite tools locked oldPassword newPassword file mnemonic
    · obtain ⟨mnemonic, hwrites⟩ := hwrites
      have hsaves := encryptAndSaveMnemonic_of_not_cuts mnemonicPath file (hcut mnemonic hwrites)
      have hchange := changePassword_of_writes io mnemonicPath hwrites
      rw [after, outcome, ← hchange, ← after, ← outcome] at hsaves
      obtain hsame | ⟨hnew, hanswer⟩ := hsaves
      · exact .of_unchanged hsame
      · refine ⟨fun other hother => .inr ?_, fun other _ hfailed => ?_,
          fun hwrong => (hwrong mnemonic hwrites.accepted).elim⟩
        · obtain rfl := Except.ok.inj (hother.symm.trans hwrites.accepted)
          rw [hnew, checkPasswordValidity_encrypted h]
        · obtain ⟨e, he⟩ := hfailed
          exact (hanswer e he).elim
    · obtain ⟨e, hchange⟩ := changePassword_of_not_writes io mnemonicPath (not_exists.mp hwrites)
      refine .of_unchanged ?_
      rw [after, hchange]

/-- A change that is not interrupted. -/
theorem keepsMnemonic_of_complete :
    KeepsMnemonic listTools "old password" "new password"
        (changePassword listTools (.ok ()) .complete "/mnemonic" "old password" "new password")
        (some (listTools.encryptStrToBase64 "old password" "abandon")) ↔
      ∀ mnemonic, GetsToWrite listTools (.ok ()) "old password" "new password"
          (some (listTools.encryptStrToBase64 "old password" "abandon")) mnemonic →
        ¬WriteOutcome.complete.cuts
          (listTools.encryptStrToBase64 "new password" (listTools.toString mnemonic)) :=
  keepsMnemonic_iff lawful_listTools

/-- The process dies when the file has been emptied. -/
theorem mnemonic_lost :
    ¬∀ (io : WriteOutcome) (oldPassword newPassword mnemonicPath : String) (file : MnemonicFile),
      KeepsMnemonic listTools oldPassword newPassword
        (changePassword listTools (.ok ()) io mnemonicPath oldPassword newPassword) file := by
  intro h
  have hkeeps := h (.dies (some 0)) "old password" "new password" "/mnemonic"
    (some (listTools.encryptStrToBase64 "old password" "abandon"))
  have hold := checkPasswordValidity_encrypted lawful_listTools "old password" "abandon"
  obtain haccepted | haccepted := hkeeps.accepted "abandon" hold
  · cases haccepted
  · cases haccepted

end Kept

end RgbLightningNode
