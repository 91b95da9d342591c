import RgbLightningNode.Lib.Simulation
import RgbLightningNode.Routes.ChangePassword

/-!
# A wallet under its password

What the mnemonic file is for: a node has no wallet, or one mnemonic under one
password, or a wallet that can no longer be opened. Setting up, restoring,
changing the password and opening do to the file what they do to such a wallet,
wherever a write is cut short.
-/

namespace RgbLightningNode

open Fallible

variable {M : Type}

/-- What is at the path of the mnemonic: nothing, or something, which may be no text. -/
abbrev MnemonicEntry := Option MnemonicFile

inductive WalletHalt where
  | alreadyInitialized
  | halt (e : Halt)
  deriving DecidableEq

def WalletHalt.exit (e : Exit APIError) : WalletHalt := .halt (.exit e)

def WalletHalt.err (e : APIError) : WalletHalt := .halt (.exit (.err e))

/-- Run a program on the mnemonic file. It never deletes one. -/
def onMnemonicFile {α : Type} (x : Fallible Halt MnemonicFile α) :
    Fallible WalletHalt MnemonicEntry α :=
  zoom Option.join (fun file entry => file.elim entry fun text => some (some text))
    (EStateM.adaptExcept .halt x)

def checkAlreadyInitialized (entry : MnemonicEntry) : Except WalletHalt Unit :=
  if entry.isSome then .error .alreadyInitialized else .ok ()

/-- What a backup file has for the path of the mnemonic: nothing, or so many bytes
of a mnemonic that this program has encrypted. -/
inductive BackedUp (M : Type) where
  | nothing
  | sealed (password : String) (mnemonic : M) (bytes : Nat)

section Handlers

variable (tools : MnemonicTools M) (mnemonicPath : String)

def sealedText (password : String) (mnemonic : M) : List Char :=
  tools.encryptStrToBase64 password (tools.toString mnemonic)

/-- What a restored backup leaves at the path. -/
def BackedUp.entry : BackedUp M → MnemonicEntry
  | nothing => none
  | sealed password mnemonic bytes =>
    some (some ((sealedText tools password mnemonic).take bytes))

/-- `locked` is what check_locked has found. -/
def initWallet (locked : Except APIError Unit) (outcome : WriteOutcome) (password : String)
    (generated : M) : Fallible WalletHalt MnemonicEntry M := do
  attempt (locked.mapError .err)
  attempt ((checkPasswordStrength password).mapError .exit)
  let entry ← get
  attempt (checkAlreadyInitialized entry)
  onMnemonicFile (encryptAndSaveMnemonic tools outcome password (tools.toString generated)
    mnemonicPath)
  return generated

/-- The answer of restore_backup, and what it leaves at the path, are given. -/
def restoreWallet (locked : Except APIError Unit) (password : String)
    (answer : Except (Exit APIError) Unit) (left : BackedUp M) :
    Fallible WalletHalt MnemonicEntry Unit := do
  attempt (locked.mapError .err)
  let entry ← get
  attempt (checkAlreadyInitialized entry)
  set (left.entry tools)
  attempt (answer.mapError .exit)
  let entry ← get
  let _ ← attempt ((checkPasswordValidity tools password entry.join).mapError .exit)

/-- The check that unlock and backup make first. -/
def openWallet (locked : Except APIError Unit) (password : String) :
    Fallible WalletHalt MnemonicEntry M := do
  attempt (locked.mapError .err)
  let entry ← get
  attempt ((checkPasswordValidity tools password entry.join).mapError .exit)

end Handlers

/-- A request about the wallet, with the answers of the file system. -/
inductive WalletRequest (M : Type) where
  | init (locked : Except APIError Unit) (outcome : WriteOutcome) (password : String)
      (generated : M)
  | restore (locked : Except APIError Unit) (password : String)
      (answer : Except (Exit APIError) Unit) (left : BackedUp M)
  | changePassword (locked : Except APIError Unit) (outcome : WriteOutcome)
      (oldPassword newPassword : String)
  | unlock (locked : Except APIError Unit) (password : String)

namespace MnemonicEntry

/-- Serve a request; the answer has the mnemonic where the request gets one. -/
def step (tools : MnemonicTools M) (mnemonicPath : String) (entry : MnemonicEntry) :
    WalletRequest M → Except WalletHalt (Option M) × MnemonicEntry
  | .init locked io password generated =>
    outcome (some <$> initWallet tools mnemonicPath locked io password generated) entry
  | .restore locked password answer left =>
    outcome (do restoreWallet tools locked password answer left; return none) entry
  | .changePassword locked io oldPassword newPassword =>
    outcome (do
      onMnemonicFile (changePassword tools locked io mnemonicPath oldPassword newPassword)
      return none) entry
  | .unlock locked password => outcome (some <$> openWallet tools locked password) entry

end MnemonicEntry

/-- What the handlers rely on of the cipher: no other password decrypts. -/
structure MnemonicTools.Authentic (tools : MnemonicTools M) : Prop extends
    tools.Lawful where
  wrong_password : ∀ password password' text, password' ≠ password →
    tools.decryptBase64ToString password' (tools.encryptStrToBase64 password text) = none

/-! ### The wallet -/

inductive Wallet (M : Type) where
  | empty
  | holds (password : String) (mnemonic : M)
  /-- No password opens it. -/
  | damaged

namespace Wallet

section Specification

variable (isPart : String → M → Nat → Bool) (mnemonicPath : String)

/-- Put a mnemonic under a password. What is left is damaged when only part of it
has been written. -/
def sealWith (io : WriteOutcome) (password : String) (mnemonic : M) :
    Fallible WalletHalt (Wallet M) Unit :=
  match io with
  | .complete => set (holds password mnemonic)
  | .fails none e => throw (.err (.failedKeysCreation mnemonicPath e))
  | .fails (some n) e =>
    if isPart password mnemonic n then do
      set (damaged : Wallet M)
      throw (.err (.failedKeysCreation mnemonicPath e))
    else set (holds password mnemonic)
  | .dies none => throw (.halt .died)
  | .dies (some n) => do
    set (if isPart password mnemonic n then damaged else holds password mnemonic)
    throw (.halt .died)

/-- Only its password opens a wallet. -/
def opened (password : String) : Wallet M → Except WalletHalt M
  | empty => .error (.err .notInitialized)
  | holds own mnemonic => if password = own then .ok mnemonic else .error (.err .wrongPassword)
  | damaged => .error (.err .wrongPassword)

def checkEmpty : Wallet M → Except WalletHalt Unit
  | empty => .ok ()
  | _ => .error .alreadyInitialized

def ofBackup : BackedUp M → Wallet M
  | .nothing => empty
  | .sealed password mnemonic bytes =>
    if isPart password mnemonic bytes then damaged else holds password mnemonic

def program : WalletRequest M → Fallible WalletHalt (Wallet M) (Option M)
  | .init locked io password generated => do
    attempt (locked.mapError .err)
    attempt ((checkPasswordStrength password).mapError .exit)
    let wallet ← get
    attempt wallet.checkEmpty
    sealWith isPart mnemonicPath io password generated
    return some generated
  | .restore locked password answer left => do
    attempt (locked.mapError .err)
    let wallet ← get
    attempt wallet.checkEmpty
    set (ofBackup isPart left)
    attempt (answer.mapError .exit)
    let wallet ← get
    let _ ← attempt (wallet.opened password)
    return none
  | .changePassword locked io oldPassword newPassword => do
    attempt (locked.mapError .err)
    attempt ((checkPasswordStrength newPassword).mapError .exit)
    let wallet ← get
    let mnemonic ← attempt (wallet.opened oldPassword)
    sealWith isPart mnemonicPath io newPassword mnemonic
    return none
  | .unlock locked password => do
    attempt (locked.mapError .err)
    let wallet ← get
    some <$> attempt (wallet.opened password)

def step (wallet : Wallet M) (x : WalletRequest M) :
    Except WalletHalt (Option M) × Wallet M :=
  outcome (program isPart mnemonicPath x) wallet

end Specification

/-! ### The file stands for the wallet -/

/-- So many bytes are not all of the encrypted mnemonic. -/
def isPartOf (tools : MnemonicTools M) (password : String) (mnemonic : M) (bytes : Nat) : Bool :=
  bytes < (sealedText tools password mnemonic).length

def Represents (tools : MnemonicTools M) : MnemonicEntry → Wallet M → Prop
  | none, empty => True
  | some (some text), holds password mnemonic => text = sealedText tools password mnemonic
  | some (some text), damaged => ∃ password mnemonic bytes,
      bytes < (sealedText tools password mnemonic).length ∧
        text = (sealedText tools password mnemonic).take bytes
  | _, _ => False

variable {tools : MnemonicTools M} {mnemonicPath : String} {entry : MnemonicEntry}
  {wallet : Wallet M}

/-- So much of an encrypted mnemonic. -/
theorem represents_take (password : String) (mnemonic : M) (bytes : Nat) :
    Represents tools (some (some ((sealedText tools password mnemonic).take bytes)))
      (if isPartOf tools password mnemonic bytes then damaged else holds password mnemonic) := by
  by_cases hpart : bytes < (sealedText tools password mnemonic).length
  · rw [if_pos (by simpa [isPartOf] using hpart)]
    exact ⟨password, mnemonic, bytes, hpart, rfl⟩
  · rw [if_neg (by simpa [isPartOf] using hpart)]
    exact List.take_of_length_le (not_lt.mp hpart)

theorem represents_ofBackup (left : BackedUp M) :
    Represents tools (left.entry tools) (ofBackup (isPartOf tools) left) := by
  cases left with
  | nothing => trivial
  | sealed password mnemonic bytes => exact represents_take password mnemonic bytes

theorem checkAlreadyInitialized_eq (h : Represents tools entry wallet) :
    checkAlreadyInitialized entry = wallet.checkEmpty := by
  rcases entry with _ | _ | text <;> cases wallet <;> first | exact h.elim | rfl

theorem checkPasswordValidity_eq (htools : tools.Authentic) (h : Represents tools entry wallet)
    (password : String) :
    (checkPasswordValidity tools password entry.join).mapError WalletHalt.exit =
      wallet.opened password := by
  rcases entry with _ | _ | text
  · cases wallet with
    | empty => rfl
    | holds own mnemonic => exact h.elim
    | damaged => exact h.elim
  · cases wallet <;> exact h.elim
  · cases wallet with
    | empty => exact h.elim
    | holds own mnemonic =>
      obtain rfl : text = sealedText tools own mnemonic := h
      by_cases hown : password = own
      · subst hown
        rw [opened, if_pos rfl]
        exact congrArg _ (checkPasswordValidity_encrypted htools.toLawful password mnemonic)
      · rw [opened, if_neg hown]
        have hwrong := htools.wrong_password own password (tools.toString mnemonic) hown
        change (checkPasswordValidity tools password
          (some (sealedText tools own mnemonic))).mapError WalletHalt.exit = _
        rw [checkPasswordValidity, sealedText, hwrong]
        rfl
    | damaged =>
      obtain ⟨own, mnemonic, bytes, hpart, rfl⟩ := h
      exact congrArg _ (checkPasswordValidity_take htools.toLawful own password _ hpart)

/-! ### Programs on the file -/

theorem onMnemonicFile_attempt_bind {α β : Type} (x : Except Halt α)
    (f : α → Fallible Halt MnemonicFile β) :
    onMnemonicFile (attempt x >>= f) =
      attempt (x.mapError WalletHalt.halt) >>= fun a => onMnemonicFile (f a) := by
  funext entry
  cases x with
  | ok a => rfl
  | error e => rcases entry with _ | _ | text <;> rfl

theorem onMnemonicFile_get_bind {β : Type} (f : MnemonicFile → Fallible Halt MnemonicFile β) :
    onMnemonicFile (get >>= f) = get >>= fun entry => onMnemonicFile (f entry.join) := rfl

/-- A write of the mnemonic puts the wallet under the password. -/
theorem simulates_sealWith (io : WriteOutcome) (password : String) (mnemonic : M) :
    Simulates (Represents tools)
      (onMnemonicFile (encryptAndSaveMnemonic tools io password (tools.toString mnemonic)
        mnemonicPath))
      (sealWith (isPartOf tools) mnemonicPath io password mnemonic) := by
  intro entry wallet h
  have htake : ∀ n, Represents tools (some (some ((sealedText tools password mnemonic).take n)))
      (if isPartOf tools password mnemonic n then damaged else holds password mnemonic) :=
    represents_take password mnemonic
  have hunchanged :
      Represents tools (entry.join.elim entry fun text => some (some text)) wallet := by
    rcases entry with _ | _ | text <;> exact h
  cases io with
  | complete => exact ⟨rfl, rfl⟩
  | fails written e =>
    cases written with
    | none => exact ⟨rfl, hunchanged⟩
    | some n =>
      have hn := htake n
      by_cases hpart : n < (sealedText tools password mnemonic).length
      · have hpart' : isPartOf tools password mnemonic n = true := by simpa [isPartOf] using hpart
        rw [if_pos hpart'] at hn
        rw [sealWith, if_pos hpart']
        rw [sealedText] at hpart
        simp [onMnemonicFile, zoom, EStateM.adaptExcept, encryptAndSaveMnemonic, writeMnemonicFile,
          hpart, Agree]
        exact ⟨rfl, hn⟩
      · have hpart' : isPartOf tools password mnemonic n ≠ true := by simpa [isPartOf] using hpart
        rw [if_neg hpart'] at hn
        rw [sealWith, if_neg hpart']
        rw [sealedText] at hpart
        simp [onMnemonicFile, zoom, EStateM.adaptExcept, encryptAndSaveMnemonic, writeMnemonicFile,
          hpart, Agree]
        exact hn
  | dies written =>
    cases written with
    | none => exact ⟨rfl, hunchanged⟩
    | some n => exact ⟨rfl, htake n⟩

/-! ### The requests -/

theorem mapError_mapError (x : Except APIError Unit) :
    (x.mapError fun e => Halt.exit (.err e)).mapError WalletHalt.halt = x.mapError .err := by
  cases x <;> rfl

theorem mapError_exit {α : Type} (x : Except (Exit APIError) α) :
    (x.mapError Halt.exit).mapError WalletHalt.halt = x.mapError .exit := by
  cases x <;> rfl

theorem simulates_initWallet (locked : Except APIError Unit) (io : WriteOutcome)
    (password : String) (generated : M) :
    Simulates (Represents tools)
      (some <$> initWallet tools mnemonicPath locked io password generated)
      (program (isPartOf tools) mnemonicPath (.init locked io password generated)) := by
  simp only [initWallet, program, map_bind, map_pure]
  refine .bind (.attempt _) fun _ => .bind (.attempt _) fun _ => .get_bind fun entry wallet h => ?_
  rw [checkAlreadyInitialized_eq h]
  exact Agree.bind (Simulates.attempt _ _ _ h) fun _ =>
    .bind (simulates_sealWith io password generated) fun _ => .pure _

theorem simulates_restoreWallet (htools : tools.Authentic) (locked : Except APIError Unit)
    (password : String) (answer : Except (Exit APIError) Unit) (left : BackedUp M) :
    Simulates (Represents tools) (do restoreWallet tools locked password answer left; return none)
      (program (isPartOf tools) mnemonicPath (.restore locked password answer left)) := by
  simp only [restoreWallet, program, bind_assoc]
  refine .bind (.attempt _) fun _ => .get_bind fun entry wallet h => ?_
  rw [checkAlreadyInitialized_eq h]
  refine Agree.bind (Simulates.attempt _ _ _ h) fun _ =>
    .bind (.set (represents_ofBackup left)) fun _ =>
    .bind (.attempt _) fun _ => .get_bind fun entry wallet h => ?_
  rw [checkPasswordValidity_eq htools h]
  exact Agree.bind (Simulates.attempt _ _ _ h) fun _ => .pure _

theorem simulates_changePassword (htools : tools.Authentic) (locked : Except APIError Unit)
    (io : WriteOutcome) (oldPassword newPassword : String) :
    Simulates (Represents tools)
      (do
        onMnemonicFile (changePassword tools locked io mnemonicPath oldPassword newPassword)
        return none)
      (program (isPartOf tools) mnemonicPath
        (.changePassword locked io oldPassword newPassword)) := by
  simp only [changePassword, program, onMnemonicFile_attempt_bind, onMnemonicFile_get_bind,
    mapError_mapError, mapError_exit, bind_assoc]
  refine .bind (.attempt _) fun _ => .bind (.attempt _) fun _ => .get_bind fun entry wallet h => ?_
  rw [checkPasswordValidity_eq htools h]
  exact Agree.bind (Simulates.attempt _ _ _ h) fun mnemonic =>
    .bind (simulates_sealWith io newPassword mnemonic) fun _ => .pure _

theorem simulates_openWallet (htools : tools.Authentic) (locked : Except APIError Unit)
    (password : String) :
    Simulates (Represents tools) (some <$> openWallet tools locked password)
      (program (isPartOf tools) mnemonicPath (.unlock locked password)) := by
  simp only [openWallet, program, map_bind]
  refine .bind (.attempt _) fun _ => .get_bind fun entry wallet h => ?_
  rw [checkPasswordValidity_eq htools h]
  exact Simulates.bind (.attempt _) (fun _ => .pure _) _ _ h

theorem step_simulates (htools : tools.Authentic) (mnemonicPath : String)
    (h : Represents tools entry wallet) (x : WalletRequest M) :
    (MnemonicEntry.step tools mnemonicPath entry x).1 =
        (wallet.step (isPartOf tools) mnemonicPath x).1 ∧
      Represents tools (MnemonicEntry.step tools mnemonicPath entry x).2
        (wallet.step (isPartOf tools) mnemonicPath x).2 := by
  cases x with
  | init locked io password generated =>
    exact (simulates_initWallet locked io password generated entry wallet h).outcome
  | restore locked password answer left =>
    exact (simulates_restoreWallet htools locked password answer left entry wallet h).outcome
  | changePassword locked io oldPassword newPassword =>
    exact (simulates_changePassword htools locked io oldPassword newPassword entry wallet h).outcome
  | unlock locked password =>
    exact (simulates_openWallet htools locked password entry wallet h).outcome

/-- Every run of requests on the mnemonic file, with every write cut anywhere, has
the answers that the wallet gives. -/
theorem run_eq_wallet (htools : tools.Authentic) (mnemonicPath : String)
    (xs : List (WalletRequest M)) (h : Represents tools entry wallet) :
    Mealy.outputs (MnemonicEntry.step tools mnemonicPath) entry xs =
        Mealy.outputs (step (isPartOf tools) mnemonicPath) wallet xs ∧
      Represents tools (Mealy.final (MnemonicEntry.step tools mnemonicPath) entry xs)
        (Mealy.final (step (isPartOf tools) mnemonicPath) wallet xs) :=
  Mealy.run_of_simulation (R := Represents tools) (C := fun _ => True) (fun _ _ x h _ =>
    step_simulates htools mnemonicPath h x) h fun _ _ => trivial

theorem authentic_listTools : listTools.Authentic where
  toLawful := lawful_listTools
  wrong_password password password' text h := by
    have hkey : password.toList ≠ password'.toList := fun heq => h (String.toList_inj.mp heq).symm
    simp [listTools, readListText_listText_append, hkey]

/-- A wallet is set up, its password is changed, and it is opened. -/
def firstDays : List (WalletRequest String) :=
  [.init (.ok ()) .complete "old password" "abandon",
    .changePassword (.ok ()) .complete "old password" "new password",
    .unlock (.ok ()) "new password"]

theorem run_eq_wallet_firstDays :
    Mealy.outputs (MnemonicEntry.step listTools "/mnemonic") none firstDays =
        Mealy.outputs (step (isPartOf listTools) "/mnemonic") empty firstDays ∧
      Represents listTools (Mealy.final (MnemonicEntry.step listTools "/mnemonic") none firstDays)
        (Mealy.final (step (isPartOf listTools) "/mnemonic") empty firstDays) :=
  run_eq_wallet authentic_listTools "/mnemonic" firstDays trivial

/-! ### One mnemonic for good -/

/-- The mnemonic is the only one that the wallet may ever give. -/
def Bound (mnemonic : M) : Wallet M → Prop
  | empty => False
  | holds _ own => own = mnemonic
  | damaged => True

theorem bound_sealWith {isPart : String → M → Nat → Bool} {io : WriteOutcome} {password : String}
    {mnemonic : M} (h : wallet.Bound mnemonic) :
    Bound mnemonic (after (sealWith isPart mnemonicPath io password mnemonic) wallet) := by
  have hpart : ∀ n, Bound mnemonic
      (if isPart password mnemonic n then damaged else holds password mnemonic) := by
    intro n
    split
    · trivial
    · rfl
  cases io with
  | complete => exact rfl
  | fails written e =>
    cases written with
    | none => exact h
    | some n =>
      have hn := hpart n
      rw [sealWith]
      split_ifs at hn ⊢ with hcut
      · exact hn
      · exact hn
  | dies written =>
    cases written with
    | none => exact h
    | some n => exact hpart n

theorem holds_of_sealWith {isPart : String → M → Nat → Bool} {io : WriteOutcome}
    {password : String} {mnemonic : M} {t : Wallet M} {u : Unit}
    (h : sealWith isPart mnemonicPath io password mnemonic wallet = .ok u t) :
    t = holds password mnemonic := by
  cases io with
  | complete => exact (EStateM.Result.ok.inj h).2.symm
  | fails written e =>
    cases written with
    | none => cases h
    | some n =>
      rw [sealWith] at h
      split_ifs at h
      · cases h
      · exact (EStateM.Result.ok.inj h).2.symm
  | dies written => cases written <;> cases h

theorem opened_of_bound {password : String} {mnemonic other : M} (h : wallet.Bound mnemonic)
    (hopened : wallet.opened password = .ok other) : other = mnemonic := by
  cases wallet with
  | empty => exact h.elim
  | damaged => cases hopened
  | holds own held =>
    rw [opened] at hopened
    split_ifs at hopened
    exact (Except.ok.inj hopened).symm.trans h

theorem bound_of_opened {password : String} {mnemonic : M}
    (hopened : wallet.opened password = .ok mnemonic) : wallet.Bound mnemonic := by
  cases wallet with
  | empty => cases hopened
  | damaged => cases hopened
  | holds own held =>
    rw [opened] at hopened
    split_ifs at hopened
    exact Except.ok.inj hopened

theorem checkEmpty_of_bound {mnemonic : M} (h : wallet.Bound mnemonic) :
    wallet.checkEmpty = .error .alreadyInitialized := by
  cases wallet with
  | empty => exact h.elim
  | damaged => rfl
  | holds own held => rfl

section OneMnemonic

variable {isPart : String → M → Nat → Bool} {x : WalletRequest M} {mnemonic other : M}

theorem bound_attempt_bind {α β : Type} {x : Except WalletHalt α}
    {f : α → Fallible WalletHalt (Wallet M) β} (h : wallet.Bound mnemonic)
    (hf : ∀ a, x = .ok a → Bound mnemonic (after (f a) wallet)) :
    Bound mnemonic (after (attempt x >>= f) wallet) := by
  obtain hstops | ⟨a, ha, hgoes⟩ := after_attempt_bind x f wallet
  · rw [hstops]
    exact h
  · rw [hgoes]
    exact hf a ha

/-- A wallet that is bound to a mnemonic stays so. -/
theorem bound_step (h : wallet.Bound mnemonic) :
    Bound mnemonic (wallet.step isPart mnemonicPath x).2 := by
  have hempty : ∀ u, wallet.checkEmpty = .ok u → False := fun u hu => by
    rw [checkEmpty_of_bound h] at hu
    cases hu
  rw [step, outcome_snd]
  cases x with
  | init locked io password generated =>
    refine bound_attempt_bind h fun _ _ => bound_attempt_bind h fun _ _ => ?_
    rw [after_bind_of_ok (get_apply wallet)]
    exact bound_attempt_bind h fun u hu => (hempty u hu).elim
  | restore locked password answer left =>
    refine bound_attempt_bind h fun _ _ => ?_
    rw [after_bind_of_ok (get_apply wallet)]
    exact bound_attempt_bind h fun u hu => (hempty u hu).elim
  | changePassword locked io oldPassword newPassword =>
    refine bound_attempt_bind h fun _ _ => bound_attempt_bind h fun _ _ => ?_
    rw [after_bind_of_ok (get_apply wallet)]
    refine bound_attempt_bind h fun own hopened => ?_
    obtain rfl := opened_of_bound h hopened
    change Bound own (after (_ >>= fun _ => attempt (.ok none)) wallet)
    rw [after_bind_attempt]
    exact bound_sealWith h
  | unlock locked password =>
    refine bound_attempt_bind h fun _ _ => ?_
    rw [after_bind_of_ok (get_apply wallet)]
    exact bound_attempt_bind h fun _ _ => h

/-- A request that is answered with a mnemonic has opened the wallet with it, or has
just put it there. -/
theorem answer_cases (h : (wallet.step isPart mnemonicPath x).1 = .ok (some mnemonic)) :
    (∃ locked password, x = .unlock locked password ∧ wallet.opened password = .ok mnemonic) ∨
      wallet.checkEmpty = .ok () ∧ ∃ locked io password, x = .init locked io password mnemonic ∧
        (wallet.step isPart mnemonicPath x).2 = holds password mnemonic := by
  obtain ⟨t, ht⟩ := outcome_fst_eq_ok_iff.mp h
  have hstate : (wallet.step isPart mnemonicPath x).2 = t := by
    rw [step, outcome_snd, after_of_ok ht]
  rw [hstate]
  cases x with
  | init locked io password generated =>
    obtain ⟨_, -, ht⟩ := attempt_bind_eq_ok_iff.mp ht
    obtain ⟨_, -, ht⟩ := attempt_bind_eq_ok_iff.mp ht
    rw [bind_of_ok (get_apply wallet)] at ht
    obtain ⟨_, hempty, ht⟩ := attempt_bind_eq_ok_iff.mp ht
    obtain ⟨_, u, hseal, ht⟩ := bind_eq_ok_iff.mp ht
    obtain ⟨hgenerated, rfl⟩ := EStateM.Result.ok.inj ht
    obtain rfl := Option.some.inj hgenerated
    exact .inr ⟨hempty, locked, io, password, rfl, holds_of_sealWith hseal⟩
  | restore locked password answer left =>
    obtain ⟨_, -, ht⟩ := attempt_bind_eq_ok_iff.mp ht
    rw [bind_of_ok (get_apply wallet)] at ht
    obtain ⟨_, -, ht⟩ := attempt_bind_eq_ok_iff.mp ht
    rw [bind_of_ok (set_apply wallet _)] at ht
    obtain ⟨_, -, ht⟩ := attempt_bind_eq_ok_iff.mp ht
    rw [bind_of_ok (get_apply _)] at ht
    obtain ⟨_, -, ht⟩ := attempt_bind_eq_ok_iff.mp ht
    cases (EStateM.Result.ok.inj ht).1
  | changePassword locked io oldPassword newPassword =>
    obtain ⟨_, -, ht⟩ := attempt_bind_eq_ok_iff.mp ht
    obtain ⟨_, -, ht⟩ := attempt_bind_eq_ok_iff.mp ht
    rw [bind_of_ok (get_apply wallet)] at ht
    obtain ⟨_, -, ht⟩ := attempt_bind_eq_ok_iff.mp ht
    obtain ⟨_, u, -, ht⟩ := bind_eq_ok_iff.mp ht
    cases (EStateM.Result.ok.inj ht).1
  | unlock locked password =>
    obtain ⟨_, -, ht⟩ := attempt_bind_eq_ok_iff.mp ht
    rw [bind_of_ok (get_apply wallet)] at ht
    obtain ⟨own, hown, hsome⟩ := map_eq_ok_iff.mp ht
    obtain ⟨hopened, -⟩ := attempt_eq_ok_iff.mp hown
    exact .inl ⟨locked, password, rfl, Option.some.inj hsome ▸ hopened⟩

/-- A request that gives a mnemonic binds the wallet to it. -/
theorem bound_of_answer (h : (wallet.step isPart mnemonicPath x).1 = .ok (some mnemonic)) :
    Bound mnemonic (wallet.step isPart mnemonicPath x).2 := by
  obtain ⟨locked, password, rfl, hopened⟩ | ⟨-, locked, io, password, rfl, hstate⟩ := answer_cases h
  · exact bound_step (bound_of_opened hopened)
  · rw [hstate]
    exact rfl

theorem eq_of_answer (h : wallet.Bound mnemonic)
    (hother : (wallet.step isPart mnemonicPath x).1 = .ok (some other)) : other = mnemonic := by
  obtain ⟨locked, password, rfl, hopened⟩ | ⟨hempty, -⟩ := answer_cases hother
  · exact opened_of_bound h hopened
  · rw [checkEmpty_of_bound h] at hempty
    cases hempty

end OneMnemonic

/-- The request is not answered with another mnemonic. -/
def GivesOnly (tools : MnemonicTools M) (mnemonicPath : String) (mnemonic : M)
    (entry : MnemonicEntry) (x : WalletRequest M) : Prop :=
  ∀ other, (MnemonicEntry.step tools mnemonicPath entry x).1 = .ok (some other) → other = mnemonic

/-- Whatever is requested, and wherever a write is cut: a mnemonic that was once
given is the only one that is ever given again. -/
theorem givesOnly_of_given (htools : tools.Authentic) (mnemonicPath : String)
    (h : Represents tools entry wallet) (first : WalletRequest M) {mnemonic : M}
    (hfirst : (MnemonicEntry.step tools mnemonicPath entry first).1 = .ok (some mnemonic))
    (xs : List (WalletRequest M)) :
    Mealy.Along (MnemonicEntry.step tools mnemonicPath)
      (GivesOnly tools mnemonicPath mnemonic)
      (MnemonicEntry.step tools mnemonicPath entry first).2 xs := by
  obtain ⟨hanswer, hnext⟩ := step_simulates htools mnemonicPath h first
  refine Mealy.along_of_invariant
    (I := fun entry => ∃ wallet, Represents tools entry wallet ∧ wallet.Bound mnemonic)
    (C := fun _ _ => True) ?_ ?_ ⟨_, hnext, bound_of_answer (hanswer.symm.trans hfirst)⟩
    (Mealy.along_of_forall (fun _ _ => trivial) _)
  · rintro entry x ⟨wallet, hrep, hbound⟩ -
    exact ⟨_, (step_simulates htools mnemonicPath hrep x).2, bound_step hbound⟩
  · rintro entry x ⟨wallet, hrep, hbound⟩ - other hother
    exact eq_of_answer hbound ((step_simulates htools mnemonicPath hrep x).1.symm.trans hother)

theorem givesOnly_firstDays :
    Mealy.Along (MnemonicEntry.step listTools "/mnemonic")
      (GivesOnly listTools "/mnemonic" "abandon")
      (MnemonicEntry.step listTools "/mnemonic" none
        (.init (.ok ()) .complete "old password" "abandon")).2 firstDays := by
  have hempty : Represents listTools none (empty : Wallet String) := trivial
  exact givesOnly_of_given authentic_listTools "/mnemonic" hempty _ (by decide +kernel) firstDays

end Wallet

end RgbLightningNode
