import RgbLightningNode.Backup.Encryption
import RgbLightningNode.Backup.Extraction
import RgbLightningNode.Utils

/-!
# Backup and restore

A backup is an archive of the wallet directory, encrypted, in another archive with
what is needed to decrypt it. Both are made in a temporary directory beside the
backup file.
-/

namespace RgbLightningNode

open Fallible FileTree

def backupVersion : Nat := 1

/-! ### Paths as texts -/

def pathStep : List Char → PathStep OsName
  | [] => .here
  | ['.'] => .here
  | ['.', '.'] => .up
  | name => .into (.text name)

def pathSteps (path : List Char) : List (PathStep OsName) :=
  (Text.splitOn '/' path).map pathStep

/-- Where a path begins. -/
def pathBase (cwd : List OsName) : List Char → List OsName
  | '/' :: _ => []
  | _ => cwd

def pathExists (t : NodeDisk) (cwd : List OsName) (path : List Char) : Bool :=
  path ≠ [] &&
    match t.follow (pathBase cwd path) (pathSteps path) with
    | some p => (t p).isSome
    | none => false

/-- The steps to the directory a path lies in. -/
def getParentPath (path : List Char) : Option (List (PathStep OsName)) :=
  match (pathSteps path).reverse.dropWhile (· = .here) with
  | _ :: steps => some steps.reverse
  | [] =>
    match path with
    | [] => none
    | '/' :: _ => none
    | _ => some []

/-- Where a new file is to be. -/
def newFile (t : NodeDisk) (cwd : List OsName) (path : List Char) :
    Except (Exit APIError) (List OsName) :=
  match (pathSteps path).getLast? with
  | some (.into _) =>
    match t.follow (pathBase cwd path) (pathSteps path) with
    | some p => .ok p
    | none => .error (.err noSuchFile)
  | _ => .error (.err isADirectory)

/-! ### The temporary directory -/

def backupEnc : OsName := .text "backup.enc".toList
def backupNonce : OsName := .text "backup.nonce".toList
def backupSalt : OsName := .text "backup.salt".toList
def backupVersionFile : OsName := .text "backup.version".toList
def backupZip : OsName := .text "backup.zip".toList

/-- Run a program and remove a directory, with or without an error. -/
def removing {α : Type} (tempdir : List OsName) (x : Fallible (Exit APIError) NodeDisk α) :
    Fallible (Exit APIError) NodeDisk α := fun t =>
  match x t with
  | .ok a t' => .ok a (t'.removeAll tempdir)
  | .error e t' => .error e (t'.removeAll tempdir)

/-- Run a program with a temporary directory beside a file. -/
def inTempDir {α : Type} (cwd : List OsName) (file tempName : List Char)
    (body : List OsName → Fallible (Exit APIError) NodeDisk α) :
    Fallible (Exit APIError) NodeDisk α := do
  let tmpBasePath ← expect (getParentPath file) (.err (.unexpected "Failed to get parent path"))
  let dir ← createDirAll fileInWay (pathBase cwd file) tmpBasePath
  let tempdir := dir ++ [.text tempName]
  let t ← get
  ensure (t tempdir).isNone (.err fileExists)
  modify fun t => t.put tempdir .dir
  removing tempdir (body tempdir)

/-! ### Backup and restore -/

/-- What a backup takes from elsewhere. -/
structure BackupTools extends Archiver, BackupCrypto where
  cwd : List OsName

structure BackupTools.Lawful (tools : BackupTools) : Prop where
  archiver : tools.toArchiver.Lawful
  crypto : tools.toBackupCrypto.Lawful

/-- What is drawn at random. The name of a temporary directory begins in one way. -/
structure BackupDraws where
  tempName : List Char
  tempName_begins : ".tmp".toList <+: tempName
  salt : String
  nonce : String

section Programs

variable (tools : BackupTools)

def encryptFile (pathCleartext pathEncrypted : List OsName) (password saltStr nonceStr : String) :
    Fallible (Exit APIError) NodeDisk Unit := do
  let cypherSecrets ← attempt (tools.getCypherSecrets password saltStr nonceStr)
  let source ← readFile pathCleartext
  writeFile pathEncrypted fun _ => tools.encryptFrom cypherSecrets 0 source
  -- remove cleartext source file
  modify fun t => t.remove pathCleartext

def decryptFile (pathEncrypted pathCleartext : List OsName) (password saltStr nonceStr : String) :
    Fallible (Exit APIError) NodeDisk Unit := do
  let cypherSecrets ← attempt (tools.getCypherSecrets password saltStr nonceStr)
  let source ← readFile pathEncrypted
  writeFile pathCleartext fun _ => tools.decryptFrom cypherSecrets 0 source

/-- What a backup does in its temporary directory. -/
def backupIn (draws : BackupDraws) (walletDir : List OsName) (backupFile : List Char)
    (password : String) (tempdir : List OsName) : Fallible (Exit APIError) NodeDisk Unit := do
  tools.zipDir walletDir (tempdir ++ [backupZip])
  encryptFile tools (tempdir ++ [backupZip]) (tempdir ++ [backupEnc]) password draws.salt
    draws.nonce
  writeFile (tempdir ++ [backupNonce]) fun _ => .ok (utf8Bytes draws.nonce)
  writeFile (tempdir ++ [backupSalt]) fun _ => .ok (utf8Bytes draws.salt)
  writeFile (tempdir ++ [backupVersionFile]) fun _ => .ok (utf8Bytes (toString backupVersion))
  let t ← get
  let pathOut ← attempt (newFile t tools.cwd backupFile)
  tools.zipDir tempdir pathOut

def doBackup (draws : BackupDraws) (walletDir : List OsName) (backupFile : List Char)
    (password : String) : Fallible (Exit APIError) NodeDisk Unit := do
  let t ← get
  ensure (!pathExists t tools.cwd backupFile) (.err .invalidBackupPath)
  inTempDir tools.cwd backupFile draws.tempName
    (backupIn tools draws walletDir backupFile password)

def readToString (path : List OsName) : Fallible (Exit APIError) NodeDisk String := do
  let bytes ← readFile path
  expect (String.fromUTF8? ⟨bytes.toArray⟩) (.err (.io "stream did not contain valid UTF-8"))

/-- Read the rest of an unsigned 8-bit number behind the value `n`. -/
def parseU8From (n : Nat) : List Char → Except String Nat
  | [] => .ok n
  | c :: s =>
    if c.isDigit then
      if 10 * n + (c.toNat - '0'.toNat) < 2 ^ 8 then parseU8From (10 * n + (c.toNat - '0'.toNat)) s
      else .error "number too large to fit in target type"
    else .error "invalid digit found in string"

/-- Parse an unsigned 8-bit number, or say why it is none. -/
def parseU8 : List Char → Except String Nat
  | [] => .error "cannot parse integer from empty string"
  | ['+'] => .error "invalid digit found in string"
  | '+' :: digits => parseU8From 0 digits
  | digits => parseU8From 0 digits

/-- What a restore does in its temporary directory. -/
def restoreIn (backupPath : List Char) (password : String) (targetDir : List OsName)
    (tempdir : List OsName) : Fallible (Exit APIError) NodeDisk Unit := do
  let t ← get
  let backupFile ← expect (t.follow (pathBase tools.cwd backupPath) (pathSteps backupPath))
    (.err (.unexpected "Failed to unzip: No such file or directory (os error 2)"))
  unzip tools.toArchiver backupFile tempdir
  let nonce ← readToString (tempdir ++ [backupNonce])
  let salt ← readToString (tempdir ++ [backupSalt])
  let versionStr ← readToString (tempdir ++ [backupVersionFile])
  let version ← attempt ((parseU8 versionStr.toList).mapError fun e =>
    .err (.unexpected s!"Failed to get backup version: {e}"))
  ensure (version = backupVersion) (.err (.unsupportedBackupVersion (toString version)))
  decryptFile tools (tempdir ++ [backupEnc]) (tempdir ++ [backupZip]) password salt nonce
  unzip tools.toArchiver (tempdir ++ [backupZip]) targetDir

def restoreBackup (draws : BackupDraws) (backupPath : List Char) (password : String)
    (targetDir : List OsName) : Fallible (Exit APIError) NodeDisk Unit :=
  inTempDir tools.cwd backupPath draws.tempName (restoreIn tools backupPath password targetDir)

end Programs

end RgbLightningNode
