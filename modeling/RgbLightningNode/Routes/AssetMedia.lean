import RgbLightningNode.Lib.FileTree
import RgbLightningNode.Lib.Mealy
import RgbLightningNode.Utils

/-!
# Asset media

Uploaded media are kept in a directory, each under the digest of its bytes, and read
back by that digest. A file is written piece by piece, and the last piece is not
awaited: an upload is answered while the rest of it is written in the background. A
file may be read half written, before the write ends or after it has failed.
-/

namespace RgbLightningNode

/-- The first field of a multipart upload. -/
inductive MediaUpload where
  | notProvided
  | unreadable (e : String)
  | file (bytes : List UInt8)

/-- What an upload does to the file of its digest, one system call after another. -/
inductive MediaOp where
  | remove
  | create
  | append (byte : UInt8)
  deriving DecidableEq

abbrev Disk := FileTree (List Char) (List UInt8)

/-- What the handlers of media take from elsewhere: the hash, the lower case of a
text, and the directory. -/
structure MediaDir where
  sha256 : List UInt8 → Bytes32
  toLowercase : List Char → List Char
  path : List (List Char)

namespace MediaOp

def apply (path : List (List Char)) (disk : Disk) : MediaOp → Disk
  | remove => disk.remove path
  | create => disk.put path (.file [])
  | append byte => disk.put path (.file ((disk.content? path).getD [] ++ [byte]))

theorem apply_of_ne {path q : List (List Char)} (h : q ≠ path) (disk : Disk) (op : MediaOp) :
    op.apply path disk q = disk q := by
  cases op with
  | remove => exact FileTree.remove_of_ne disk h
  | create => exact FileTree.put_of_ne disk _ h
  | append byte => exact FileTree.put_of_ne disk _ h

end MediaOp

namespace MediaDir

def digest (dir : MediaDir) (bytes : List UInt8) : List Char :=
  (dir.sha256 bytes).toList.flatMap hexByte

def filePath (dir : MediaDir) (bytes : List UInt8) : List (List Char) :=
  dir.path ++ [dir.digest bytes]

/-- The system calls that store an upload; there are none when it is there already. -/
def postOps (dir : MediaDir) (disk : Disk) (bytes : List UInt8) :
    Except APIError (List MediaOp) :=
  if disk.isDir dir.path then
    match disk (dir.filePath bytes) with
    | some (.file existing) =>
      if bytes ≠ existing then .ok (.remove :: .create :: bytes.map .append) else .ok []
    | some .dir => .error (.io "Is a directory (os error 21)")
    | none => .ok (.create :: bytes.map .append)
  else .error (.io "No such file or directory (os error 2)")

/-- The bytes of an upload, or why it is refused. -/
def uploaded : MediaUpload → Except APIError (List UInt8)
  | .notProvided => .error .mediaFileNotProvided
  | .unreadable e => .error (.unexpected s!"Failed to read bytes: {e}")
  | .file bytes => if bytes = [] then .error .mediaFileEmpty else .ok bytes

/-- The bytes of an upload, and the system calls that store them. -/
def preparePost (dir : MediaDir) (disk : Disk) (upload : MediaUpload) :
    Except APIError (List UInt8 × List MediaOp) :=
  match uploaded upload with
  | .error e => .error e
  | .ok bytes =>
    match dir.postOps disk bytes with
    | .error e => .error e
    | .ok ops => .ok (bytes, ops)

def applyOps (dir : MediaDir) (disk : Disk) (bytes : List UInt8) (ops : List MediaOp) : Disk :=
  ops.foldl (MediaOp.apply (dir.filePath bytes)) disk

def getAssetMedia (dir : MediaDir) (disk : Disk) (digest : List Char) : Except APIError String :=
  -- the digest may be any text
  match disk.join dir.path (dir.toLowercase digest) with
  | none => .error .invalidMediaDigest
  | some path =>
    match disk path with
    | none => .error .invalidMediaDigest
    | some .dir => .error (.io "Is a directory (os error 21)")
    | some (.file bytes) => .ok (hexStr bytes)

theorem foldl_apply_of_ne {path q : List (List Char)} (disk : Disk) (ops : List MediaOp)
    (h : q ≠ path) : ops.foldl (MediaOp.apply path) disk q = disk q := by
  induction ops generalizing disk with
  | nil => rfl
  | cons op ops ih => exact (ih (op.apply _ disk)).trans (MediaOp.apply_of_ne h disk op)

/-- Appending byte by byte to a file. -/
theorem foldl_append (path : List (List Char)) (disk : Disk) (written bytes : List UInt8)
    (h : disk path = some (.file written)) :
    ((bytes.map MediaOp.append).foldl (MediaOp.apply path) disk) path =
      some (.file (written ++ bytes)) := by
  induction bytes generalizing disk written with
  | nil => rw [List.append_nil]; exact h
  | cons byte bytes ih =>
    rw [List.map_cons, List.foldl_cons, ih _ (written ++ [byte]), List.append_assoc]
    · rfl
    · rw [MediaOp.apply, FileTree.content?_eq_some_iff.mpr h, FileTree.put_self]
      rfl

/-- A file that is created holds what is appended to it. -/
theorem applyOps_create (dir : MediaDir) (disk : Disk) (bytes written : List UInt8)
    (before : List MediaOp) :
    dir.applyOps disk bytes (before ++ .create :: written.map .append) (dir.filePath bytes) =
      some (.file written) := by
  rw [applyOps, List.foldl_append, List.foldl_cons]
  exact foldl_append _ _ [] written (FileTree.put_self ..)

/-- The system calls of an upload: none, when its bytes are there, or a new file that
they are appended to. -/
theorem postOps_of_ok {dir : MediaDir} {disk : Disk} {bytes : List UInt8} {ops : List MediaOp}
    (h : dir.postOps disk bytes = .ok ops) :
    (ops = [] ∧ disk (dir.filePath bytes) = some (.file bytes)) ∨
      ∃ before, ops = before ++ .create :: bytes.map .append := by
  unfold postOps at h
  split at h
  · split at h
    · rename_i existing hfile
      split at h
      · cases h
        exact .inr ⟨[.remove], rfl⟩
      · rename_i hsame
        cases h
        exact .inl ⟨rfl, not_ne_iff.mp hsame ▸ hfile⟩
    · cases h
    · cases h
      exact .inr ⟨[], rfl⟩
  · cases h

/-- What a request returns is a file that the text in lower case leads to. -/
theorem getAssetMedia_eq_ok_iff {dir : MediaDir} {disk : Disk} {digest : List Char}
    {bytesHex : String} :
    dir.getAssetMedia disk digest = .ok bytesHex ↔
      ∃ path bytes, disk.join dir.path (dir.toLowercase digest) = some path ∧
        disk path = some (.file bytes) ∧ bytesHex = hexStr bytes := by
  unfold getAssetMedia
  constructor
  · intro h
    split at h
    · cases h
    · rename_i path hjoin
      split at h
      · cases h
      · cases h
      · rename_i bytes hfile
        exact ⟨path, bytes, hjoin, hfile, (Except.ok.inj h).symm⟩
  · rintro ⟨path, bytes, hjoin, hfile, rfl⟩
    rw [hjoin]
    simp only [hfile]

end MediaDir

/-! ### Uploads and requests in turn -/

/-- What is still to be written to the open file of a digest when its request has ended. -/
structure BackgroundWrite where
  /-- The bytes of the upload. -/
  bytes : List UInt8
  rest : List UInt8
  /-- Whether the upload has been answered. -/
  answered : Bool

/-- The disk, the contents whose uploads have been answered, what is being written in
the background to the file of a digest, and the digests whose file may be incomplete. -/
structure MediaStore where
  disk : Disk
  posted : List (List UInt8)
  writes : List Char → Option BackgroundWrite
  unfinished : List (List Char)

/-- How a request with an upload ends. -/
inductive MediaEnd where
  /-- With an answer, when this many bytes are left to the background. -/
  | answered (behind : Nat)
  /-- Without one, after a number of system calls; some bytes may be left to the
  background even so. -/
  | interrupted (calls behind : Nat)

inductive MediaStep where
  | post (upload : MediaUpload) (ends : MediaEnd)
  | get (digest : List Char)
  /-- A number of bytes is written in the background to the file of a digest. -/
  | write (digest : List Char) (count : Nat)
  /-- The write in the background fails, or the node stops; no answer reports it. -/
  | writeFails (digest : List Char)
  /-- Anything else that changes what is at a path. -/
  | other (path : List (List Char)) (entry : Option (FileEntry (List UInt8)))

/-- The byte of a system call that appends one. -/
def MediaOp.byte? : MediaOp → Option UInt8
  | append byte => some byte
  | _ => none

/-- What of the bytes an upload leaves to the background. -/
def MediaEnd.rest (bytes : List UInt8) (ops : List MediaOp) : MediaEnd → List UInt8
  | answered behind => if ops = [] then [] else bytes.drop (bytes.length - behind)
  | interrupted calls behind =>
    if .create ∈ ops.take calls then ((ops.drop calls).filterMap MediaOp.byte?).take behind else []

/-- The system calls that are made while the request is there. -/
def MediaEnd.done (bytes : List UInt8) (ops : List MediaOp) : MediaEnd → List MediaOp
  | answered behind => ops.take (ops.length - (rest bytes ops (answered behind)).length)
  | interrupted calls _ => ops.take calls

namespace MediaStore

/-- The write that continues in the background. A file that is created anew is not the
open file of an earlier write. -/
def leave (dir : MediaDir) (s : MediaStore) (bytes : List UInt8) (ops : List MediaOp)
    (ends : MediaEnd) (answered : Bool) : List Char → Option BackgroundWrite :=
  if ends.done bytes ops = [] then s.writes
  else Function.update s.writes (dir.digest bytes)
    (if ends.rest bytes ops = [] then none else some ⟨bytes, ends.rest bytes ops, answered⟩)

def post (dir : MediaDir) (s : MediaStore) (bytes : List UInt8) (ops : List MediaOp)
    (ends : MediaEnd) : Option (Except APIError String) × MediaStore :=
  match ends with
  | .answered _ =>
    (some (.ok (String.ofList (dir.digest bytes))), {
      disk := dir.applyOps s.disk bytes (ends.done bytes ops)
      posted := bytes :: s.posted
      writes := s.leave dir bytes ops ends true
      unfinished :=
        if (s.leave dir bytes ops ends true (dir.digest bytes)).isSome then
          dir.digest bytes :: s.unfinished
        else s.unfinished.filter (· ≠ dir.digest bytes) })
  | .interrupted .. =>
    (none, { s with
      disk := dir.applyOps s.disk bytes (ends.done bytes ops)
      writes := s.leave dir bytes ops ends false
      unfinished :=
        if ends.done bytes ops = [] then s.unfinished else dir.digest bytes :: s.unfinished })

/-- The file of an upload that has been answered is complete when nothing is left. -/
def write (dir : MediaDir) (s : MediaStore) (digest : List Char) (count : Nat) : MediaStore :=
  match s.writes digest with
  | none => s
  | some w => { s with
      disk := ((w.rest.take count).map MediaOp.append).foldl
        (MediaOp.apply (dir.path ++ [digest])) s.disk
      writes := Function.update s.writes digest
        (if w.rest.drop count = [] then none else some { w with rest := w.rest.drop count })
      unfinished :=
        if w.rest.drop count = [] ∧ w.answered then s.unfinished.filter (· ≠ digest)
        else s.unfinished }

def step (dir : MediaDir) (s : MediaStore) :
    MediaStep → Option (Except APIError String) × MediaStore
  | .post upload ends =>
    match dir.preparePost s.disk upload with
    | .error e => (some (.error e), s)
    | .ok (bytes, ops) => s.post dir bytes ops ends
  | .get digest => (some (dir.getAssetMedia s.disk digest), s)
  | .write digest count => (none, s.write dir digest count)
  | .writeFails digest => (none, { s with writes := Function.update s.writes digest none })
  | .other path entry => (none, { s with disk := Function.update s.disk path entry })

/-- A request returns nothing but a posted content, and that under the digest asked
for and from the media directory. -/
def ContentAddressed (dir : MediaDir) (s : MediaStore) : MediaStep → Prop
  | .get digest => ∀ bytesHex, (step dir s (.get digest)).1 = some (.ok bytesHex) →
      ∃ bytes ∈ s.posted, bytesHex = hexStr bytes ∧ dir.digest bytes = dir.toLowercase digest ∧
        s.disk.join dir.path (dir.toLowercase digest) = some (dir.filePath bytes)
  | _ => True

/-- A request names no other directory and no digest whose file may be incomplete, and
nothing but uploads puts files into the media directory. -/
def Plain (dir : MediaDir) (s : MediaStore) : MediaStep → Prop
  | .get digest => '/' ∉ dir.toLowercase digest ∧ dir.toLowercase digest ≠ ['.', '.'] ∧
      dir.toLowercase digest ∉ s.unfinished
  | .other path _ => ∀ name, path ≠ dir.path ++ [name]
  | _ => True

/-- A file that is still being written lacks the rest of its bytes. -/
structure Lacks (dir : MediaDir) (s : MediaStore) (name : List Char) (w : BackgroundWrite) :
    Prop where
  unfinished : name ∈ s.unfinished
  file : w.answered = true → ∃ written, s.disk (dir.path ++ [name]) = some (.file written) ∧
    written ++ w.rest = w.bytes ∧ w.bytes ∈ s.posted ∧ dir.digest w.bytes = name

/-- The file of this name may be incomplete, or is a posted content under its digest. -/
structure Addressed (dir : MediaDir) (s : MediaStore) (name : List Char) : Prop where
  file : ∀ bytes, s.disk (dir.path ++ [name]) = some (.file bytes) →
    name ∈ s.unfinished ∨ (bytes ∈ s.posted ∧ dir.digest bytes = name)
  lacks : ∀ w, s.writes name = some w → Lacks dir s name w

/-- Nothing happens to the file of this name. -/
structure Untouched (dir : MediaDir) (s s' : MediaStore) (name : List Char) : Prop where
  disk : s'.disk (dir.path ++ [name]) = s.disk (dir.path ++ [name])
  writes : s'.writes name = s.writes name
  unfinished : name ∈ s.unfinished → name ∈ s'.unfinished
  posted : ∀ bytes ∈ s.posted, bytes ∈ s'.posted

variable {dir : MediaDir} {s s' : MediaStore} {name : List Char} {bytes : List UInt8}
  {ops : List MediaOp}

theorem Addressed.of_untouched (h : Addressed dir s name) (hu : Untouched dir s s' name) :
    Addressed dir s' name := by
  constructor
  · intro content hfile
    rw [hu.disk] at hfile
    obtain hun | ⟨hposted, hdigest⟩ := h.file content hfile
    · exact .inl (hu.unfinished hun)
    · exact .inr ⟨hu.posted _ hposted, hdigest⟩
  · intro w hw
    rw [hu.writes] at hw
    obtain ⟨hun, hfile⟩ := h.lacks w hw
    refine ⟨hu.unfinished hun, fun hanswered => ?_⟩
    obtain ⟨written, hwritten, hrest, hposted, hdigest⟩ := hfile hanswered
    exact ⟨written, hu.disk.trans hwritten, hrest, hu.posted _ hposted, hdigest⟩

/-! ### An upload -/

theorem leave_of_ne {ends : MediaEnd} {answered : Bool} (hname : name ≠ dir.digest bytes) :
    s.leave dir bytes ops ends answered name = s.writes name := by
  rw [leave]
  split
  · rfl
  · exact Function.update_of_ne hname ..

theorem untouched_post (ends : MediaEnd) (hname : name ≠ dir.digest bytes) :
    Untouched dir s (s.post dir bytes ops ends).2 name := by
  have hne : dir.path ++ [name] ≠ dir.filePath bytes := by
    intro heq
    exact hname (List.cons.inj (List.append_cancel_left heq)).1
  cases ends with
  | answered behind =>
    refine ⟨MediaDir.foldl_apply_of_ne s.disk _ hne, leave_of_ne hname, fun hun => ?_,
      fun _ h => List.mem_cons_of_mem _ h⟩
    simp only [post]
    split
    · exact List.mem_cons_of_mem _ hun
    · exact List.mem_filter.mpr ⟨hun, by simpa using hname⟩
  | interrupted calls behind =>
    refine ⟨MediaDir.foldl_apply_of_ne s.disk _ hne, leave_of_ne hname, fun hun => ?_,
      fun _ h => h⟩
    simp only [post]
    split
    · exact hun
    · exact List.mem_cons_of_mem _ hun

/-- What has been done at the answer to an upload that writes a file. -/
theorem done_answered (before : List MediaOp) (behind : Nat) :
    MediaEnd.done bytes (before ++ .create :: bytes.map .append) (.answered behind) =
      before ++ .create :: (bytes.take (bytes.length - behind)).map .append := by
  rw [MediaEnd.done, MediaEnd.rest, if_neg (by simp), List.length_drop]
  have hlength : (before ++ MediaOp.create :: bytes.map MediaOp.append).length -
      (bytes.length - (bytes.length - behind)) =
        before.length + (bytes.length - behind + 1) := by
    simp only [List.length_append, List.length_cons, List.length_map]
    omega
  rw [hlength, List.take_length_add_append, List.take_succ_cons, List.map_take]

/-- An upload of bytes that are there leaves a write that is under way as it is. -/
theorem addressed_of_there (behind : Nat) (hs : Addressed dir s (dir.digest bytes))
    (hfile : s.disk (dir.path ++ [dir.digest bytes]) = some (.file bytes)) :
    Addressed dir (s.post dir bytes [] (.answered behind)).2 (dir.digest bytes) := by
  have hleave : s.leave dir bytes [] (.answered behind) true = s.writes := if_pos rfl
  constructor
  · intro content hcontent
    obtain rfl : bytes = content := by
      have heq := hfile.symm.trans hcontent
      cases heq
      rfl
    exact .inr ⟨List.mem_cons_self .., rfl⟩
  · intro w hw
    simp only [post, hleave] at hw ⊢
    obtain ⟨-, hlacks⟩ := hs.lacks w hw
    refine ⟨?_, fun hanswered => ?_⟩
    · rw [hw, Option.isSome_some, if_pos rfl]
      exact List.mem_cons_self ..
    · obtain ⟨written, hwritten, hrest, hposted, hdigest⟩ := hlacks hanswered
      exact ⟨written, hwritten, hrest, List.mem_cons_of_mem _ hposted, hdigest⟩

/-- An upload of new bytes leaves a file with all of them, or a write of the rest. -/
theorem addressed_of_create (before : List MediaOp) (behind : Nat) :
    Addressed dir (s.post dir bytes (before ++ .create :: bytes.map .append)
      (.answered behind)).2 (dir.digest bytes) := by
  have hdone : MediaEnd.done bytes (before ++ .create :: bytes.map .append) (.answered behind) =
      before ++ .create :: (bytes.take (bytes.length - behind)).map .append :=
    done_answered before behind
  have hrest : MediaEnd.rest bytes (before ++ .create :: bytes.map .append) (.answered behind) =
      bytes.drop (bytes.length - behind) := if_neg (by simp)
  have hfile : (s.post dir bytes (before ++ .create :: bytes.map .append)
      (.answered behind)).2.disk (dir.path ++ [dir.digest bytes]) =
        some (.file (bytes.take (bytes.length - behind))) := by
    simp only [post, hdone]
    exact MediaDir.applyOps_create dir s.disk bytes _ before
  have hleave : s.leave dir bytes (before ++ .create :: bytes.map .append) (.answered behind)
      true (dir.digest bytes) = if bytes.drop (bytes.length - behind) = [] then none
        else some ⟨bytes, bytes.drop (bytes.length - behind), true⟩ := by
    rw [leave, if_neg (by rw [hdone]; simp), Function.update_self, hrest]
  by_cases hnone : bytes.drop (bytes.length - behind) = []
  · have hall : bytes.take (bytes.length - behind) = bytes := by
      have happend := List.take_append_drop (bytes.length - behind) bytes
      rwa [hnone, List.append_nil] at happend
    rw [if_pos hnone] at hleave
    refine ⟨fun content hcontent => ?_, fun w hw => by cases hleave.symm.trans hw⟩
    rw [hfile, hall] at hcontent
    cases hcontent
    exact .inr ⟨List.mem_cons_self .., rfl⟩
  · rw [if_neg hnone] at hleave
    have hun : dir.digest bytes ∈ (s.post dir bytes (before ++ .create :: bytes.map .append)
        (.answered behind)).2.unfinished := by
      simp only [post, hleave, Option.isSome_some, if_true]
      exact List.mem_cons_self ..
    refine ⟨fun _ _ => .inl hun, fun w hw => ⟨hun, fun _ => ?_⟩⟩
    obtain rfl := Option.some.inj (hleave.symm.trans hw)
    exact ⟨_, hfile, List.take_append_drop .., List.mem_cons_self .., rfl⟩

theorem addressed_answered (behind : Nat) (hs : Addressed dir s (dir.digest bytes))
    (hops : dir.postOps s.disk bytes = .ok ops) :
    Addressed dir (s.post dir bytes ops (.answered behind)).2 (dir.digest bytes) := by
  obtain ⟨rfl, hfile⟩ | ⟨before, rfl⟩ := MediaDir.postOps_of_ok hops
  · exact addressed_of_there behind hs hfile
  · exact addressed_of_create before behind

theorem addressed_interrupted (calls behind : Nat) (hs : Addressed dir s (dir.digest bytes)) :
    Addressed dir (s.post dir bytes ops (.interrupted calls behind)).2 (dir.digest bytes) := by
  by_cases hnone : MediaEnd.done bytes ops (.interrupted calls behind) = []
  · refine hs.of_untouched ⟨?_, ?_, fun hun => ?_, fun _ h => h⟩
    · simp only [post, hnone]
      rfl
    · simp only [post, leave, hnone, if_true]
    · simp only [post, hnone, if_true]
      exact hun
  · have hun : dir.digest bytes ∈
        (s.post dir bytes ops (.interrupted calls behind)).2.unfinished := by
      simp only [post, if_neg hnone]
      exact List.mem_cons_self ..
    refine ⟨fun _ _ => .inl hun, fun w hw => ⟨hun, fun hanswered => ?_⟩⟩
    -- what it leaves to the background has not been answered
    simp only [post, leave, if_neg hnone, Function.update_self] at hw
    split at hw
    · cases hw
    · cases hw
      cases hanswered

theorem addressed_post (ends : MediaEnd) (hs : ∀ name, Addressed dir s name)
    (hops : dir.postOps s.disk bytes = .ok ops) (name : List Char) :
    Addressed dir (s.post dir bytes ops ends).2 name := by
  by_cases hname : name = dir.digest bytes
  · subst hname
    cases ends with
    | answered behind => exact addressed_answered behind (hs _) hops
    | interrupted calls behind => exact addressed_interrupted calls behind (hs _)
  · exact (hs name).of_untouched (untouched_post ends hname)

/-! ### A write in the background -/

theorem untouched_write {digest : List Char} (count : Nat) (hname : name ≠ digest) :
    Untouched dir s (s.write dir digest count) name := by
  cases hw : s.writes digest with
  | none =>
    rw [write, hw]
    exact ⟨rfl, rfl, id, fun _ h => h⟩
  | some w =>
    have hne : dir.path ++ [name] ≠ dir.path ++ [digest] := by
      intro heq
      exact hname (List.cons.inj (List.append_cancel_left heq)).1
    refine ⟨?_, ?_, fun hun => ?_, fun bytes h => ?_⟩
    · rw [write, hw]
      exact MediaDir.foldl_apply_of_ne s.disk _ hne
    · rw [write, hw]
      exact Function.update_of_ne hname ..
    · simp only [write, hw]
      split
      · exact List.mem_filter.mpr ⟨hun, by simpa using hname⟩
      · exact hun
    · rw [write, hw]
      exact h

/-- The file of an upload without an answer stays one that may be incomplete. -/
theorem addressed_write_of_interrupted {w : BackgroundWrite} (count : Nat)
    (hw : s.writes name = some w) (hun : name ∈ s.unfinished) (hanswered : w.answered = false) :
    Addressed dir (s.write dir name count) name := by
  have hstays : name ∈ (s.write dir name count).unfinished := by
    simp only [write, hw, hanswered, Bool.false_eq_true, and_false, if_false]
    exact hun
  refine ⟨fun _ _ => .inl hstays, fun w' hw' => ⟨hstays, fun hanswered' => ?_⟩⟩
  simp only [write, hw, Function.update_self] at hw'
  split at hw'
  · cases hw'
  · cases hw'
    cases hanswered.symm.trans hanswered'

/-- The file of an upload with an answer is complete, or lacks fewer bytes. -/
theorem addressed_write_of_answered {w : BackgroundWrite} (count : Nat)
    (hw : s.writes name = some w) (hlacks : Lacks dir s name w) (hanswered : w.answered = true) :
    Addressed dir (s.write dir name count) name := by
  obtain ⟨hun, hlacks⟩ := hlacks
  obtain ⟨written, hwritten, hrest, hposted, hdigest⟩ := hlacks hanswered
  have hfile : (s.write dir name count).disk (dir.path ++ [name]) =
      some (.file (written ++ w.rest.take count)) := by
    rw [write, hw]
    exact MediaDir.foldl_append _ _ written _ hwritten
  have hposted' : w.bytes ∈ (s.write dir name count).posted := by
    rw [write, hw]
    exact hposted
  by_cases hnone : w.rest.drop count = []
  · -- the last bytes
    have hall : written ++ w.rest.take count = w.bytes := by
      have happend := List.take_append_drop count w.rest
      rw [hnone, List.append_nil] at happend
      rw [happend, hrest]
    refine ⟨fun content hcontent => ?_, fun w' hw' => ?_⟩
    · rw [hfile, hall] at hcontent
      cases hcontent
      exact .inr ⟨hposted', hdigest⟩
    · simp only [write, hw, hnone, Function.update_self, if_true] at hw'
      cases hw'
  · have hstays : name ∈ (s.write dir name count).unfinished := by
      simp only [write, hw, hnone, false_and, if_false]
      exact hun
    refine ⟨fun _ _ => .inl hstays, fun w' hw' => ⟨hstays, fun _ => ⟨_, hfile, ?_⟩⟩⟩
    simp only [write, hw, Function.update_self, if_neg hnone] at hw'
    obtain rfl := Option.some.inj hw'
    refine ⟨?_, hposted', hdigest⟩
    rw [List.append_assoc, List.take_append_drop, hrest]

theorem addressed_write {digest : List Char} (count : Nat) (hs : ∀ name, Addressed dir s name)
    (name : List Char) : Addressed dir (s.write dir digest count) name := by
  by_cases hname : name = digest
  · subst hname
    cases hw : s.writes name with
    | none =>
      rw [write, hw]
      exact hs name
    | some w =>
      have hlacks := (hs name).lacks w hw
      cases hanswered : w.answered with
      | false => exact addressed_write_of_interrupted count hw hlacks.unfinished hanswered
      | true => exact addressed_write_of_answered count hw hlacks hanswered
  · exact (hs name).of_untouched (untouched_write count hname)

/-! ### Every run -/

theorem postOps_of_preparePost {upload : MediaUpload} {disk : Disk} {bytes : List UInt8}
    {ops : List MediaOp} (h : dir.preparePost disk upload = .ok (bytes, ops)) :
    dir.postOps disk bytes = .ok ops := by
  unfold MediaDir.preparePost at h
  split at h
  · cases h
  · split at h
    · cases h
    · rename_i hops
      cases h
      exact hops

theorem addressed_step {x : MediaStep} (hs : ∀ name, Addressed dir s name)
    (hx : Plain dir s x) (name : List Char) : Addressed dir (step dir s x).2 name := by
  cases x with
  | post upload ends =>
    cases hprepare : dir.preparePost s.disk upload with
    | error e =>
      simp only [step, hprepare]
      exact hs name
    | ok prepared =>
      obtain ⟨bytes, ops⟩ := prepared
      simp only [step, hprepare]
      exact addressed_post ends hs (postOps_of_preparePost hprepare) name
  | get digest => exact hs name
  | write digest count => exact addressed_write count hs name
  | writeFails digest =>
    refine ⟨(hs name).file, fun w hw => ?_⟩
    by_cases hname : name = digest
    · subst hname
      simp only [step, Function.update_self] at hw
      cases hw
    · obtain ⟨hun, hfile⟩ :=
        (hs name).lacks w ((Function.update_of_ne hname ..).symm.trans hw)
      exact ⟨hun, hfile⟩
  | other path entry =>
    have hother : (step dir s (.other path entry)).2.disk (dir.path ++ [name]) =
        s.disk (dir.path ++ [name]) := Function.update_of_ne (hx name).symm ..
    exact (hs name).of_untouched ⟨hother, rfl, id, fun _ h => h⟩

theorem contentAddressed_of_plain {x : MediaStep} (hs : ∀ name, Addressed dir s name)
    (hx : Plain dir s x) : ContentAddressed dir s x := by
  cases x with
  | get digest =>
    intro bytesHex hget
    obtain ⟨hslash, hup, hfinished⟩ := hx
    obtain ⟨path, bytes, hjoin, hfile, rfl⟩ :=
      MediaDir.getAssetMedia_eq_ok_iff.mp (Option.some.inj hget)
    obtain ⟨hdir, rfl | rfl⟩ := FileTree.join_of_plain hslash hup hjoin
    · rw [FileTree.isDir_eq_true_iff.mp hdir] at hfile
      cases hfile
    · obtain hun | ⟨hposted, hdigest⟩ := (hs _).file bytes hfile
      · exact absurd hun hfinished
      · refine ⟨bytes, hposted, rfl, hdigest, ?_⟩
        rw [hjoin, MediaDir.filePath, hdigest]
  | _ => trivial

/-- A store that nothing has been posted to. -/
def new (disk : Disk) : MediaStore := ⟨disk, [], fun _ => none, []⟩

/-- In a run from an empty media directory, whose requests name no other directory
and no digest whose file may be incomplete, and where nothing but uploads puts files
into the directory, the store is content-addressed. -/
theorem contentAddressed_run {disk : Disk} {xs : List MediaStep}
    (hempty : ∀ name bytes, disk (dir.path ++ [name]) ≠ some (.file bytes))
    (hplain : Mealy.Along (step dir) (Plain dir) (new disk) xs) :
    Mealy.Along (step dir) (ContentAddressed dir) (new disk) xs := by
  have hnew : ∀ name, Addressed dir (new disk) name := fun name =>
    ⟨fun bytes hfile => absurd hfile (hempty name bytes), fun w hw => by cases hw⟩
  exact Mealy.along_of_invariant (I := fun s => ∀ name, Addressed dir s name)
    (fun _ _ => addressed_step) (fun _ _ => contentAddressed_of_plain) hnew hplain

/-- A media directory with a hash that only tells lengths apart. -/
def lengthDir : MediaDir where
  sha256 bytes := Vector.replicate 32 (UInt8.ofNat bytes.length)
  toLowercase text := text.map Char.toLower
  path := ["data".toList, "media".toList]

/-- A disk with an empty media directory beside the file of the mnemonic. -/
def walletDisk : Disk :=
  FileTree.put (FileTree.put (FileTree.put (fun _ => none) ["data".toList] .dir)
    ["data".toList, "media".toList] .dir) ["data".toList, "mnemonic".toList] (.file [1, 2, 3])

theorem walletDisk_media (name : List Char) : walletDisk (lengthDir.path ++ [name]) = none := by
  have hne : ∀ q : List (List Char), q.length ≤ 2 → lengthDir.path ++ [name] ≠ q := by
    intro q hq h
    have hlength := congrArg List.length h
    rw [List.length_append] at hlength
    simp only [lengthDir, List.length_cons, List.length_nil] at hlength
    omega
  rw [walletDisk, FileTree.put_of_ne _ _ (hne _ (by decide)),
    FileTree.put_of_ne _ _ (hne _ (by decide)), FileTree.put_of_ne _ _ (hne _ (by decide))]

/-- An upload that is interrupted and posted again, the second time with a byte left to
the background, which is written before the request. -/
def repaired : List MediaStep :=
  [.post (.file [7, 8]) (.interrupted 2 0), .post (.file [7, 8]) (.answered 1),
    .post (.file [9]) (.answered 0), .write (lengthDir.digest [7, 8]) 1,
    .get (lengthDir.digest [7, 8]), .get (lengthDir.digest [9])]

theorem contentAddressed_of_repaired :
    Mealy.Along (step lengthDir) (ContentAddressed lengthDir) (new walletDisk) repaired ∧
      (Mealy.outputs (step lengthDir) (new walletDisk) repaired).drop 4 =
        [some (.ok "0708"), some (.ok "09")] := by
  refine ⟨contentAddressed_run (fun name bytes h => ?_) ⟨trivial, trivial, trivial, trivial,
    ⟨?_, ?_, ?_⟩, ⟨?_, ?_, ?_⟩, trivial⟩, by decide +kernel⟩
  · rw [walletDisk_media] at h
    cases h
  all_goals decide +kernel

/-- A digest that leads out of the directory returns the file of the mnemonic. The digest
of an interrupted upload returns the part that was written, and so does that of an upload
whose last bytes are still to be written when it is answered, or never will be. -/
theorem returns_other_files :
    (step lengthDir (new walletDisk) (.get "../mnemonic".toList)).1 =
        some (.ok (hexStr [1, 2, 3])) ∧
      ¬ContentAddressed lengthDir (new walletDisk) (.get "../mnemonic".toList) ∧
      ¬Mealy.Along (step lengthDir) (ContentAddressed lengthDir) (new walletDisk)
        [.post (.file [7, 8]) (.interrupted 2 0), .get (lengthDir.digest [7, 8])] ∧
      ¬Mealy.Along (step lengthDir) (ContentAddressed lengthDir) (new walletDisk)
        [.post (.file [7, 8]) (.answered 2), .writeFails (lengthDir.digest [7, 8]),
          .get (lengthDir.digest [7, 8])] := by
  have hmnemonic : (step lengthDir (new walletDisk) (.get "../mnemonic".toList)).1 =
      some (.ok (hexStr [1, 2, 3])) := by decide +kernel
  refine ⟨hmnemonic, fun h => ?_, fun h => ?_, fun h => ?_⟩
  · obtain ⟨bytes, hposted, -⟩ := h _ hmnemonic
    cases hposted
  · have hpart : (step lengthDir (step lengthDir (new walletDisk)
        (.post (.file [7, 8]) (.interrupted 2 0))).2 (.get (lengthDir.digest [7, 8]))).1 =
          some (.ok (hexStr [7])) := by decide +kernel
    obtain ⟨bytes, hposted, -⟩ := h.2.1 _ hpart
    have hnone : (step lengthDir (new walletDisk)
        (.post (.file [7, 8]) (.interrupted 2 0))).2.posted = [] := by decide +kernel
    rw [hnone] at hposted
    cases hposted
  · have hempty : (step lengthDir (step lengthDir (step lengthDir (new walletDisk)
        (.post (.file [7, 8]) (.answered 2))).2 (.writeFails (lengthDir.digest [7, 8]))).2
          (.get (lengthDir.digest [7, 8]))).1 = some (.ok (hexStr [])) := by decide +kernel
    obtain ⟨bytes, hposted, hhex, -⟩ := h.2.2.1 _ hempty
    have hone : (step lengthDir (step lengthDir (new walletDisk)
        (.post (.file [7, 8]) (.answered 2))).2
          (.writeFails (lengthDir.digest [7, 8]))).2.posted = [[7, 8]] := by decide +kernel
    rw [hone] at hposted
    obtain rfl := List.mem_singleton.mp hposted
    exact absurd hhex (by decide +kernel)

end MediaStore

end RgbLightningNode
