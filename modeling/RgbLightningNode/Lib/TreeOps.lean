import RgbLightningNode.Lib.PathSteps

/-!
# Making directories and files one after another

A program that makes directories and writes files stops where a file is in the way of
a directory, or a directory in the way of a file. What is there when it stops can be
told from the operations before that one.
-/

/-- A directory is made unless it is there, a file is written, or the program stops. Each
operation has the error of what is in its way. -/
inductive TreeOp (N C ε : Type) where
  | mkdir (p : List N) (inWay : ε)
  | write (p : List N) (content : C) (inWay : ε)
  | stop (e : ε)

namespace TreeOp

open Fallible FileTree PathStep

variable {N C ε : Type} [DecidableEq N]

/-- Do one operation. -/
def exec : TreeOp N C ε → Fallible ε (FileTree N C) Unit
  | mkdir p inWay => do
    let t ← get
    match t p with
    | some .dir => pure ()
    | some (.file _) => throw inWay
    | none => set (t.put p .dir)
  | write p content inWay => do
    let t ← get
    ensure (!t.isDir p) inWay
    set (t.put p (.file content))
  | stop e => throw e

def run : List (TreeOp N C ε) → Fallible ε (FileTree N C) Unit
  | [] => pure ()
  | op :: ops => do
    op.exec
    run ops

/-- The error of an operation that cannot be done. -/
def error : TreeOp N C ε → ε
  | mkdir _ inWay => inWay
  | write _ _ inWay => inWay
  | stop e => e

/-- What the operation puts where. -/
def put? : TreeOp N C ε → Option (List N × FileEntry C)
  | mkdir p _ => some (p, .dir)
  | write p content _ => some (p, .file content)
  | stop _ => none

/-- The tree with what the operation puts there, whether it can be done or not. -/
def on (t : FileTree N C) (op : TreeOp N C ε) : FileTree N C :=
  match op.put? with
  | some (p, e) => t.put p e
  | none => t

/-- The tree with what all operations put there. -/
def done (t : FileTree N C) (ops : List (TreeOp N C ε)) : FileTree N C := ops.foldl on t

/-- The last that the operations put at a path. -/
def written (ops : List (TreeOp N C ε)) (p : List N) : Option (FileEntry C) :=
  done (fun _ => none) ops p

/-- The operation cannot be done. -/
def Clashes (t : FileTree N C) : TreeOp N C ε → Prop
  | mkdir p _ => ∃ content, t p = some (.file content)
  | write p _ _ => t p = some .dir
  | stop _ => True

/-- All operations can be done one after another. -/
def Smooth (t : FileTree N C) : List (TreeOp N C ε) → Prop
  | [] => True
  | op :: ops => ¬op.Clashes t ∧ Smooth (op.on t) ops

/-- What is put where before the first operation that cannot be done is what the tree
has there, except in places that do not count. -/
def Keeps (hidden : List N → Prop) (t : FileTree N C) (ops : List (TreeOp N C ε)) : Prop :=
  ∀ pre op post, ops = pre ++ op :: post → Smooth t pre → op.Clashes (done t pre) →
    ∀ p, ¬hidden p → ∀ e, written pre p = some e → t p = some e

variable {t : FileTree N C} {op : TreeOp N C ε} {ops : List (TreeOp N C ε)} {p : List N}

/-! ### One operation -/

theorem exec_of_not_clashes (h : ¬op.Clashes t) : op.exec t = .ok () (op.on t) := by
  cases op with
  | mkdir p inWay =>
    rw [exec, bind_of_ok (get_apply t)]
    cases hentry : t p with
    | none => rfl
    | some entry =>
      cases entry with
      | dir => exact congrArg _ (Function.update_eq_self_iff.mpr hentry.symm).symm
      | file content => exact absurd ⟨content, hentry⟩ h
  | write p content inWay =>
    have hdir : t.isDir p = false := Bool.eq_false_iff.mpr fun hdir => h (isDir_eq_true_iff.mp hdir)
    rw [exec, bind_of_ok (get_apply t), hdir]
    rfl
  | stop e => exact absurd trivial h

/-- An operation that cannot be done changes nothing. -/
theorem exec_of_clashes (h : op.Clashes t) : op.exec t = .error op.error t := by
  cases op with
  | mkdir p inWay =>
    obtain ⟨content, hfile⟩ := h
    rw [exec, bind_of_ok (get_apply t), hfile]
    rfl
  | write p content inWay =>
    rw [exec, bind_of_ok (get_apply t), isDir_eq_true_iff.mpr h]
    rfl
  | stop e => rfl

/-! ### All operations -/

theorem run_append (ops ops' : List (TreeOp N C ε)) (t : FileTree N C) :
    run (ops ++ ops') t = (run ops >>= fun _ => run ops') t := by
  induction ops generalizing t with
  | nil => rfl
  | cons op ops ih =>
    rw [List.cons_append, run, run, bind_apply, bind_assoc, bind_apply]
    cases op.exec t with
    | ok u t' => exact ih t'
    | error e t' => rfl

theorem done_append (ops ops' : List (TreeOp N C ε)) (t : FileTree N C) :
    done t (ops ++ ops') = done (done t ops) ops' := List.foldl_append ..

/-- What has been put somewhere is there, and elsewhere all is as before. -/
theorem done_apply (t : FileTree N C) (ops : List (TreeOp N C ε)) (p : List N) :
    done t ops p = (written ops p).or (t p) := by
  induction ops using List.reverseRecOn with
  | nil => rfl
  | append_singleton ops op ih =>
    rw [written, done_append, done_append]
    change op.on (done t ops) p = (op.on (done (fun _ => none) ops) p).or (t p)
    unfold on
    cases op.put? with
    | none => exact ih
    | some put =>
      by_cases hp : p = put.1
      · rw [hp]
        simp only [put_self, Option.some_or]
      · simp only [put_of_ne _ _ hp]
        exact ih

/-- The tree is as it was at a path if and only if what is put there was there. -/
theorem done_eq_iff : done t ops p = t p ↔ ∀ e, written ops p = some e → t p = some e := by
  rw [done_apply]
  cases written ops p with
  | none => simp
  | some e =>
    rw [Option.some_or]
    exact ⟨fun h e' he => by rw [← h, he], fun h => (h e rfl).symm⟩

theorem run_of_smooth (h : Smooth t ops) : run ops t = .ok () (done t ops) := by
  induction ops generalizing t with
  | nil => rfl
  | cons op ops ih =>
    rw [run, bind_of_ok (exec_of_not_clashes h.1)]
    exact ih h.2

/-- The program stops at the first operation that cannot be done. -/
theorem run_of_clashes {pre post : List (TreeOp N C ε)} (hops : ops = pre ++ op :: post)
    (hpre : Smooth t pre) (hop : op.Clashes (done t pre)) :
    run ops t = .error op.error (done t pre) := by
  rw [hops, run_append, bind_of_ok (run_of_smooth hpre), run, bind_of_error (exec_of_clashes hop)]

/-- There is such an operation, or all can be done. -/
theorem smooth_or_clashes (t : FileTree N C) (ops : List (TreeOp N C ε)) :
    Smooth t ops ∨ ∃ pre op post, ops = pre ++ op :: post ∧ Smooth t pre ∧
      op.Clashes (done t pre) := by
  induction ops generalizing t with
  | nil => exact .inl trivial
  | cons op ops ih =>
    by_cases hop : op.Clashes t
    · exact .inr ⟨[], op, ops, rfl, trivial, hop⟩
    · obtain hrest | ⟨pre, next, post, rfl, hpre, hnext⟩ := ih (op.on t)
      · exact .inl ⟨hop, hrest⟩
      · exact .inr ⟨op :: pre, next, post, rfl, ⟨hop, hpre⟩, hnext⟩

/-- The program returns when all operations can be done. -/
theorem run_eq_ok_iff {u : FileTree N C} :
    run ops t = .ok () u ↔ Smooth t ops ∧ done t ops = u := by
  constructor
  · intro hok
    obtain hsmooth | ⟨pre, op, post, hops, hpre, hop⟩ := smooth_or_clashes t ops
    · exact ⟨hsmooth, (EStateM.Result.ok.inj ((run_of_smooth hsmooth).symm.trans hok)).2⟩
    · cases (run_of_clashes hops hpre hop).symm.trans hok
  · rintro ⟨hsmooth, rfl⟩
    exact run_of_smooth hsmooth

/-- A program that stops leaves the tree as it was if and only if what it has put
somewhere was there. -/
theorem keeps_iff (hidden : List N → Prop) (t : FileTree N C) (ops : List (TreeOp N C ε)) :
    (∀ e t', run ops t = .error e t' → ∀ p, ¬hidden p → t' p = t p) ↔ Keeps hidden t ops := by
  constructor
  · intro h pre op post hops hpre hop p hp
    exact done_eq_iff.mp (h _ _ (run_of_clashes hops hpre hop) p hp)
  · intro h e t' herror p hp
    obtain hsmooth | ⟨pre, op, post, hops, hpre, hop⟩ := smooth_or_clashes t ops
    · rw [run_of_smooth hsmooth] at herror
      cases herror
    · obtain ⟨-, rfl⟩ :=
        EStateM.Result.error.inj ((run_of_clashes hops hpre hop).symm.trans herror)
      exact done_eq_iff.mpr (h pre op post hops hpre hop p hp)

theorem not_clashes_of_smooth {pre post : List (TreeOp N C ε)} (h : Smooth t (pre ++ op :: post)) :
    ¬op.Clashes (done t pre) := by
  induction pre generalizing t with
  | nil => exact h.1
  | cons first pre ih => exact ih h.2

theorem keeps_of_smooth (hidden : List N → Prop) (h : Smooth t ops) : Keeps hidden t ops := by
  intro pre op post hops _ hop
  exact absurd hop (not_clashes_of_smooth (hops ▸ h))

/-- A program stops with the error of one of its operations. -/
theorem stopsOnly_run {E : ε → Prop} (h : ∀ op ∈ ops, E op.error) : StopsOnly E (run ops) t := by
  intro e t' herror
  obtain hsmooth | ⟨pre, op, post, hops, hpre, hop⟩ := smooth_or_clashes t ops
  · rw [run_of_smooth hsmooth] at herror
    cases herror
  · obtain ⟨rfl, -⟩ := EStateM.Result.error.inj ((run_of_clashes hops hpre hop).symm.trans herror)
    exact h op (hops ▸ List.mem_append_right _ List.mem_cons_self)

/-! ### Operations below a directory -/

/-- The same operation below a directory. -/
def shift (dir : List N) : TreeOp N C ε → TreeOp N C ε
  | mkdir p inWay => mkdir (dir ++ p) inWay
  | write p content inWay => write (dir ++ p) content inWay
  | stop e => stop e

/-- The operation does below a directory what it does to what is in it. -/
theorem exec_shift (dir : List N) (op : TreeOp N C ε) :
    (op.shift dir).exec = zoom (fun t => t.sub dir) (fun u t => t.graft dir u) op.exec := by
  funext t
  cases op with
  | mkdir p inWay =>
    rw [shift, exec, bind_of_ok (get_apply t), zoom, exec, bind_of_ok (get_apply _), sub_apply]
    cases t (dir ++ p) with
    | none => exact congrArg _ (put_eq_graft t dir p .dir)
    | some entry => cases entry <;> exact congrArg _ (graft_sub t dir).symm
  | write p content inWay =>
    rw [shift, exec, bind_of_ok (get_apply t), zoom, exec, bind_of_ok (get_apply _),
      show (t.sub dir).isDir p = t.isDir (dir ++ p) from rfl]
    cases t.isDir (dir ++ p) with
    | true => exact congrArg _ (graft_sub t dir).symm
    | false => exact congrArg _ (put_eq_graft t dir p (.file content))
  | stop e => exact congrArg _ (graft_sub t dir).symm

/-- A list of operations does below a directory what it does to what is in it. -/
theorem run_map_shift (dir : List N) (ops : List (TreeOp N C ε)) :
    run (ops.map (shift dir)) = zoom (fun t => t.sub dir) (fun u t => t.graft dir u) (run ops) := by
  induction ops with
  | nil => exact funext fun t => congrArg _ (graft_sub t dir).symm
  | cons op ops ih =>
    funext t
    rw [List.map_cons, run, run, exec_shift, ih, bind_apply]
    unfold zoom
    rw [bind_apply]
    cases op.exec (t.sub dir) with
    | error e u => rfl
    | ok a u =>
      simp only [sub_graft]
      cases run ops u <;> exact congrArg _ (graft_graft ..)

/-! ### Making a directory with all that lead to it -/

/-- The directories on the way. -/
def mkdirs (e : Bool → ε) (cur : List N) : List (PathStep N) → List (TreeOp N C ε)
  | [] => []
  | .into name :: steps =>
    mkdir (cur ++ [name]) (e (steps.all (· = .here))) :: mkdirs e (cur ++ [name]) steps
  | step :: steps => mkdirs e (step.apply cur) steps

theorem discard_createDirAll (e : Bool → ε) (cur : List N) (steps : List (PathStep N))
    (t : FileTree N C) :
    discard (createDirAll e cur steps) t = run (mkdirs e cur steps) t := by
  induction steps generalizing cur t with
  | nil => rfl
  | cons step steps ih =>
    cases step with
    | here | up => exact ih _ t
    | into name =>
      rw [discard_apply, createDirAll, bind_of_ok (get_apply t), mkdirs, run, exec, bind_assoc,
        bind_of_ok (get_apply t)]
      cases t (cur ++ [name]) with
      | none => exact (discard_apply _ _).symm.trans (ih _ _)
      | some entry =>
        cases entry with
        | dir => exact (discard_apply _ _).symm.trans (ih _ t)
        | file content => rfl

theorem mkdirs_of_staysBelow (e : Bool → ε) (dir cur : List N) {steps : List (PathStep N)}
    (h : staysBelow cur.length steps = true) :
    (mkdirs e (dir ++ cur) steps : List (TreeOp N C ε)) =
      (mkdirs e cur steps).map (shift dir) := by
  induction steps generalizing cur with
  | nil => rfl
  | cons step steps ih =>
    obtain ⟨happly, hrest⟩ := apply_append dir h
    cases step with
    | here | up =>
      rw [mkdirs, mkdirs, happly]
      · exact ih _ hrest
      · exact fun _ h => nomatch h
      · exact fun _ h => nomatch h
    | into name =>
      rw [mkdirs, mkdirs, List.map_cons, List.append_assoc]
      exact congrArg _ (ih _ hrest)

theorem mkdirs_eq_map_shift (e : Bool → ε) (dir : List N) {steps : List (PathStep N)}
    (h : staysBelow 0 steps = true) :
    (mkdirs e dir steps : List (TreeOp N C ε)) = (mkdirs e [] steps).map (shift dir) := by
  rw [← mkdirs_of_staysBelow e dir [] h, List.append_nil]

/-- Directories are made with the errors that making them has. -/
theorem error_of_mem_mkdirs {e : Bool → ε} {cur : List N} {steps : List (PathStep N)}
    (h : op ∈ (mkdirs e cur steps : List (TreeOp N C ε))) : ∃ last, op.error = e last := by
  induction steps generalizing cur with
  | nil => cases h
  | cons step steps ih =>
    cases step with
    | here | up => exact ih h
    | into name =>
      obtain rfl | h := List.mem_cons.mp h
      · exact ⟨_, rfl⟩
      · exact ih h

end TreeOp
